import SearchPanel.Snippet
import SearchPanel.Terminal.Entity
import SearchPanel.Terminal.Style
import SearchPanel.Text.Substring

/-!
# Snippets on a terminal

On a terminal the marked stretches of a snippet are shown in a style and character references are
replaced by the characters they name. `Segment.ofMarkup` reads the markup back into segments: the
first `<mark>` opens a marked stretch, the next `</mark>` closes it, and one that is never closed
reaches to the end.
-/

namespace SearchPanel

/-- The segments of a marked-up text. -/
def Segment.ofMarkup (html : List Char) : List Segment :=
  match hopen : Text.cut? markOpen html with
  | none => [.plain html]
  | some (before, rest) =>
    match hclose : Text.cut? markClose rest with
    | none => [.plain before, .marked rest]
    | some (inside, after) =>
      have : after.length < html.length := by
        have h₁ := Text.length_after_cut? hopen
        have h₂ := Text.length_after_cut? hclose
        have h₃ : markOpen.length = 6 := rfl
        omega
      .plain before :: .marked inside :: ofMarkup after
termination_by html.length

namespace Terminal

/-- A segment as terminal text, marked stretches in the style `highlight`. -/
def showSegment (highlight : Option (List Char)) : Segment → List Char
  | .plain t => decodeEntities t
  | .marked t =>
    match highlight with
    | some style => style ++ decodeEntities t ++ reset
    | none => decodeEntities t

/-- A marked-up text as terminal text. -/
def showMarkup (html : List Char) (highlight : Option (List Char)) : List Char :=
  (Segment.ofMarkup html).flatMap (showSegment highlight)

end Terminal

end SearchPanel
