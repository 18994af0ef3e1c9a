import SearchPanel.Config
import SearchPanel.LoweredText

/-!
# Snippets

A snippet is a bounded excerpt of a field around the first occurrence of the query, with every
occurrence inside the excerpt marked. `Excerpt` holds it as data: the plain and marked segments of
the window, and whether text was cut off before and behind it. `Excerpt.render` adds the ellipses
and the markup; the text of the field is never changed, since an index may carry markup that the
page is meant to show.

The window is `length` characters wide and begins half of that before the first occurrence, or at
the start of the field. A field without an occurrence shows its beginning.
-/

namespace SearchPanel

/-- A stretch of an excerpt. -/
inductive Segment
  | plain (text : List Char)
  | marked (text : List Char)
deriving DecidableEq, Repr

/-- The characters of a segment, without markup. -/
def Segment.text : Segment → List Char
  | plain t => t
  | marked t => t

/-- Markup before a marked stretch. -/
def markOpen : List Char := "<mark>".toList

/-- Markup behind a marked stretch. -/
def markClose : List Char := "</mark>".toList

/-- Stands where text was cut off. -/
def ellipsis : List Char := "...".toList

/-- A segment with its markup. -/
def Segment.render : Segment → List Char
  | plain t => t
  | marked t => markOpen ++ t ++ markClose

/-- The part of a field that a snippet shows. -/
structure Excerpt where
  /-- Text was cut off before the segments. -/
  cutBefore : Bool := false
  segments : List Segment := []
  /-- Text was cut off behind the segments. -/
  cutAfter : Bool := false
deriving DecidableEq, Repr

namespace Excerpt

/-- The characters shown, without markup and ellipses. -/
def text (e : Excerpt) : List Char := e.segments.flatMap Segment.text

/-- The excerpt as markup. -/
def render (e : Excerpt) : List Char :=
  (if e.cutBefore then ellipsis else []) ++ e.segments.flatMap Segment.render ++
    (if e.cutAfter then ellipsis else [])

end Excerpt

/-- The characters `start ≤ k < stop` of `field`, cut at `marks`, which are sorted, disjoint and
inside. -/
def segments (field : List Char) (start stop : Nat) : List Span → List Segment
  | [] => [.plain (slice field start stop)]
  | m :: marks =>
    .plain (slice field start m.first) :: .marked (slice field m.first m.stop) ::
      segments field m.stop stop marks

/-- The window of `length` characters around position `center` of a field of `count` characters. -/
def snippetWindow (count center length : Nat) : Span :=
  let start := center - length / 2
  ⟨start, min count (start + length)⟩

/-- The beginning of a field, as far as it fits `length` characters. -/
def opening (field : List Char) (length : Nat) : Excerpt :=
  { segments := [.plain (field.take length)], cutAfter := length < field.length }

/-- The excerpt of `field` around the first occurrence of `query`. -/
def excerpt (field query : List Char) (length : Nat) : Excerpt :=
  if field.isEmpty || query.isEmpty then {}
  else
    let needle := Text.lowerChars query
    let lowered := LoweredText.ofChars field
    match lowered.find needle with
    | none => opening field length
    | some i =>
      let w := snippetWindow field.length i length
      { cutBefore := 0 < w.first
        segments := segments field w.first w.stop (lowered.occurrences needle w.first w.stop)
        cutAfter := w.stop < field.length }

/-- The highlighted excerpt of `field` around `query`, showing at most `length` of its
characters. -/
def snippet (field query : String) (length : Nat := defaultSnippetLength) : String :=
  String.ofList (excerpt field.toList query.toList length).render

end SearchPanel
