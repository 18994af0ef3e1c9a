import SearchPanel.Text.Lowercase
import SearchPanel.Text.Numeral

/-!
# Colors of terminal reports

Reports use six colors from one of two palettes, as 24-bit escape sequences. `Theme.detect` chooses
the palette from the environment, dark being the default. `Display` holds what a report has to know
of the terminal; with colors off, `Display.paint` leaves a text bare.
-/

namespace SearchPanel.Terminal

/-- The background that a palette is made for. -/
inductive Theme
  | dark
  | light
deriving DecidableEq, Repr

/-- The part of `text` behind its last semicolon. -/
def lastField (text : List Char) : List Char :=
  (text.reverse.takeWhile (· ≠ ';')).reverse

/-- The theme a name asks for, in any case and also by its first letter. -/
def Theme.named? (name : String) : Option Theme :=
  match Text.lower name with
  | "light" | "l" => some .light
  | "dark" | "d" => some .dark
  | _ => none

/-- The theme for a terminal that describes its colors as `foreground;background`. The backgrounds
from 7 up are light, except 8. -/
def Theme.ofBackground (colors : String) : Theme :=
  match Text.boundedNumber? 256 (String.ofList (lastField colors.toList)) with
  | some n => if 7 ≤ n ∧ n ≠ 8 then .light else .dark
  | none => .dark

/-- The theme from a chosen name and from the terminal's colors; a name that is none counts as not
given. -/
def Theme.detect (chosen colors : Option String) : Theme :=
  match chosen.bind named? with
  | some theme => theme
  | none => (colors.map ofBackground).getD .dark

/-- The colors of the reports. -/
inductive Color
  /-- Errors and faults of an index. -/
  | red
  /-- An index without faults. -/
  | green
  /-- Marked stretches. -/
  | yellow
  /-- Result titles. -/
  | blue
  /-- Section labels. -/
  | cyan
  /-- Borders, links and hints. -/
  | gray
deriving DecidableEq, Repr

/-- Red, green and blue parts of a color. -/
def Color.rgb : Theme → Color → Nat × Nat × Nat
  | .dark, .red => (224, 108, 117)
  | .dark, .green => (152, 195, 121)
  | .dark, .yellow => (229, 192, 123)
  | .dark, .blue => (97, 175, 239)
  | .dark, .cyan => (86, 182, 194)
  | .dark, .gray => (92, 99, 112)
  | .light, .red => (228, 86, 73)
  | .light, .green => (80, 161, 79)
  | .light, .yellow => (193, 132, 1)
  | .light, .blue => (64, 120, 242)
  | .light, .cyan => (1, 132, 188)
  | .light, .gray => (160, 161, 167)

/-- The escape sequence that sets the foreground to a color. -/
def Color.code (theme : Theme) (color : Color) : List Char :=
  let (r, g, b) := color.rgb theme
  ("\x1b[38;2;" ++ toString r ++ ";" ++ toString g ++ ";" ++ toString b ++ "m").toList

/-- Ends every style. -/
def reset : List Char := "\x1b[0m".toList

/-- Makes the text bold. -/
def bold : List Char := "\x1b[1m".toList

/-- Underlines the text. -/
def underline : List Char := "\x1b[4m".toList

/-- What a report has to know of the terminal. -/
structure Display where
  theme : Theme := .dark
  colors : Bool := false

/-- `text` in a color and with modifiers in front, or bare when colors are off. -/
def Display.paint (d : Display) (color : Color) (modifiers text : List Char) : List Char :=
  if d.colors then modifiers ++ color.code d.theme ++ text ++ reset else text

/-- The style of marked stretches, if there are colors. -/
def Display.highlight (d : Display) : Option (List Char) :=
  if d.colors then some (bold ++ Color.code d.theme .yellow) else none

end SearchPanel.Terminal
