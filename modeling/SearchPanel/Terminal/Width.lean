import SearchPanel.Text.Blank

/-!
# Visible width

Escape sequences take no room on a terminal. `visibleLength` counts the characters outside of them,
a sequence reaching from the escape character to the next `m`. `wrap` breaks a text into lines by
that measure: each line takes the next word if it still fits.
-/

namespace SearchPanel.Terminal

/-- The character that begins an escape sequence. -/
def escapeChar : Char := '\x1b'

/-- The visible characters of a text; `inside` says that an escape sequence is still open. -/
def visibleFrom (inside : Bool) : List Char → Nat
  | [] => 0
  | c :: rest =>
    if c = escapeChar then visibleFrom true rest
    else if inside then visibleFrom (c ≠ 'm') rest
    else visibleFrom false rest + 1

/-- How many characters of a text are visible. -/
def visibleLength (text : List Char) : Nat := visibleFrom false text

/-- The lines of `line` followed by the given words, none wider than `width` unless it is one
word. -/
def fillLines (width : Nat) (line : List Char) : List (List Char) → List (List Char)
  | [] => [line]
  | word :: rest =>
    if visibleLength line + 1 + visibleLength word > width then line :: fillLines width word rest
    else fillLines width (line ++ ' ' :: word) rest

/-- The words of a text on lines of at most `width` visible characters, as many on each line as
fit. A word that is wider has a line of its own. -/
def wrap (text : List Char) (width : Nat) : List (List Char) :=
  match Text.words text with
  | [] => []
  | word :: rest => fillLines width word rest

end SearchPanel.Terminal
