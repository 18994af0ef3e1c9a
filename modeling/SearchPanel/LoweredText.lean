import SearchPanel.Span
import SearchPanel.Text.Lowercase

/-!
# Searching a lowered text

Lower-casing can change the length of a text, so a place found in the lowered text has to be led
back to the source. A `LoweredText` keeps the lower-case form of each source character, and
`owned` writes beside each lowered character the position of the source character that it comes
from. Positions in answers are always source positions.

* `find` gives the source character that holds the start of the leftmost occurrence.
* `occurrences` gives the occurrences that lie wholly inside a window of source characters, from
  the left and without overlap; one that touches a part of a character's form covers that
  character.
-/

namespace SearchPanel

/-- A text in lower case, as the form of each of its source characters. -/
structure LoweredText where
  pieces : List (List Char)

namespace LoweredText

/-- The lower-case form of `text`. -/
def ofChars (text : List Char) : LoweredText := ⟨Text.pieces text⟩

/-- The lowered text itself. -/
def chars (t : LoweredText) : List Char := t.pieces.flatten

/-- How many source characters there are. -/
def charCount (t : LoweredText) : Nat := t.pieces.length

/-- The characters of `pieces`, each with the position of its piece, counted from `k`. -/
def owned (k : Nat) : List (List Char) → List (Char × Nat)
  | [] => []
  | piece :: rest => piece.map (·, k) ++ owned (k + 1) rest

/-- If `text` begins with `needle`, the position that owns the last character of it. -/
def lastOwner? : List Char → List (Char × Nat) → Option Nat
  | [], _ => none
  | _ :: _, [] => none
  | [n], (c, k) :: _ => if n = c then some k else none
  | n :: n' :: needle, (c, _) :: text =>
    if n = c then lastOwner? (n' :: needle) text else none

/-- The owner of the first character of the leftmost occurrence of `needle`. -/
def firstOwner? (needle : List Char) : List (Char × Nat) → Option Nat
  | [] => none
  | (c, k) :: text =>
    if (lastOwner? needle ((c, k) :: text)).isSome then some k else firstOwner? needle text

/-- The source character that holds the start of the leftmost occurrence of `needle`; the empty
needle occurs nowhere. -/
def find (t : LoweredText) (needle : List Char) : Option Nat :=
  firstOwner? needle (owned 0 t.pieces)

/-- The source spans of the occurrences of `needle` from the left, none beginning inside the one
before; the first `skip` characters of the text still belong to the last one. -/
def hits (needle : List Char) : (skip : Nat) → List (Char × Nat) → List Span
  | _, [] => []
  | skip + 1, _ :: text => hits needle skip text
  | 0, (c, k) :: text =>
    match lastOwner? needle ((c, k) :: text) with
    | some last => ⟨k, last + 1⟩ :: hits needle (needle.length - 1) text
    | none => hits needle 0 text

/-- The spans that do not begin before `free`, nor before the end of the one kept last. -/
def keepDisjoint (free : Nat) : List Span → List Span
  | [] => []
  | s :: rest => if s.first < free then keepDisjoint free rest else s :: keepDisjoint s.stop rest

/-- The non-overlapping occurrences of `needle` that lie wholly inside the source characters
`start ≤ k < stop`. -/
def occurrences (t : LoweredText) (needle : List Char) (start stop : Nat) : List Span :=
  if needle.isEmpty then []
  else keepDisjoint 0 (hits needle 0 (owned start ((t.pieces.drop start).take (stop - start))))

end LoweredText

end SearchPanel
