import SearchPanel.Terminal.EntityNames
import SearchPanel.Text.Numeral

/-!
# Character references

`decodeEntities` replaces the character references of a text: `&name;` with a name of the table,
`&#digits;` and `&#xdigits;`. A reference needs its semicolon; what names no character stays as it
is, and decoded text is not decoded again. An ampersand begins the reference anew.
-/

namespace SearchPanel.Terminal

/-- The character with a code point, where a numeric reference may name it: no surrogate, and of
the controls below the space only tab, line feed, form feed and carriage return. -/
def referencedChar? (n : Nat) : Option Char :=
  if n < 0x20 ∧ n ∉ [9, 10, 12, 13] then none
  else if h : n.isValidChar then some (Char.ofNatAux n h)
  else none

/-- The character named by what stands between `&` and `;`. -/
def entity? : List Char → Option Char
  | '#' :: 'x' :: digits => (Text.numeral? 16 digits).bind referencedChar?
  | '#' :: 'X' :: digits => (Text.numeral? 16 digits).bind referencedChar?
  | '#' :: digits => (Text.numeral? 10 digits).bind referencedChar?
  | name => (entityNames.lookup (String.ofList name)).map Char.ofNat

/-- Decodes a text. With `held`, an ampersand and the characters of `held` (in reverse) have been
read and may still become a reference. -/
def decodeFrom : (held : Option (List Char)) → List Char → List Char
  | none, [] => []
  | some held, [] => '&' :: held.reverse
  | none, c :: rest => if c = '&' then decodeFrom (some []) rest else c :: decodeFrom none rest
  | some held, c :: rest =>
    if c = '&' then '&' :: held.reverse ++ decodeFrom (some []) rest
    else if c = ';' then
      match entity? held.reverse with
      | some named => named :: decodeFrom none rest
      | none => '&' :: held.reverse ++ ';' :: decodeFrom none rest
    else decodeFrom (some (c :: held)) rest

/-- A text with its character references replaced. -/
def decodeEntities (text : List Char) : List Char := decodeFrom none text

/-- A text without an ampersand has nothing to decode. -/
theorem decodeEntities_of_not_mem {text : List Char} (h : '&' ∉ text) :
    decodeEntities text = text := by
  unfold decodeEntities
  induction text with
  | nil => rfl
  | cons c rest ih =>
    rw [List.mem_cons, not_or] at h
    rw [decodeFrom, if_neg (Ne.symm h.1), ih h.2]

end SearchPanel.Terminal
