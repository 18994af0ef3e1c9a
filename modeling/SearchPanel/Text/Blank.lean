/-!
# White space

`isBlank` is the property White_Space of Unicode. A text is blank when it holds nothing else, and
`words` cuts a text at every run of white space.
-/

namespace SearchPanel.Text

/-- The property White_Space. -/
def isBlank (c : Char) : Bool :=
  let n := c.toNat
  (0x09 ≤ n && n ≤ 0x0D) || n = 0x20 || n = 0x85 || n = 0xA0 || n = 0x1680 ||
    (0x2000 ≤ n && n ≤ 0x200A) || n = 0x2028 || n = 0x2029 || n = 0x202F || n = 0x205F ||
    n = 0x3000

/-- Whether nothing is left of `text` without its white space. -/
def isBlankText (text : String) : Bool := text.toList.all isBlank

/-- A text without the white space at its ends. -/
def trim (text : List Char) : List Char :=
  ((text.dropWhile isBlank).reverse.dropWhile isBlank).reverse

/-- Puts `c` in front of the first of `words`. -/
def extendFirst (c : Char) : List (List Char) → List (List Char)
  | [] => [[c]]
  | word :: rest => (c :: word) :: rest

/-- The words of a text: its longest pieces without white space, in order. -/
def words : List Char → List (List Char)
  | [] => []
  | [c] => if isBlank c then [] else [[c]]
  | c :: d :: rest =>
    if isBlank c then words (d :: rest)
    else if isBlank d then [c] :: words (d :: rest)
    else extendFirst c (words (d :: rest))

end SearchPanel.Text
