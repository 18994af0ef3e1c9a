import SearchPanel.Text.CaseData

/-!
# Lower case

The one case rule of the panel: both the query and the fields are put in lower case and then
compared character by character. The rule is the full Unicode mapping without a locale:

* a character maps to its lower-case form, which may be two characters (`İ` gives `i` and a
  combining dot);
* a capital sigma at the end of a word maps to the final form `ς`, any other to `σ`.

`pieces` keeps the form of each source character apart, so that a position in the lowered text can
be led back to the source; `lowerChars` joins them.
-/

namespace SearchPanel.Text

/-- Whether `c` belongs to the property Cased. -/
def isCased (c : Char) : Bool := CodeRange.holds c.toNat casedRanges

/-- Whether `c` belongs to the property Case_Ignorable. -/
def isCaseIgnorable (c : Char) : Bool := CodeRange.holds c.toNat ignorableRanges

/-- The lower-case form of `c` on its own. -/
def lowerChar (c : Char) : List Char :=
  if c = 'İ' then ['i', '\u0307']
  else
    match CaseRun.lookup c.toNat lowerRuns with
    | some n => [Char.ofNat n]
    | none => [c]

/-- Whether the first character that is not case-ignorable is cased. -/
def meetsCased : List Char → Bool
  | [] => false
  | c :: rest => if isCaseIgnorable c then meetsCased rest else isCased c

/-- Whether a sigma ends a word: a cased character stands before it and none after it.
`before` is read backwards, nearest character first. -/
def endsWord (before after : List Char) : Bool := meetsCased before && !meetsCased after

/-- The lower-case form of `c` between `before` (nearest character first) and `after`. -/
def lowerBetween (before : List Char) (c : Char) (after : List Char) : List Char :=
  if c = 'Σ' then [if endsWord before after then 'ς' else 'σ'] else lowerChar c

/-- The lower-case forms of the characters of a text that stands after `before`. -/
def piecesAfter (before : List Char) : List Char → List (List Char)
  | [] => []
  | c :: rest => lowerBetween before c rest :: piecesAfter (c :: before) rest

/-- The lower-case form of each character of a text. -/
def pieces (text : List Char) : List (List Char) := piecesAfter [] text

/-- A text in lower case. -/
def lowerChars (text : List Char) : List Char := (pieces text).flatten

/-- A text in lower case. -/
def lower (text : String) : String := String.ofList (lowerChars text.toList)

@[simp] theorem length_piecesAfter (before text : List Char) :
    (piecesAfter before text).length = text.length := by
  induction text generalizing before with
  | nil => rfl
  | cons c rest ih => simp [piecesAfter, ih]

/-- There is one piece for each source character. -/
@[simp] theorem length_pieces (text : List Char) : (pieces text).length = text.length :=
  length_piecesAfter [] text

theorem lowerChar_ne_nil (c : Char) : lowerChar c ≠ [] := by
  unfold lowerChar
  split
  · simp
  · split <;> simp

/-- No piece is empty. -/
theorem lowerBetween_ne_nil (before : List Char) (c : Char) (after : List Char) :
    lowerBetween before c after ≠ [] := by
  unfold lowerBetween
  split
  · simp
  · exact lowerChar_ne_nil c

end SearchPanel.Text
