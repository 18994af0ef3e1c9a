import SearchPanel.Json.Index

/-!
# How values are written in JSON

The grammar of JSON over texts, told without the readers.

* `Spells s text`: between quotes, `text` is read as the characters `s`. Every character has several
  spellings. `StringText text` asks less: escaped surrogates may stand alone.
* `NumberText text`, `ScalarText text`: a number, or any value without nesting.
* `Enclosed first last item as text`: `text` holds the items `as` between brackets, with commas
  between them and white space around them.
* `ValueText depth text`: any value that is nested at most `depth` deep.
* `ObjectText members text`: an object with these members. A member's name is told by what it is
  read as, its value by how it is written.
-/

namespace SearchPanel.Json

/-- White space between the tokens. -/
def Blank (text : List Char) : Prop := ∀ c ∈ text, c ∈ [' ', '\n', '\t', '\r']

instance (text : List Char) : Decidable (Blank text) := List.decidableBAll _ text

/-! ## Strings -/

/-- The letters behind a backslash, and the characters that they stand for. -/
def escapes : List (Char × Char) :=
  [('"', '"'), ('\\', '\\'), ('/', '/'), ('b', '\x08'), ('f', '\x0c'), ('n', '\n'), ('r', '\r'),
    ('t', '\t')]

/-- `c` is the digit of base sixteen with the value `n`, as a small or a capital letter. -/
def HexDigit (n : Nat) (c : Char) : Prop :=
  "0123456789abcdef".toList[n]? = some c ∨ "0123456789ABCDEF".toList[n]? = some c

/-- Four digits of base sixteen with the value `n`. -/
inductive HexDigits : Nat → List Char → Prop
  | four {n₁ n₂ n₃ n₄ : Nat} {c₁ c₂ c₃ c₄ : Char} (h₁ : HexDigit n₁ c₁) (h₂ : HexDigit n₂ c₂)
      (h₃ : HexDigit n₃ c₃) (h₄ : HexDigit n₄ c₄) :
      HexDigits (((n₁ * 16 + n₂) * 16 + n₃) * 16 + n₄) [c₁, c₂, c₃, c₄]

/-- `c` may stand for itself in a string. -/
structure Unescaped (c : Char) : Prop where
  ne_quote : c ≠ '"'
  ne_backslash : c ≠ '\\'
  not_control : 0x20 ≤ c.toNat

/-- `SpellsChar c text`: in a string, `text` is read as `c`. A character outside of the first plane
is escaped as a pair of surrogates. -/
inductive SpellsChar : Char → List Char → Prop
  | unescaped {c : Char} (h : Unescaped c) : SpellsChar c [c]
  | letter {letter c : Char} (h : (letter, c) ∈ escapes) : SpellsChar c ['\\', letter]
  | code {n : Nat} {digits : List Char} (h : HexDigits n digits)
      (hn : n < 0xD800 ∨ 0xDFFF < n) : SpellsChar (Char.ofNat n) ('\\' :: 'u' :: digits)
  | pair {n m : Nat} {digits digits' : List Char} (h : HexDigits n digits)
      (h' : HexDigits m digits') (hn : 0xD800 ≤ n ∧ n ≤ 0xDBFF) (hm : 0xDC00 ≤ m ∧ m ≤ 0xDFFF) :
      SpellsChar (Char.ofNat (0x10000 + (n - 0xD800) * 0x400 + (m - 0xDC00)))
        ('\\' :: 'u' :: digits ++ '\\' :: 'u' :: digits')

/-- In a string, `text` is read as the characters `s`. -/
inductive Spells : List Char → List Char → Prop
  | nil : Spells [] []
  | cons {c : Char} {s text rest : List Char} (h : SpellsChar c text) (hs : Spells s rest) :
      Spells (c :: s) (text ++ rest)

/-- What may stand between the quotes of a string whose characters do not matter. -/
inductive StringText : List Char → Prop
  | nil : StringText []
  | unescaped {c : Char} {rest : List Char} (h : Unescaped c) (hr : StringText rest) :
      StringText (c :: rest)
  | letter {letter c : Char} {rest : List Char} (h : (letter, c) ∈ escapes)
      (hr : StringText rest) : StringText ('\\' :: letter :: rest)
  | code {n : Nat} {digits rest : List Char} (h : HexDigits n digits) (hr : StringText rest) :
      StringText ('\\' :: 'u' :: digits ++ rest)

/-- A text between quotes. -/
def quote (text : List Char) : List Char := '"' :: text ++ ['"']

/-! ## Numbers -/

/-- One digit or more. -/
structure DigitsText (text : List Char) : Prop where
  ne_nil : text ≠ []
  digits : ∀ c ∈ text, c.isDigit = true

/-- The digits before the point. A zero stands alone. -/
inductive WholeText : List Char → Prop
  | zero : WholeText ['0']
  | digits {text : List Char} (h : DigitsText text) (hz : text.head? ≠ some '0') : WholeText text

/-- The point and the digits behind it, or nothing. -/
inductive FractionText : List Char → Prop
  | none : FractionText []
  | digits {text : List Char} (h : DigitsText text) : FractionText ('.' :: text)

/-- The exponent with its mark, or nothing. -/
inductive ExponentText : List Char → Prop
  | none : ExponentText []
  | digits {mark : Char} {sign text : List Char} (hm : mark = 'e' ∨ mark = 'E')
      (hs : sign ∈ [[], ['+'], ['-']]) (h : DigitsText text) : ExponentText (mark :: sign ++ text)

/-- A number without its sign. -/
inductive MagnitudeText : List Char → Prop
  | parts {whole fraction exponent : List Char} (hw : WholeText whole)
      (hf : FractionText fraction) (he : ExponentText exponent) :
      MagnitudeText (whole ++ fraction ++ exponent)

/-- A number. -/
inductive NumberText : List Char → Prop
  | positive {text : List Char} (h : MagnitudeText text) : NumberText text
  | negative {text : List Char} (h : MagnitudeText text) : NumberText ('-' :: text)

/-! ## Nesting -/

/-- A value without nesting. -/
inductive ScalarText : List Char → Prop
  | null : ScalarText "null".toList
  | boolean (b : Bool) : ScalarText (if b then "true".toList else "false".toList)
  | number {text : List Char} (h : NumberText text) : ScalarText text
  | string {text : List Char} (h : StringText text) : ScalarText (quote text)

/-- Some items with commas between them and white space around them. -/
inductive Separated {α : Type} (item : α → List Char → Prop) : List α → List Char → Prop
  | single {a : α} {before text after : List Char} (hb : Blank before) (h : item a text)
      (ha : Blank after) : Separated item [a] (before ++ (text ++ after))
  | cons {a : α} {as : List α} {before text after rest : List Char} (hb : Blank before)
      (h : item a text) (ha : Blank after) (hr : Separated item as rest) :
      Separated item (a :: as) (before ++ (text ++ (after ++ ',' :: rest)))

/-- Any number of items in brackets. -/
inductive Enclosed {α : Type} (first last : Char) (item : α → List Char → Prop) :
    List α → List Char → Prop
  | empty {blank : List Char} (h : Blank blank) :
      Enclosed first last item [] (first :: blank ++ [last])
  | items {as : List α} {text : List Char} (h : Separated item as text) :
      Enclosed first last item as (first :: text ++ [last])

/-- A name in quotes, a colon, and a value. -/
inductive MemberText (name value : List Char → Prop) : List Char → Prop
  | intro {n before after v : List Char} (hn : name n) (hb : Blank before) (ha : Blank after)
      (hv : value v) : MemberText name value (quote n ++ (before ++ ':' :: (after ++ v)))

/-- An item that is told by its own text. -/
def Itself (item : List Char → Prop) (a text : List Char) : Prop := text = a ∧ item a

/-- A value that is nested at most `depth` deep. -/
def ValueText : Nat → List Char → Prop
  | 0, text => ScalarText text
  | depth + 1, text => ScalarText text ∨
      (∃ items, Enclosed '[' ']' (Itself (ValueText depth)) items text) ∨
      ∃ members, Enclosed '{' '}' (Itself (MemberText StringText (ValueText depth))) members text

/-- A member of an object: its name, and the text of its value. -/
structure Member where
  name : String
  value : List Char

/-- How a member is written. -/
def Member.Writes (m : Member) : List Char → Prop :=
  MemberText (Spells m.name.toList) fun v => v = m.value ∧ ∃ depth, ValueText depth v

/-- An object with some members, in their order. -/
def ObjectText (members : List Member) (text : List Char) : Prop :=
  Enclosed '{' '}' Member.Writes members text

end SearchPanel.Json
