import SearchPanel.Json.Failure
import SearchPanel.Text.Numeral

/-!
# Words, strings and numbers of JSON

The readers of this library take the characters that are left and give back what they read with the
characters left after it, or a failure. This module has the readers without nesting:

* `afterWord` for `null`, `true` and `false`;
* `readString` for a string, escapes decoded, and `skipString`, which only finds its end;
* `scanNumber` for the parts of a number, without a limit to its size.

Each reader leaves less than it was given (the lemmas named `length_…`), which is what lets the
readers above them end.
-/

namespace SearchPanel.Json

/-- What a reader gives: a value and the characters left behind it. -/
abbrev Reading (α : Type) := Except Failure (α × List Char)

/-- White space between the tokens of JSON. -/
def isSpace (c : Char) : Bool := c = ' ' || c = '\n' || c = '\t' || c = '\r'

/-- A text without the white space in front. -/
def skipSpace (text : List Char) : List Char := text.dropWhile isSpace

theorem length_skipSpace_le (text : List Char) : (skipSpace text).length ≤ text.length :=
  (List.dropWhile_suffix _).length_le

/-! ## Words -/

/-- What is left behind the letters of `word`. -/
def afterWord : (word : List Char) → List Char → Except Failure (List Char)
  | [], text => .ok text
  | _ :: _, [] => .error (.behind .endInValue [])
  | w :: word, c :: text =>
    if w = c then afterWord word text else .error (.ahead .expectedWord (c :: text))

theorem length_afterWord {word text rest : List Char} (h : afterWord word text = .ok rest) :
    rest.length + word.length = text.length := by
  fun_induction afterWord word text with
  | case1 => simp_all
  | case2 => simp at h
  | case3 _ _ _ ih => have := ih h; simp; omega
  | case4 => simp at h

/-! ## Strings -/

/-- The value of four hexadecimal digits. -/
def hexValue? (a b c d : Char) : Option Nat := Text.numeral? 16 [a, b, c, d]

/-- The value of the four hexadecimal digits in front. Four bytes are taken even if they are
none. -/
def readHex : List Char → Reading Nat
  | a :: b :: c :: d :: rest =>
    match hexValue? a b c d with
    | some n => .ok (n, rest)
    | none => .error ⟨.invalidEscape, a :: b :: c :: d :: rest, 4⟩
  | text =>
    if byteCount text < 4 then .error (.behind .endInString [])
    else .error ⟨.invalidEscape, text, 4⟩

/-- The character that one letter stands for behind a backslash. -/
def simpleEscape? (c : Char) : Option Char :=
  match c with
  | '"' => some '"'
  | '\\' => some '\\'
  | '/' => some '/'
  | 'b' => some '\x08'
  | 'f' => some '\x0c'
  | 'n' => some '\n'
  | 'r' => some '\r'
  | 't' => some '\t'
  | _ => none

/-- Whether `n` is the first half of a surrogate pair. -/
def isLeading (n : Nat) : Bool := 0xD800 ≤ n && n ≤ 0xDBFF

/-- Whether `n` is the second half of a surrogate pair. -/
def isTrailing (n : Nat) : Bool := 0xDC00 ≤ n && n ≤ 0xDFFF

/-- The second half of the pair that `leading` begins, and the character of both. -/
def readPair (leading : Nat) : List Char → Reading Char
  | [] => .error (.behind .endInString [])
  | '\\' :: [] => .error (.behind .endInString [])
  | '\\' :: 'u' :: text =>
    match readHex text with
    | .error e => .error e
    | .ok (n, rest) =>
      if isTrailing n then
        .ok (Char.ofNat (0x10000 + (leading - 0xD800) * 0x400 + (n - 0xDC00)), rest)
      else .error (.behind .loneSurrogate rest)
  | '\\' :: text => .error (.ahead .unpairedSurrogate text)
  | text => .error (.ahead .unpairedSurrogate text)

/-- The character that an escape stands for, its backslash being read. -/
def readEscape : List Char → Reading Char
  | [] => .error (.behind .endInString [])
  | 'u' :: text =>
    match readHex text with
    | .error e => .error e
    | .ok (n, rest) =>
      if isTrailing n then .error (.behind .loneSurrogate rest)
      else if isLeading n then readPair n rest
      else .ok (Char.ofNat n, rest)
  | c :: text =>
    match simpleEscape? c with
    | some x => .ok (x, text)
    | none => .error (.ahead .invalidEscape (c :: text))

/-- Whether `c` may not stand in a string unescaped. -/
def isControl (c : Char) : Bool := c.toNat < 0x20

theorem length_readHex {text rest : List Char} {n : Nat} (h : readHex text = .ok (n, rest)) :
    rest.length < text.length := by
  unfold readHex at h
  split at h
  · split at h
    · injection h with h; injection h with _ h; subst h; simp; omega
    · simp at h
  · split at h <;> simp at h

theorem length_readPair {leading : Nat} {text rest : List Char} {c : Char}
    (h : readPair leading text = .ok (c, rest)) : rest.length < text.length := by
  unfold readPair at h
  split at h
  · simp at h
  · simp at h
  · split at h
    · simp at h
    · next hx =>
      have := length_readHex hx
      split at h
      · injection h with h; injection h with _ h; subst h; simp; omega
      · simp at h
  · simp at h
  · simp at h

theorem length_readEscape {text rest : List Char} {c : Char}
    (h : readEscape text = .ok (c, rest)) : rest.length < text.length := by
  unfold readEscape at h
  split at h
  · simp at h
  · split at h
    · simp at h
    · next hx =>
      have := length_readHex hx
      split at h
      · simp at h
      · split at h
        · have := length_readPair h; simp; omega
        · injection h with h; injection h with _ h; subst h; simp; omega
  · split at h
    · injection h with h; injection h with _ h; subst h; simp
    · simp at h

/-- The characters of a string whose opening quote has been read. -/
def readString : List Char → Reading (List Char)
  | [] => .error (.behind .endInString [])
  | c :: text =>
    if c = '"' then .ok ([], text)
    else if c = '\\' then
      match h : readEscape text with
      | .error e => .error e
      | .ok (x, rest) =>
        have := length_readEscape h
        match readString rest with
        | .error e => .error e
        | .ok (xs, r) => .ok (x :: xs, r)
    else if isControl c then .error (.ahead .controlCharacter (c :: text))
    else
      match readString text with
      | .error e => .error e
      | .ok (xs, r) => .ok (c :: xs, r)
termination_by text => text.length

/-- What is left behind the four hexadecimal digits or the letter of an escape. -/
def skipEscape : List Char → Except Failure (List Char)
  | [] => .error (.behind .endInString [])
  | 'u' :: text =>
    match readHex text with
    | .error e => .error e
    | .ok (_, rest) => .ok rest
  | c :: text =>
    if (simpleEscape? c).isSome then .ok text else .error (.ahead .invalidEscape (c :: text))

theorem length_skipEscape {text rest : List Char} (h : skipEscape text = .ok rest) :
    rest.length < text.length := by
  unfold skipEscape at h
  split at h
  · simp at h
  · split at h
    · simp at h
    · next hx =>
      have := length_readHex hx
      injection h with h
      subst h
      simp
      omega
  · split at h
    · injection h with h; simp [← h]
    · simp at h

/-- What is left behind a string whose opening quote has been read. Surrogates need no partner. -/
def skipString : List Char → Except Failure (List Char)
  | [] => .error (.behind .endInString [])
  | c :: text =>
    if c = '"' then .ok text
    else if c = '\\' then
      match h : skipEscape text with
      | .error e => .error e
      | .ok rest =>
        have := length_skipEscape h
        skipString rest
    else if isControl c then .error (.behind .controlCharacter (c :: text))
    else skipString text
termination_by text => text.length

theorem length_readString {text rest xs : List Char} (h : readString text = .ok (xs, rest)) :
    rest.length < text.length := by
  fun_induction readString text generalizing rest xs <;> simp_all <;> omega

theorem length_skipString {text rest : List Char} (h : skipString text = .ok rest) :
    rest.length < text.length := by
  fun_induction skipString text generalizing rest <;> simp_all <;> omega

/-! ## Numbers -/

/-- The digits in front of a text, and the rest. -/
def takeDigits (text : List Char) : List Char × List Char :=
  (text.takeWhile Char.isDigit, text.dropWhile Char.isDigit)

/-- The parts of a number. -/
structure Numeral where
  negative : Bool
  /-- The digits before the point. -/
  whole : List Char
  /-- The digits behind the point; none without a point. -/
  fraction : List Char := []
  /-- Sign and digits of the exponent. -/
  exponent : Option (Bool × List Char) := none

/-- The exponent of a number, its mark being read: whether it is negative, and its digits.
`atEnd` is reported where the text ends instead. -/
def scanExponent (atEnd : Cause) (text : List Char) : Reading (Bool × List Char) :=
  let (negative, text) := match text with
    | '+' :: rest => (false, rest)
    | '-' :: rest => (true, rest)
    | _ => (false, text)
  match takeDigits text with
  | ([], []) => .error (.behind atEnd [])
  | ([], rest) => .error (.ahead .invalidNumber rest)
  | (digits, rest) => .ok ((negative, digits), rest)

/-- The number `n` with the exponent in front of a text, if there is one. -/
def withExponent (atEnd : Cause) (n : Numeral) : List Char → Reading Numeral
  | [] => .ok (n, [])
  | c :: text =>
    if c = 'e' || c = 'E' then
      match scanExponent atEnd text with
      | .error e => .error e
      | .ok (e, rest) => .ok ({ n with exponent := some e }, rest)
    else .ok (n, c :: text)

/-- What follows the digits before the point. -/
def scanTail (atEnd : Cause) (n : Numeral) : List Char → Reading Numeral
  | '.' :: text =>
    match takeDigits text with
    | ([], []) => .error (.ahead atEnd [])
    | ([], rest) => .error (.ahead .invalidNumber rest)
    | (digits, rest) =>
      withExponent atEnd { n with fraction := digits } rest
  | text => withExponent atEnd n text

/-- The parts of the number in front of a text, its minus sign being read. A zero stands alone
before the point. -/
def scanNumber (atEnd : Cause) (negative : Bool) : List Char → Reading Numeral
  | [] => .error (.behind atEnd [])
  | '0' :: text =>
    match text with
    | c :: rest =>
      if c.isDigit then .error (.ahead .invalidNumber (c :: rest))
      else scanTail atEnd ⟨negative, ['0'], [], none⟩ (c :: rest)
    | [] => scanTail atEnd ⟨negative, ['0'], [], none⟩ []
  | c :: text =>
    if c.isDigit then
      let (digits, rest) := takeDigits text
      scanTail atEnd ⟨negative, c :: digits, [], none⟩ rest
    else .error (.ahead .invalidNumber (c :: text))

theorem length_takeDigits_le (text : List Char) : (takeDigits text).2.length ≤ text.length :=
  (List.dropWhile_suffix _).length_le

theorem length_scanExponent {atEnd : Cause} {text rest : List Char} {e : Bool × List Char}
    (h : scanExponent atEnd text = .ok (e, rest)) : rest.length ≤ text.length := by
  unfold scanExponent at h
  split at h
  next negative digits hs =>
  have hle : digits.length ≤ text.length := by
    split at hs <;> (injection hs with _ hs; subst hs; simp)
  have := length_takeDigits_le digits
  split at h
  · simp at h
  · simp at h
  · next hd =>
    injection h with h
    injection h with _ h
    subst h
    rw [hd] at this
    exact Nat.le_trans this hle

theorem length_withExponent {atEnd : Cause} {n m : Numeral} {text rest : List Char}
    (h : withExponent atEnd n text = .ok (m, rest)) : rest.length ≤ text.length := by
  unfold withExponent at h
  split at h
  · simp_all
  · split at h
    · split at h
      · simp at h
      · next he =>
        have := length_scanExponent he
        injection h with h
        injection h with _ h
        subst h
        simp
        omega
    · injection h with h
      injection h with _ h
      subst h
      simp

theorem length_scanTail {atEnd : Cause} {n m : Numeral} {text rest : List Char}
    (h : scanTail atEnd n text = .ok (m, rest)) : rest.length ≤ text.length := by
  unfold scanTail at h
  split at h
  · next text =>
    have hle := length_takeDigits_le text
    split at h
    · simp at h
    · simp at h
    · next hd =>
      have := length_withExponent h
      rw [hd] at hle
      simp at hle ⊢
      omega
  · exact length_withExponent h

theorem length_scanNumber {atEnd : Cause} {negative : Bool} {n : Numeral} {text rest : List Char}
    (h : scanNumber atEnd negative text = .ok (n, rest)) : rest.length < text.length := by
  unfold scanNumber at h
  split at h
  · simp at h
  · split at h
    · split at h
      · simp at h
      · have := length_scanTail h; simp at *; omega
    · have := length_scanTail h; simp at *; omega
  · next text _ =>
    split at h
    · have := length_scanTail h
      have := length_takeDigits_le text
      simp only [takeDigits, List.length_cons] at *
      omega
    · simp at h

end SearchPanel.Json
