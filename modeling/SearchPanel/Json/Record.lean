import SearchPanel.Json.Number
import SearchPanel.Json.Skip

/-!
# Records in JSON

A record is written as an object with named members, or as a list of its fields in order. All fields
of a record have one type of value, and each may be left out; `RecordType` says which fields there
are, how a value is read, and whether members with other names are refused or skipped. `readRecord`
gives the fields that were written with their values. A field that is written twice is refused.
-/

namespace SearchPanel.Json

/-- Why no value of the expected kind begins a text, which starts without white space. A value of
another kind is read as far as it has no nesting, so that a fault inside it comes first. -/
def wrongType (expected : String) : List Char → Failure
  | [] => .ahead .endInValue []
  | c :: text =>
    let found (f : Found) (rest : List Char) : Failure := .behind (.wrongType f expected) rest
    let word (letters : String) (f : Found) : Failure :=
      match afterWord letters.toList text with
      | .ok rest => found f rest
      | .error e => e
    let number (negative : Bool) (text : List Char) : Failure :=
      match readNumber negative text with
      | .ok (f, rest) => found f rest
      | .error e => e
    if c = 'n' then word "ull" .null
    else if c = 't' then word "rue" (.boolean true)
    else if c = 'f' then word "alse" (.boolean false)
    else if c = '-' then number true text
    else if c.isDigit then number false (c :: text)
    else if c = '"' then
      match readString text with
      | .ok (s, rest) => found (.string (String.ofList s)) rest
      | .error e => e
    else if c = '[' then found .sequence (c :: text)
    else if c = '{' then found .map (c :: text)
    else .ahead .expectedValue (c :: text)

/-- The string that begins after white space. -/
def readText (text : List Char) : Reading String :=
  match skipSpace text with
  | '"' :: rest =>
    match readString rest with
    | .error e => .error e
    | .ok (s, rest) => .ok (String.ofList s, rest)
  | start => .error (wrongType "a string" start)

/-- The string or `null` that begins after white space. -/
def readOptionalText (text : List Char) : Reading (Option String) :=
  match skipSpace text with
  | 'n' :: rest =>
    match afterWord "ull".toList rest with
    | .error e => .error e
    | .ok rest => .ok (none, rest)
  | start =>
    match readText start with
    | .error e => .error e
    | .ok (s, rest) => .ok (some s, rest)

theorem length_readText {text rest : List Char} {s : String}
    (h : readText text = .ok (s, rest)) : rest.length ≤ text.length := by
  have hs := length_skipSpace_le text
  unfold readText at h
  split at h
  · next hq =>
    split at h
    · simp at h
    · next hr =>
      have := length_readString hr
      rw [hq] at hs
      injection h with h
      injection h with _ h
      subst h
      simp only [List.length_cons] at hs
      omega
  · simp at h

theorem length_readOptionalText {text rest : List Char} {s : Option String}
    (h : readOptionalText text = .ok (s, rest)) : rest.length ≤ text.length := by
  have hs := length_skipSpace_le text
  unfold readOptionalText at h
  split at h
  · next hq =>
    split at h
    · simp at h
    · next hr =>
      have := length_afterWord hr
      rw [hq] at hs
      injection h with h
      injection h with _ h
      subst h
      simp only [List.length_cons] at hs
      omega
  · split at h
    · simp at h
    · next hr =>
      have := length_readText hr
      injection h with h
      injection h with _ h
      subst h
      omega

/-! ## Lists -/

/-- Whether the list that is open has a further element, and what is left in front of that element
or behind the list. -/
def nextElement (first : Bool) (text : List Char) : Reading Bool :=
  match skipSpace text with
  | [] => .error (.ahead .endInList [])
  | c :: rest =>
    if c = ']' then .ok (false, rest)
    else if first then .ok (true, c :: rest)
    else if c = ',' then
      match skipSpace rest with
      | [] => .error (.ahead .endInValue [])
      | d :: rest =>
        if d = ']' then .error (.ahead .trailingComma (d :: rest)) else .ok (true, d :: rest)
    else .error (.ahead .expectedListCommaOrEnd (c :: rest))

/-- What is left behind a list that must end here. -/
def endList (text : List Char) : Except Failure (List Char) :=
  match skipSpace text with
  | [] => .error (.ahead .endInList [])
  | ']' :: rest => .ok rest
  | ',' :: rest =>
    match skipSpace rest with
    | ']' :: rest => .error (.ahead .trailingComma (']' :: rest))
    | rest => .error (.ahead .trailingCharacters rest)
  | rest => .error (.ahead .trailingCharacters rest)

theorem length_nextElement {first more : Bool} {text rest : List Char}
    (h : nextElement first text = .ok (more, rest)) : rest.length ≤ text.length := by
  have hs := length_skipSpace_le text
  unfold nextElement at h
  split at h
  · simp at h
  · next c rest' hc =>
    rw [hc, List.length_cons] at hs
    have hr := length_skipSpace_le rest'
    split at h
    · injection h with h; injection h with _ h; subst h; omega
    split at h
    · injection h with h; injection h with _ h; subst h; exact hs
    split at h
    · split at h
      · simp at h
      · next hd =>
        rw [hd] at hr
        split at h
        · simp at h
        · injection h with h; injection h with _ h; subst h; omega
    · simp at h

/-! ## Objects -/

/-- The name of the next member of the object that is open, and what is left behind the name, or
behind the object if there is no further member. -/
def nextMember (first : Bool) (text : List Char) : Reading (Option String) :=
  let key (rest : List Char) : Reading (Option String) :=
    match readString rest with
    | .error e => .error e
    | .ok (s, rest) => .ok (some (String.ofList s), rest)
  match skipSpace text with
  | [] => .error (.ahead .endInObject [])
  | c :: rest =>
    if c = '}' then .ok (none, rest)
    else if first then
      if c = '"' then key rest else .error (.ahead .keyNotString (c :: rest))
    else if c = ',' then
      match skipSpace rest with
      | [] => .error (.ahead .endInValue [])
      | d :: rest =>
        if d = '"' then key rest
        else if d = '}' then .error (.ahead .trailingComma (d :: rest))
        else .error (.ahead .keyNotString (d :: rest))
    else .error (.ahead .expectedObjectCommaOrEnd (c :: rest))

/-- What is left behind the colon between a member's name and its value. -/
def afterColon (text : List Char) : Except Failure (List Char) :=
  match skipSpace text with
  | ':' :: rest => .ok rest
  | [] => .error (.ahead .endInObject [])
  | rest => .error (.ahead .expectedColon rest)

/-- A fault of a member's name. It is found behind the name, the white space after it and the end of
the object, if that follows. -/
def memberFault (cause : Cause) (text : List Char) : Failure :=
  match skipSpace text with
  | '}' :: rest => .behind cause rest
  | rest => .behind cause rest

theorem length_nextMember {first : Bool} {name : Option String} {text rest : List Char}
    (h : nextMember first text = .ok (name, rest)) : rest.length < text.length := by
  have hs := length_skipSpace_le text
  unfold nextMember at h
  simp only at h
  split at h
  · simp at h
  · next c rest' hc =>
    rw [hc, List.length_cons] at hs
    have hr := length_skipSpace_le rest'
    split at h
    · injection h with h; injection h with _ h; subst h; omega
    split at h
    · split at h
      · split at h
        · simp at h
        · next hk =>
          have := length_readString hk
          injection h with h; injection h with _ h; subst h; omega
      · simp at h
    split at h
    · split at h
      · simp at h
      · next hd =>
        rw [hd, List.length_cons] at hr
        split at h
        · split at h
          · simp at h
          · next hk =>
            have := length_readString hk
            injection h with h; injection h with _ h; subst h; omega
        · split at h <;> simp at h
    · simp at h

theorem length_afterColon {text rest : List Char} (h : afterColon text = .ok rest) :
    rest.length ≤ text.length := by
  have hs := length_skipSpace_le text
  unfold afterColon at h
  split at h
  · next hc =>
    rw [hc, List.length_cons] at hs
    injection h with h
    subst h
    omega
  · simp at h
  · simp at h

/-! ## Records -/

/-- A kind of record whose fields have values in `α`. -/
structure RecordType (α : Type) where
  /-- What is expected in place of another value. -/
  label : String
  /-- The names of the fields, in the order of a list. -/
  fields : List String
  /-- Members with other names are refused; otherwise they are skipped. -/
  closed : Bool
  readValue : List Char → Reading α
  length_readValue : ∀ {text rest v}, readValue text = .ok (v, rest) → rest.length ≤ text.length

/-- The fields that were written, with their values. -/
abbrev Fields (α : Type) := List (String × α)

variable {α : Type}

/-- The fields of a record that is written as a list. -/
def readPlaces (t : RecordType α) (first : Bool) : List String → List Char → Reading (Fields α)
  | [], text =>
    match endList text with
    | .error e => .error e
    | .ok rest => .ok ([], rest)
  | name :: names, text =>
    match nextElement first text with
    | .error e => .error e
    | .ok (false, rest) => .ok ([], rest)
    | .ok (true, rest) =>
      match t.readValue rest with
      | .error e => .error e
      | .ok (v, rest) =>
        match readPlaces t false names rest with
        | .error e => .error e
        | .ok (fs, rest) => .ok ((name, v) :: fs, rest)

/-- The fields of a record that is written as an object, those of `seen` being read already. -/
def readMembers (t : RecordType α) (first : Bool) (seen : Fields α) (text : List Char) :
    Reading (Fields α) :=
  match hm : nextMember first text with
  | .error e => .error e
  | .ok (none, rest) => .ok (seen, rest)
  | .ok (some name, rest) =>
    have := length_nextMember hm
    if name ∈ t.fields then
      if (seen.lookup name).isSome then .error (memberFault (.duplicateField name) rest)
      else
        match hc : afterColon rest with
        | .error e => .error e
        | .ok rest =>
          match hv : t.readValue rest with
          | .error e => .error e
          | .ok (v, rest) =>
            have := length_afterColon hc
            have := t.length_readValue hv
            readMembers t false (seen ++ [(name, v)]) rest
    else if t.closed then .error (memberFault (.unknownField name t.fields) rest)
    else
      match hc : afterColon rest with
      | .error e => .error e
      | .ok rest =>
        match hv : skipValue rest with
        | .error e => .error e
        | .ok rest =>
          have := length_afterColon hc
          have := length_skipValue hv
          readMembers t false seen rest
termination_by text.length

/-- The fields of the record that begins after white space. -/
def readRecord (t : RecordType α) (text : List Char) : Reading (Fields α) :=
  match skipSpace text with
  | '{' :: rest => readMembers t true [] rest
  | '[' :: rest => readPlaces t true t.fields rest
  | start => .error (wrongType t.label start)

theorem length_endList {text rest : List Char} (h : endList text = .ok rest) :
    rest.length < text.length := by
  have hs := length_skipSpace_le text
  unfold endList at h
  split at h
  · simp at h
  · next hc =>
    rw [hc, List.length_cons] at hs
    injection h with h
    subst h
    omega
  · split at h <;> simp at h
  · simp at h

theorem length_readPlaces {t : RecordType α} {first : Bool} {names : List String}
    {text rest : List Char} {fs : Fields α} (h : readPlaces t first names text = .ok (fs, rest)) :
    rest.length ≤ text.length := by
  induction names generalizing first text rest fs with
  | nil =>
    rw [readPlaces] at h
    split at h
    · simp at h
    · next he => have := length_endList he; simp at h; rw [← h.2]; omega
  | cons name names ih =>
    rw [readPlaces] at h
    split at h
    · simp at h
    · next he => have := length_nextElement he; simp at h; rw [← h.2]; omega
    · next he =>
      have h₁ := length_nextElement he
      split at h
      · simp at h
      · next hv =>
        have h₂ := t.length_readValue hv
        split at h
        · simp at h
        · next hp => have h₃ := ih hp; simp at h; rw [← h.2]; omega

theorem length_readMembers {t : RecordType α} {first : Bool} {seen fs : Fields α}
    {text rest : List Char} (h : readMembers t first seen text = .ok (fs, rest)) :
    rest.length ≤ text.length := by
  fun_induction readMembers t first seen text
  case case2 hm => have := length_nextMember hm; simp at h; rw [← h.2]; omega
  all_goals simp_all <;> omega

theorem length_readRecord {t : RecordType α} {text rest : List Char} {fs : Fields α}
    (h : readRecord t text = .ok (fs, rest)) : rest.length < text.length := by
  have hs := length_skipSpace_le text
  unfold readRecord at h
  split at h
  · next hc =>
    have := length_readMembers h
    rw [hc, List.length_cons] at hs
    omega
  · next hc =>
    have := length_readPlaces h
    rw [hc, List.length_cons] at hs
    omega
  · simp at h

/-- The value that a reader finds in a whole text, with nothing but white space behind it. -/
def readAll (read : List Char → Reading α) (text : String) : Except Error α :=
  let chars := text.toList
  match read chars with
  | .error e => .error (e.locate chars)
  | .ok (v, rest) =>
    match skipSpace rest with
    | [] => .ok v
    | rest => .error ((Failure.ahead .trailingCharacters rest).locate chars)

end SearchPanel.Json
