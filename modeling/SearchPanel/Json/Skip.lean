import SearchPanel.Json.Token

/-!
# Skipping a value

`skipValue` finds the end of a value whose content does not matter. The value has to be well formed,
but its numbers have no range, its strings may hold half a surrogate pair, and it may be nested to
any depth: the brackets that are open are kept in a list.
-/

namespace SearchPanel.Json

/-- An open bracket. -/
inductive Bracket
  | list
  | object
deriving DecidableEq

/-- The character that closes a bracket. -/
def Bracket.close : Bracket → Char
  | list => ']'
  | object => '}'

/-- The end of the text inside a bracket. -/
def Bracket.endCause : Bracket → Cause
  | list => .endInList
  | object => .endInObject

/-- Something else than a comma or the closing bracket behind an element. -/
def Bracket.commaCause : Bracket → Cause
  | list => .expectedListCommaOrEnd
  | object => .expectedObjectCommaOrEnd

/-- What is left behind a number, its minus sign being read. -/
def skipNumber (negative : Bool) (text : List Char) : Except Failure (List Char) :=
  match scanNumber .invalidNumber negative text with
  | .error e => .error e
  | .ok (_, rest) => .ok rest

/-- What is left behind a value without nesting. -/
def skipScalar : List Char → Except Failure (List Char)
  | [] => .error (.ahead .endInValue [])
  | c :: text =>
    if c = '"' then skipString text
    else if c = 'n' then afterWord "ull".toList text
    else if c = 't' then afterWord "rue".toList text
    else if c = 'f' then afterWord "alse".toList text
    else if c = '-' then skipNumber true text
    else if c.isDigit then skipNumber false (c :: text)
    else .error (.ahead .expectedValue (c :: text))

/-- What is left behind the name of a member and its colon. -/
def skipName (text : List Char) : Except Failure (List Char) :=
  match skipSpace text with
  | [] => .error (.ahead .endInObject [])
  | '"' :: rest =>
    match skipString rest with
    | .error e => .error e
    | .ok rest =>
      match skipSpace rest with
      | ':' :: rest => .ok rest
      | [] => .error (.ahead .endInObject [])
      | rest => .error (.ahead .expectedColon rest)
  | rest => .error (.ahead .keyNotString rest)

/-- What is left in front of the value of an item: in an object its name comes first. -/
def itemValue : Bracket → List Char → Except Failure (List Char)
  | .list, text => .ok text
  | .object, text => skipName text

/-- Whether the bracket has a further item, and what is left in front of the item or behind the
bracket. Before the first item there is no comma. -/
def nextItem (b : Bracket) (first : Bool) (text : List Char) : Reading Bool :=
  match skipSpace text with
  | [] => .error (.ahead b.endCause [])
  | c :: rest =>
    if c = b.close then .ok (false, rest)
    else if first then .ok (true, c :: rest)
    else if c = ',' then .ok (true, rest)
    else .error (.ahead b.commaCause (c :: rest))

theorem length_skipNumber {negative : Bool} {text rest : List Char}
    (h : skipNumber negative text = .ok rest) : rest.length < text.length := by
  unfold skipNumber at h
  split at h
  · simp at h
  · next hs =>
    injection h with h
    subst h
    exact length_scanNumber hs

theorem length_skipScalar {text rest : List Char} (h : skipScalar text = .ok rest) :
    rest.length < text.length := by
  unfold skipScalar at h
  split at h
  · simp at h
  · simp only [List.length_cons]
    split at h
    · have := length_skipString h; omega
    split at h
    · have := length_afterWord h; omega
    split at h
    · have := length_afterWord h; omega
    split at h
    · have := length_afterWord h; omega
    split at h
    · have := length_skipNumber h; omega
    split at h
    · exact length_skipNumber h
    · simp at h

theorem length_skipName {text rest : List Char} (h : skipName text = .ok rest) :
    rest.length < text.length := by
  have hs := length_skipSpace_le text
  unfold skipName at h
  split at h
  · simp at h
  · next hq =>
    rw [hq] at hs
    split at h
    · simp at h
    · next behind hk =>
      have hc := length_skipSpace_le behind
      have := length_skipString hk
      split at h
      · next hr =>
        rw [hr] at hc
        injection h with h
        subst h
        simp only [List.length_cons] at hs hc
        omega
      · simp at h
      · simp at h
  · simp at h

theorem length_itemValue {b : Bracket} {text rest : List Char} (h : itemValue b text = .ok rest) :
    rest.length ≤ text.length := by
  cases b with
  | list => injection h with h; simp [h]
  | object => exact Nat.le_of_lt (length_skipName h)

/-- A further item may begin at once; the end of the bracket takes a character. -/
theorem length_nextItem {b : Bracket} {first more : Bool} {text rest : List Char}
    (h : nextItem b first text = .ok (more, rest)) :
    rest.length + (if more then 0 else 1) ≤ text.length := by
  have hs := length_skipSpace_le text
  unfold nextItem at h
  split at h
  · simp at h
  · next hc =>
    rw [hc, List.length_cons] at hs
    split at h
    · simp at h; obtain ⟨rfl, rfl⟩ := h; simpa using hs
    split at h
    · simp at h; obtain ⟨rfl, rfl⟩ := h; simpa using hs
    split at h
    · simp at h; obtain ⟨rfl, rfl⟩ := h; simp; omega
    · simp at h

mutual
/-- What is left behind the brackets `outer`, innermost first, where a value of the innermost one
begins after white space. -/
def skipValueIn (outer : List Bracket) (text : List Char) : Except Failure (List Char) :=
  have hs := length_skipSpace_le text
  match h : skipSpace text with
  | '[' :: rest =>
    have : rest.length < text.length := by rw [h] at hs; exact hs
    skipItems true (.list :: outer) rest
  | '{' :: rest =>
    have : rest.length < text.length := by rw [h] at hs; exact hs
    skipItems true (.object :: outer) rest
  | start =>
    match hr : skipScalar start with
    | .error e => .error e
    | .ok rest =>
      have : rest.length < text.length := by
        rw [h] at hs
        exact Nat.lt_of_lt_of_le (length_skipScalar hr) hs
      skipItems false outer rest
termination_by 2 * text.length

/-- What is left behind the brackets, innermost first; the innermost one has just been opened if
`first`, and else an item of it has ended. -/
def skipItems (first : Bool) (brackets : List Bracket) (text : List Char) :
    Except Failure (List Char) :=
  match brackets with
  | [] => .ok text
  | b :: outer =>
    match hn : nextItem b first text with
    | .error e => .error e
    | .ok (false, rest) =>
      have : rest.length + 1 ≤ text.length := length_nextItem hn
      skipItems false outer rest
    | .ok (true, rest) =>
      match hv : itemValue b rest with
      | .error e => .error e
      | .ok rest =>
        have : rest.length ≤ text.length :=
          Nat.le_trans (length_itemValue hv) (length_nextItem hn)
        skipValueIn (b :: outer) rest
termination_by 2 * text.length + 1

end

/-- What is left behind the value that begins after white space. -/
def skipValue (text : List Char) : Except Failure (List Char) := skipValueIn [] text

/-- A value is skipped by its first token. -/
theorem skipValueIn_eq (outer : List Bracket) (text : List Char) :
    skipValueIn outer text =
      match skipSpace text with
      | '[' :: rest => skipItems true (.list :: outer) rest
      | '{' :: rest => skipItems true (.object :: outer) rest
      | start =>
        match skipScalar start with
        | .error e => .error e
        | .ok rest => skipItems false outer rest := by
  rw [skipValueIn]
  repeat' split <;> simp_all

/-- Behind an item comes a further one or the end of the bracket. -/
theorem skipItems_cons (first : Bool) (b : Bracket) (outer : List Bracket) (text : List Char) :
    skipItems first (b :: outer) text =
      match nextItem b first text with
      | .error e => .error e
      | .ok (false, rest) => skipItems false outer rest
      | .ok (true, rest) =>
        match itemValue b rest with
        | .error e => .error e
        | .ok rest => skipValueIn (b :: outer) rest := by
  rw [skipItems]
  repeat' split <;> simp_all

/-- Skipping never gives back more than it was given. -/
theorem length_skip :
    (∀ outer text, ∀ rest, skipValueIn outer text = .ok rest → rest.length ≤ text.length) ∧
    ∀ first brackets text, ∀ rest, skipItems first brackets text = .ok rest →
      rest.length ≤ text.length := by
  apply skipValueIn.mutual_induct
  case case5 => intro first text rest h; simp [skipItems] at h; simp [h]
  all_goals intros
  all_goals rename_i h
  case case1 | case2 | case3 | case4 =>
    rw [skipValueIn_eq] at h
    split at h <;> simp_all <;> omega
  all_goals
    rw [skipItems_cons] at h
    split at h <;> simp_all <;> omega

theorem length_skipValue {text rest : List Char} (h : skipValue text = .ok rest) :
    rest.length ≤ text.length := length_skip.1 _ _ _ h

end SearchPanel.Json
