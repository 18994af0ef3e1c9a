import Mathlib.Data.List.DropRight
import Mathlib.Tactic.FinCases
import SearchPanel.Proofs.Json.Strings

/-!
# Skipping values

* `scanNumber_append`: a number is read to its end, if what follows cannot continue it.
* `skipScalar_append`: so is a value without nesting.
* `skipValueIn_append`: a value is skipped at any depth, inside any open brackets. The proof is by
  induction on the depth, and at each depth by induction on the items of the list or object.
-/

namespace SearchPanel.Json

variable {text rest before after digits : List Char} {c : Char} {n : Numeral} {atEnd : Cause}
  {negative : Bool}

/-- What cannot continue a number. -/
def Ends (rest : List Char) : Prop :=
  ∀ c ∈ rest.head?, c.isDigit = false ∧ c ∉ ['.', 'e', 'E']

theorem ends_cons : Ends (c :: rest) ↔ c.isDigit = false ∧ c ∉ ['.', 'e', 'E'] := by
  simp [Ends]

theorem Ends.not_digit (h : Ends rest) : ∀ c ∈ rest.head?, c.isDigit = false :=
  fun c hc => (h c hc).1

theorem ends_append (ha : Blank after) (h : Ends rest) : Ends (after ++ rest) := by
  cases after with
  | nil => exact h
  | cons c after =>
    have hc : c ∈ [' ', '\n', '\t', '\r'] := ha c List.mem_cons_self
    rw [List.cons_append, ends_cons]
    fin_cases hc <;> decide

/-! ## Numbers -/

theorem takeDigits_append (h : ∀ c ∈ digits, c.isDigit = true)
    (hr : ∀ c ∈ rest.head?, c.isDigit = false) : takeDigits (digits ++ rest) = (digits, rest) := by
  rw [takeDigits, List.takeWhile_append_of_pos h, List.dropWhile_append_of_pos h]
  cases rest with
  | nil => simp
  | cons c rest => simp [hr c rfl]

theorem DigitsText.exists_cons (h : DigitsText text) :
    ∃ c digits, text = c :: digits ∧ c.isDigit = true ∧ ∀ d ∈ digits, d.isDigit = true := by
  obtain ⟨c, digits, rfl⟩ := List.exists_cons_of_ne_nil h.ne_nil
  exact ⟨c, digits, rfl, h.digits c List.mem_cons_self, fun d hd => h.digits d (.tail c hd)⟩

theorem scanExponent_append {sign : List Char} (hs : sign ∈ [[], ['+'], ['-']])
    (h : DigitsText digits) (hr : Ends rest) :
    ∃ e, scanExponent atEnd (sign ++ digits ++ rest) = .ok (e, rest) := by
  have ht : takeDigits (digits ++ rest) = (digits, rest) :=
    takeDigits_append h.digits hr.not_digit
  obtain ⟨c, tail, rfl, hc, -⟩ := h.exists_cons
  fin_cases hs
  · refine ⟨(false, c :: tail), ?_⟩
    unfold scanExponent
    split
    next negative text hsign =>
    split at hsign
    · next heq => obtain ⟨rfl, -⟩ := List.cons.inj heq; cases hc
    · next heq => obtain ⟨rfl, -⟩ := List.cons.inj heq; cases hc
    · obtain ⟨rfl, rfl⟩ := Prod.mk.inj hsign
      rw [List.nil_append, ht]
  · refine ⟨(false, c :: tail), ?_⟩
    simp only [scanExponent, List.cons_append, List.nil_append]
    rw [← List.cons_append, ht]
  · refine ⟨(true, c :: tail), ?_⟩
    simp only [scanExponent, List.cons_append, List.nil_append]
    rw [← List.cons_append, ht]

theorem withExponent_append (h : ExponentText text) (hr : Ends rest) :
    ∃ m, withExponent atEnd n (text ++ rest) = .ok (m, rest) := by
  cases h with
  | none =>
    refine ⟨n, ?_⟩
    cases rest with
    | nil => rfl
    | cons c rest =>
      have hc := (ends_cons.1 hr).2
      simp only [List.mem_cons, List.not_mem_nil, or_false, not_or] at hc
      simp [withExponent, hc]
  | @digits mark sign digits hm hs h =>
    obtain ⟨e, he⟩ : ∃ e, scanExponent atEnd (sign ++ digits ++ rest) = .ok (e, rest) :=
      scanExponent_append hs h hr
    refine ⟨{ n with exponent := some e }, ?_⟩
    rw [List.cons_append, List.cons_append, withExponent, he]
    simp [hm]

/-- What begins with an exponent or behind it continues no digits. -/
theorem ExponentText.head (h : ExponentText text) (hr : Ends rest) :
    ∀ c ∈ (text ++ rest).head?, c.isDigit = false ∧ c ≠ '.' := by
  intro c hc
  cases h with
  | none => exact ⟨(hr c hc).1, fun heq => (hr c hc).2 (by simp [heq])⟩
  | digits hm =>
    obtain rfl := Option.some.inj hc
    rcases hm with rfl | rfl <;> decide

theorem scanTail_append {fraction exponent : List Char} (hf : FractionText fraction)
    (he : ExponentText exponent) (hr : Ends rest) :
    ∃ m, scanTail atEnd n (fraction ++ (exponent ++ rest)) = .ok (m, rest) := by
  have hh := he.head hr
  cases hf with
  | none =>
    obtain ⟨m, hm⟩ : ∃ m, withExponent atEnd n (exponent ++ rest) = .ok (m, rest) :=
      withExponent_append he hr
    refine ⟨m, ?_⟩
    unfold scanTail
    split
    · next heq =>
      rw [List.nil_append] at heq
      rw [heq] at hh
      exact absurd rfl (hh '.' rfl).2
    · exact hm
  | @digits digits h =>
    obtain ⟨m, hm⟩ : ∃ m,
        withExponent atEnd { n with fraction := digits } (exponent ++ rest) = .ok (m, rest) :=
      withExponent_append he hr
    refine ⟨m, ?_⟩
    have ht := takeDigits_append h.digits fun c hc => (hh c hc).1
    obtain ⟨c, tail, rfl, -⟩ := h.exists_cons
    rw [List.cons_append, scanTail, ht]
    exact hm

/-- The digits before the point are read. -/
theorem scanNumber_whole (h : WholeText text) (hr : ∀ c ∈ rest.head?, c.isDigit = false) :
    scanNumber atEnd negative (text ++ rest) = scanTail atEnd ⟨negative, text, [], none⟩ rest := by
  cases h with
  | zero =>
    cases rest with
    | nil => rfl
    | cons c rest => exact if_neg (by simp [hr c rfl])
  | digits h hz =>
    obtain ⟨c, digits, rfl, hc, hd⟩ := h.exists_cons
    rw [List.cons_append]
    unfold scanNumber
    split
    · next heq => cases heq
    · next heq => exact absurd (congrArg some (List.cons.inj heq).1) hz
    · next heq =>
      obtain ⟨rfl, rfl⟩ := List.cons.inj heq
      rw [if_pos hc, takeDigits_append hd hr]

/-- What begins with a fraction, an exponent or behind them continues no digits. -/
theorem FractionText.not_digit {fraction exponent : List Char} (hf : FractionText fraction)
    (he : ExponentText exponent) (hr : Ends rest) :
    ∀ c ∈ (fraction ++ (exponent ++ rest)).head?, c.isDigit = false := by
  intro c hc
  cases hf with
  | none => exact (he.head hr c hc).1
  | digits =>
    obtain rfl := Option.some.inj hc
    rfl

/-- A number without its sign is read to its end. -/
theorem scanNumber_append (h : MagnitudeText text) (hr : Ends rest) :
    ∃ m, scanNumber atEnd negative (text ++ rest) = .ok (m, rest) := by
  obtain ⟨hw, hf, he⟩ := h
  rw [List.append_assoc, List.append_assoc, scanNumber_whole hw (hf.not_digit he hr)]
  exact scanTail_append hf he hr

theorem skipNumber_append (h : MagnitudeText text) (hr : Ends rest) :
    skipNumber negative (text ++ rest) = .ok rest := by
  obtain ⟨m, hm⟩ : ∃ m, scanNumber .invalidNumber negative (text ++ rest) = .ok (m, rest) :=
    scanNumber_append h hr
  rw [skipNumber, hm]

/-- A single digit is a number. -/
theorem numberText_digit (h : c.isDigit = true) : NumberText [c] := by
  have hdigits : DigitsText [c] := ⟨List.cons_ne_nil c [], by simpa using h⟩
  by_cases hz : c = '0'
  · subst hz
    exact .positive (.parts .zero .none .none)
  · exact .positive (.parts (.digits hdigits (by simpa using hz)) .none .none)

/-! ## The first character -/

/-- What a value begins with. -/
def Starts (c : Char) : Prop := c.isDigit = true ∨ c ∈ ['-', '"', 'n', 't', 'f', '[', '{']

instance (c : Char) : Decidable (Starts c) := inferInstanceAs (Decidable (_ ∨ _))

theorem Starts.ne {d : Char} (h : Starts c)
    (hd : d ∈ [' ', '\n', '\t', '\r', ',', ']', '}']) : c ≠ d := by
  rintro rfl
  fin_cases hd <;> exact absurd h (by decide)

theorem Starts.not_space (h : Starts c) : isSpace c = false := by
  rw [Bool.eq_false_iff, Ne, isSpace_iff]
  exact fun hc => h.ne (List.mem_append_left _ hc) rfl

theorem Starts.ne_close (h : Starts c) (b : Bracket) : c ≠ b.close := by
  cases b <;> exact h.ne (by decide)

theorem MagnitudeText.head (h : MagnitudeText text) :
    ∃ c tail, text = c :: tail ∧ c.isDigit = true := by
  obtain ⟨hw, -, -⟩ := h
  cases hw with
  | zero => exact ⟨'0', _, rfl, rfl⟩
  | digits h =>
    obtain ⟨c, tail, rfl, hc, -⟩ := h.exists_cons
    exact ⟨c, _, rfl, hc⟩

/-- A value without nesting is `null`, a string, or begins otherwise, with no bracket. -/
theorem ScalarText.kind (h : ScalarText text) :
    text = "null".toList ∨ (∃ inner, StringText inner ∧ text = quote inner) ∨
      ∃ c tail, text = c :: tail ∧ Starts c ∧ c ∉ ['"', 'n', '[', '{'] := by
  cases h with
  | null => exact .inl rfl
  | boolean b =>
    cases b
    · exact .inr (.inr ⟨'f', _, rfl, by decide⟩)
    · exact .inr (.inr ⟨'t', _, rfl, by decide⟩)
  | number h =>
    cases h with
    | positive h =>
      obtain ⟨c, tail, rfl, hc⟩ := h.head
      refine .inr (.inr ⟨c, tail, rfl, .inl hc, fun hmem => ?_⟩)
      fin_cases hmem <;> cases hc
    | negative h => exact .inr (.inr ⟨'-', _, rfl, by decide⟩)
  | string h => exact .inr (.inl ⟨_, h, rfl⟩)

theorem ScalarText.head (h : ScalarText text) :
    ∃ c tail, text = c :: tail ∧ Starts c ∧ c ∉ ['[', '{'] := by
  rcases h.kind with rfl | ⟨inner, -, rfl⟩ | ⟨c, tail, rfl, hc, hother⟩
  · exact ⟨'n', _, rfl, by decide⟩
  · exact ⟨'"', _, rfl, by decide⟩
  · exact ⟨c, tail, rfl, hc, fun hmem => hother (.tail _ (.tail _ hmem))⟩

theorem Enclosed.head {α : Type} {first last : Char} {item : α → List Char → Prop} {as : List α}
    (h : Enclosed first last item as text) : ∃ tail, text = first :: tail := by
  cases h with
  | empty h => exact ⟨_, rfl⟩
  | items h => exact ⟨_, rfl⟩

/-- A value is `null`, a string, or begins otherwise. -/
theorem ValueText.kind {depth : Nat} (h : ValueText depth text) :
    text = "null".toList ∨ (∃ inner, StringText inner ∧ text = quote inner) ∨
      ∃ c tail, text = c :: tail ∧ Starts c ∧ c ≠ '"' ∧ c ≠ 'n' := by
  have hscalar : ∀ {text}, ScalarText text → text = "null".toList ∨
      (∃ inner, StringText inner ∧ text = quote inner) ∨
      ∃ c tail, text = c :: tail ∧ Starts c ∧ c ≠ '"' ∧ c ≠ 'n' := by
    intro text h
    refine h.kind.imp_right (.imp_right ?_)
    rintro ⟨c, tail, rfl, hc, hother⟩
    simp only [List.mem_cons, not_or] at hother
    exact ⟨c, tail, rfl, hc, hother.1, hother.2.1⟩
  cases depth with
  | zero => exact hscalar h
  | succ depth =>
    rcases h with h | ⟨items, h⟩ | ⟨members, h⟩
    · exact hscalar h
    · obtain ⟨tail, rfl⟩ := h.head
      exact .inr (.inr ⟨'[', tail, rfl, by decide⟩)
    · obtain ⟨tail, rfl⟩ := h.head
      exact .inr (.inr ⟨'{', tail, rfl, by decide⟩)

theorem ValueText.head {depth : Nat} (h : ValueText depth text) :
    ∃ c tail, text = c :: tail ∧ Starts c := by
  rcases h.kind with rfl | ⟨inner, -, rfl⟩ | ⟨c, tail, rfl, hc, -⟩
  · exact ⟨'n', _, rfl, by decide⟩
  · exact ⟨'"', _, rfl, by decide⟩
  · exact ⟨c, tail, rfl, hc⟩

/-! ## Values without nesting -/

theorem afterWord_append (word rest : List Char) : afterWord word (word ++ rest) = .ok rest := by
  induction word with
  | nil => rfl
  | cons c word ih => exact (if_pos rfl).trans ih

/-- A value without nesting is skipped to its end. -/
theorem skipScalar_append (h : ScalarText text) (hr : Ends rest) :
    skipScalar (text ++ rest) = .ok rest := by
  cases h with
  | null => exact afterWord_append "ull".toList rest
  | boolean b =>
    cases b
    · exact afterWord_append "alse".toList rest
    · exact afterWord_append "rue".toList rest
  | number h =>
    cases h with
    | positive h =>
      have hs : skipNumber false (text ++ rest) = .ok rest := skipNumber_append h hr
      obtain ⟨c, tail, rfl, hc⟩ := h.head
      have hne : ∀ d ∈ ['"', 'n', 't', 'f', '-'], c ≠ d := by
        rintro d hd rfl
        fin_cases hd <;> cases hc
      rw [List.cons_append] at hs ⊢
      rw [skipScalar, if_neg (hne _ (by decide)), if_neg (hne _ (by decide)),
        if_neg (hne _ (by decide)), if_neg (hne _ (by decide)), if_neg (hne _ (by decide)),
        if_pos hc, hs]
    | negative h => exact skipNumber_append h hr
  | @string text h =>
    have hs : skipString (text ++ '"' :: rest) = .ok rest :=
      skipString_eq_ok_iff.2 ⟨text, h, rfl⟩
    rw [quote, List.append_assoc]
    exact hs

/-! ## Items -/

variable {α : Type} {item : α → List Char → Prop} {as : List α} {outer : List Bracket} {b : Bracket}

theorem nextItem_first (hb : Blank before) (hc : Starts c) :
    nextItem b true (before ++ c :: rest) = .ok (true, c :: rest) := by
  rw [nextItem, skipSpace_append hb, skipSpace_cons hc.not_space]
  exact if_neg (hc.ne_close b)

theorem nextItem_comma (ha : Blank after) :
    nextItem b false (after ++ ',' :: rest) = .ok (true, rest) := by
  rw [nextItem, skipSpace_append ha, skipSpace_cons rfl]
  cases b <;> rfl

theorem nextItem_close (ha : Blank after) (first : Bool) :
    nextItem b first (after ++ b.close :: rest) = .ok (false, rest) := by
  rw [nextItem, skipSpace_append ha, skipSpace_cons (by cases b <;> rfl)]
  exact if_pos rfl

/-- What is left behind the brackets, where an item of the innermost one begins. -/
def skipItem (b : Bracket) (outer : List Bracket) (text : List Char) :
    Except Failure (List Char) :=
  match itemValue b text with
  | .error e => .error e
  | .ok rest => skipValueIn (b :: outer) rest

theorem skipSpace_skipSpace (text : List Char) : skipSpace (skipSpace text) = skipSpace text :=
  List.dropWhile_idempotent isSpace text

theorem skipItem_skipSpace (text : List Char) :
    skipItem b outer (skipSpace text) = skipItem b outer text := by
  cases b with
  | list =>
    change skipValueIn (.list :: outer) (skipSpace text) = skipValueIn (.list :: outer) text
    rw [skipValueIn_eq, skipValueIn_eq, skipSpace_skipSpace]
  | object => simp only [skipItem, itemValue, skipName, skipSpace_skipSpace]

/-- The items of a bracket, each begun like a value, are skipped one by one. -/
structure Skips (b : Bracket) (item : α → List Char → Prop) : Prop where
  head : ∀ {a text}, item a text → ∃ c tail, text = c :: tail ∧ Starts c
  skip : ∀ {a text before rest} (outer : List Bracket), item a text → Blank before → Ends rest →
    skipItem b outer (before ++ (text ++ rest)) = skipItems false (b :: outer) rest

theorem ends_close (b : Bracket) (rest : List Char) : Ends (b.close :: rest) := by
  cases b <;> exact ends_cons.2 (by decide)

theorem Separated.head (h : Separated item as text) : ∃ before a first tail,
    Blank before ∧ item a first ∧ text = before ++ (first ++ tail) := by
  cases h with
  | single hb h ha => exact ⟨_, _, _, _, hb, h, rfl⟩
  | cons hb h ha hr => exact ⟨_, _, _, _, hb, h, rfl⟩

/-- From an item on, a bracket is skipped with the items that are left of it. -/
theorem Skips.separated (hs : Skips b item) (h : Separated item as text) (rest : List Char) :
    skipItem b outer (text ++ b.close :: rest) = skipItems false outer rest := by
  induction h with
  | single hb h ha =>
    rw [List.append_assoc, List.append_assoc,
      hs.skip outer h hb (ends_append ha (ends_close b rest)), skipItems_cons, nextItem_close ha]
  | cons hb h ha hr ih =>
    rw [List.append_assoc, List.append_assoc, List.append_assoc, List.cons_append,
      hs.skip outer h hb (ends_append ha (ends_cons.2 (by decide))), skipItems_cons,
      nextItem_comma ha]
    exact ih

/-- A bracket that has been opened is skipped. -/
theorem Skips.enclosed {first : Char} (hs : Skips b item)
    (h : Enclosed first b.close item as text) :
    ∃ inner, text = first :: inner ∧ ∀ rest,
      skipItems true (b :: outer) (inner ++ rest) = skipItems false outer rest := by
  cases h with
  | @empty blank h =>
    refine ⟨blank ++ [b.close], rfl, fun rest => ?_⟩
    rw [List.append_assoc, List.singleton_append, skipItems_cons, nextItem_close h]
  | @items _ text h =>
    refine ⟨text ++ [b.close], rfl, fun rest => ?_⟩
    rw [List.append_assoc, List.singleton_append, ← hs.separated h rest, ← skipItem_skipSpace]
    obtain ⟨before, a, first, tail, hb, ha, rfl⟩ := h.head
    obtain ⟨c, first, rfl, hc⟩ := hs.head ha
    rw [List.append_assoc, List.cons_append, List.cons_append, skipSpace_append hb,
      skipSpace_cons hc.not_space, skipItems_cons, nextItem_first hb hc]
    rfl

theorem skipName_append {name : List Char} (h : StringText name) (hb : Blank before)
    (ha : Blank after) :
    skipName (before ++ (quote name ++ (after ++ ':' :: rest))) = .ok rest := by
  have hs : skipString (name ++ '"' :: (after ++ ':' :: rest)) = .ok (after ++ ':' :: rest) :=
    skipString_eq_ok_iff.2 ⟨name, h, rfl⟩
  rw [skipName, skipSpace_append hb, quote, List.append_assoc, List.singleton_append,
    List.cons_append, skipSpace_cons rfl]
  simp only [hs]
  rw [skipSpace_append ha, skipSpace_cons rfl]
  rfl

/-- A value is skipped to its end, with whatever brackets are open around it. -/
theorem skipValueIn_append {depth : Nat} (h : ValueText depth text) (hb : Blank before)
    (hr : Ends rest) :
    skipValueIn outer (before ++ (text ++ rest)) = skipItems false outer rest := by
  have hscalar : ∀ {text rest before outer}, ScalarText text → Blank before → Ends rest →
      skipValueIn outer (before ++ (text ++ rest)) = skipItems false outer rest := by
    intro text rest before outer h hb hr
    have hs := skipScalar_append h hr
    obtain ⟨c, tail, rfl, hc, hbracket⟩ := h.head
    rw [List.cons_append] at hs ⊢
    rw [skipValueIn_eq, skipSpace_append hb, skipSpace_cons hc.not_space]
    split
    · next heq => exact absurd (by simp [(List.cons.inj heq).1]) hbracket
    · next heq => exact absurd (by simp [(List.cons.inj heq).1]) hbracket
    · rw [hs]
  induction depth generalizing text rest before outer with
  | zero => exact hscalar h hb hr
  | succ depth ih =>
    rcases h with h | ⟨items, h⟩ | ⟨members, h⟩
    · exact hscalar h hb hr
    · have hs : Skips .list (Itself (ValueText depth)) := by
        refine ⟨?_, ?_⟩
        · rintro _ _ ⟨rfl, h⟩
          exact h.head
        · rintro _ text before rest outer ⟨rfl, h⟩ hb hr
          exact ih h hb hr
      obtain ⟨inner, rfl, hinner⟩ := hs.enclosed h
      rw [skipValueIn_eq, skipSpace_append hb, List.cons_append, skipSpace_cons rfl]
      exact hinner rest
    · have hs : Skips .object (Itself (MemberText StringText (ValueText depth))) := by
        refine ⟨?_, ?_⟩
        · rintro _ _ ⟨rfl, h⟩
          cases h
          exact ⟨'"', _, rfl, by decide⟩
        · rintro _ text before rest outer ⟨rfl, h⟩ hb hr
          cases h with
          | intro hn hb' ha hv =>
            rw [List.append_assoc, List.append_assoc, List.cons_append, List.append_assoc,
              skipItem, itemValue, skipName_append hn hb hb']
            exact ih hv ha hr
      obtain ⟨inner, rfl, hinner⟩ := hs.enclosed h
      rw [skipValueIn_eq, skipSpace_append hb, List.cons_append, skipSpace_cons rfl]
      exact hinner rest

/-- **A value is skipped** to its end. -/
theorem skipValue_append {depth : Nat} (h : ValueText depth text) (hb : Blank before)
    (hr : Ends rest) : skipValue (before ++ (text ++ rest)) = .ok rest :=
  (skipValueIn_append h hb hr).trans (by rw [skipItems])

end SearchPanel.Json
