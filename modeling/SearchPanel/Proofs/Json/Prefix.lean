import SearchPanel.Proofs.Json.Record

/-!
# Reading the beginning of a longer text

What is read from a text is read from every longer text as well, and what comes behind is left. For
each reader a lemma `…_more` says so. Only a number could go on behind the end of the text: where a
number may be skipped, something has to be left.

* `readIndex_more`: an index that can be read is no beginning of another one.
-/

namespace SearchPanel.Json

variable {text rest digits : List Char} {c : Char} {atEnd : Cause} {negative first : Bool}

theorem skipSpace_more (h : skipSpace text = c :: rest) (more : List Char) :
    skipSpace (text ++ more) = c :: (rest ++ more) := by
  have hne : (text.dropWhile isSpace).isEmpty = false := by
    rw [skipSpace] at h
    rw [h]
    rfl
  rw [skipSpace, List.dropWhile_append, hne, if_neg (by simp), ← List.cons_append, ← h, skipSpace]

/-- Where something is left, there was something to read. -/
theorem ne_nil_of_length_le (h : rest.length ≤ text.length) (hr : rest ≠ []) : text ≠ [] := by
  rintro rfl
  exact hr (List.length_eq_zero_iff.1 (Nat.le_zero.1 h))

/-! ## Tokens -/

theorem afterWord_more {word : List Char} (h : afterWord word text = .ok rest) (more : List Char) :
    afterWord word (text ++ more) = .ok (rest ++ more) := by
  fun_induction afterWord word text with
  | case1 =>
    obtain rfl := Except.ok.inj h
    rw [afterWord]
  | case2 => cases h
  | case3 w word text ih => exact (if_pos rfl).trans (ih h)
  | case4 => cases h

theorem readString_more {s : List Char} (h : readString text = .ok (s, rest)) (more : List Char) :
    readString (text ++ more) = .ok (s, rest ++ more) := by
  obtain ⟨inner, hs, rfl⟩ := readString_eq_ok_iff.1 h
  rw [List.append_assoc]
  exact readString_eq_ok_iff.2 ⟨inner, hs, rfl⟩

theorem skipString_more (h : skipString text = .ok rest) (more : List Char) :
    skipString (text ++ more) = .ok (rest ++ more) := by
  obtain ⟨inner, hs, rfl⟩ := skipString_eq_ok_iff.1 h
  rw [List.append_assoc]
  exact skipString_eq_ok_iff.2 ⟨inner, hs, rfl⟩

theorem takeDigits_more (h : takeDigits text = (digits, rest)) (hr : rest ≠ [])
    (more : List Char) : takeDigits (text ++ more) = (digits, rest ++ more) := by
  obtain ⟨rfl, rfl⟩ := Prod.mk.inj h
  have hlt : 0 < (text.dropWhile Char.isDigit).length := List.length_pos_iff.2 hr
  have hsum : (text.takeWhile Char.isDigit ++ text.dropWhile Char.isDigit).length = text.length :=
    congrArg List.length List.takeWhile_append_dropWhile
  rw [List.length_append] at hsum
  rw [takeDigits, List.takeWhile_append, if_neg (by omega), List.dropWhile_append,
    if_neg (by simpa using hr)]

/-- The digits of an exponent, its sign being read. -/
def exponentDigits (atEnd : Cause) (negative : Bool) (text : List Char) :
    Reading (Bool × List Char) :=
  match takeDigits text with
  | ([], []) => .error (.behind atEnd [])
  | ([], rest) => .error (.ahead .invalidNumber rest)
  | (digits, rest) => .ok ((negative, digits), rest)

theorem scanExponent_cons (atEnd : Cause) (c : Char) (text : List Char) :
    scanExponent atEnd (c :: text) = exponentDigits atEnd (decide (c = '-'))
      (if c = '+' ∨ c = '-' then text else c :: text) := by
  rcases eq_or_ne c '+' with rfl | hp
  · rfl
  rcases eq_or_ne c '-' with rfl | hm
  · rfl
  rw [if_neg (by simp [hp, hm]), decide_eq_false hm, scanExponent]
  · rfl
  · exact fun rest heq => hp (List.cons.inj heq).1
  · exact fun rest heq => hm (List.cons.inj heq).1

theorem exponentDigits_more {e : Bool × List Char}
    (h : exponentDigits atEnd negative text = .ok (e, rest)) (hr : rest ≠ []) (more : List Char) :
    exponentDigits atEnd negative (text ++ more) = .ok (e, rest ++ more) := by
  unfold exponentDigits at h
  split at h
  · cases h
  · cases h
  · next digits rest' hnil hne hd =>
    obtain ⟨rfl, rfl⟩ := Prod.mk.inj (Except.ok.inj h)
    rw [exponentDigits, takeDigits_more hd hr]
    split
    · next heq => exact absurd (Prod.mk.inj heq).1 hne
    · next heq => exact absurd (Prod.mk.inj heq).1 hne
    · next heq =>
      obtain ⟨rfl, rfl⟩ := Prod.mk.inj heq
      rfl

theorem scanExponent_more {e : Bool × List Char} (h : scanExponent atEnd text = .ok (e, rest))
    (hr : rest ≠ []) (more : List Char) :
    scanExponent atEnd (text ++ more) = .ok (e, rest ++ more) := by
  cases text with
  | nil => cases h
  | cons c text =>
    have happend : (if c = '+' ∨ c = '-' then text ++ more else c :: (text ++ more)) =
        (if c = '+' ∨ c = '-' then text else c :: text) ++ more := by
      split <;> rfl
    rw [scanExponent_cons] at h
    rw [List.cons_append, scanExponent_cons, happend]
    exact exponentDigits_more h hr more

theorem withExponent_more {n m : Numeral} (h : withExponent atEnd n text = .ok (m, rest))
    (hr : rest ≠ []) (more : List Char) :
    withExponent atEnd n (text ++ more) = .ok (m, rest ++ more) := by
  cases text with
  | nil =>
    obtain ⟨-, rfl⟩ := Prod.mk.inj (Except.ok.inj h)
    exact absurd rfl hr
  | cons c text =>
    rw [withExponent] at h
    rw [List.cons_append, withExponent]
    split at h
    · next hc =>
      rw [if_pos hc]
      split at h
      · cases h
      · next he =>
        obtain ⟨rfl, rfl⟩ := Prod.mk.inj (Except.ok.inj h)
        rw [scanExponent_more he hr]
    · next hc =>
      obtain ⟨rfl, rfl⟩ := Prod.mk.inj (Except.ok.inj h)
      rw [if_neg hc]
      rfl

theorem scanTail_more {n m : Numeral} (h : scanTail atEnd n text = .ok (m, rest))
    (hr : rest ≠ []) (more : List Char) :
    scanTail atEnd n (text ++ more) = .ok (m, rest ++ more) := by
  unfold scanTail at h
  split at h
  · next text =>
    rw [List.cons_append, scanTail]
    split at h
    · cases h
    · cases h
    · next digits tail hnil hne hd =>
      rw [takeDigits_more hd (ne_nil_of_length_le (length_withExponent h) hr)]
      split
      · next heq => exact absurd (Prod.mk.inj heq).1 hne
      · next heq => exact absurd (Prod.mk.inj heq).1 hne
      · next heq =>
        obtain ⟨rfl, rfl⟩ := Prod.mk.inj heq
        exact withExponent_more h hr more
  · next hpoint =>
    have he := withExponent_more h hr more
    obtain ⟨c, tail, rfl⟩ :=
      List.exists_cons_of_ne_nil (ne_nil_of_length_le (length_withExponent h) hr)
    rw [List.cons_append] at he ⊢
    rw [scanTail]
    · exact he
    · rintro _ heq
      exact hpoint tail (congrArg (· :: tail) (List.cons.inj heq).1)

theorem scanNumber_more {m : Numeral} (h : scanNumber atEnd negative text = .ok (m, rest))
    (hr : rest ≠ []) (more : List Char) :
    scanNumber atEnd negative (text ++ more) = .ok (m, rest ++ more) := by
  unfold scanNumber at h
  split at h
  · cases h
  · next text =>
    split at h
    · next c tail =>
      split at h
      · cases h
      · next hc =>
        exact (if_neg hc).trans (scanTail_more h hr more)
    · exact absurd rfl (ne_nil_of_length_le (length_scanTail h) hr)
  · next c text hzero =>
    split at h
    · next hc =>
      have hd := takeDigits_more (rfl : takeDigits text = _)
        (ne_nil_of_length_le (length_scanTail h) hr) more
      rw [List.cons_append, scanNumber]
      · rw [if_pos hc, hd]
        exact scanTail_more h hr more
      · exact hzero
    · cases h

/-! ## Skipped values -/

theorem skipNumber_more (h : skipNumber negative text = .ok rest) (hr : rest ≠ [])
    (more : List Char) : skipNumber negative (text ++ more) = .ok (rest ++ more) := by
  unfold skipNumber at h
  split at h
  · cases h
  · next hs =>
    obtain rfl := Except.ok.inj h
    rw [skipNumber, scanNumber_more hs hr]

theorem skipScalar_more (h : skipScalar text = .ok rest) (hr : rest ≠ []) (more : List Char) :
    skipScalar (text ++ more) = .ok (rest ++ more) := by
  cases text with
  | nil => cases h
  | cons c text =>
    rw [skipScalar] at h
    rw [List.cons_append, skipScalar]
    split at h
    · next hc => exact (if_pos hc).trans (skipString_more h more)
    next hc =>
    rw [if_neg hc]
    split at h
    · next hc => exact (if_pos hc).trans (afterWord_more h more)
    next hc =>
    rw [if_neg hc]
    split at h
    · next hc => exact (if_pos hc).trans (afterWord_more h more)
    next hc =>
    rw [if_neg hc]
    split at h
    · next hc => exact (if_pos hc).trans (afterWord_more h more)
    next hc =>
    rw [if_neg hc]
    split at h
    · next hc => exact (if_pos hc).trans (skipNumber_more h hr more)
    next hc =>
    rw [if_neg hc]
    split at h
    · next hc => exact (if_pos hc).trans (skipNumber_more h hr more)
    · cases h

theorem skipName_more (h : skipName text = .ok rest) (more : List Char) :
    skipName (text ++ more) = .ok (rest ++ more) := by
  unfold skipName at h
  split at h
  · cases h
  · next hq =>
    split at h
    · cases h
    · next hs =>
      split at h
      · next hc =>
        obtain rfl := Except.ok.inj h
        rw [skipName, skipSpace_more hq]
        simp only [skipString_more hs, skipSpace_more hc]
      · cases h
      · cases h
  · cases h

theorem itemValue_more {b : Bracket} (h : itemValue b text = .ok rest) (more : List Char) :
    itemValue b (text ++ more) = .ok (rest ++ more) := by
  cases b with
  | list =>
    obtain rfl := Except.ok.inj h
    rfl
  | object => exact skipName_more h more

theorem nextItem_more {b : Bracket} {further : Bool}
    (h : nextItem b first text = .ok (further, rest)) (more : List Char) :
    nextItem b first (text ++ more) = .ok (further, rest ++ more) := by
  unfold nextItem at h
  split at h
  · cases h
  · next c tail hs =>
    rw [nextItem, skipSpace_more hs]
    simp only
    split at h
    · next hc =>
      obtain ⟨rfl, rfl⟩ := Prod.mk.inj (Except.ok.inj h)
      rw [if_pos hc]
    next hc =>
    rw [if_neg hc]
    split at h
    · next hc =>
      obtain ⟨rfl, rfl⟩ := Prod.mk.inj (Except.ok.inj h)
      exact if_pos hc
    next hc =>
    rw [if_neg hc]
    split at h
    · next hc =>
      obtain ⟨rfl, rfl⟩ := Prod.mk.inj (Except.ok.inj h)
      rw [if_pos hc]
    · cases h

/-- A value that opens no bracket is skipped without nesting. -/
theorem skipValueIn_of_ne {outer : List Bracket} (hlist : ∀ tail, skipSpace text ≠ '[' :: tail)
    (hobject : ∀ tail, skipSpace text ≠ '{' :: tail) :
    skipValueIn outer text =
      match skipScalar (skipSpace text) with
      | .error e => .error e
      | .ok rest => skipItems false outer rest := by
  rw [skipValueIn_eq]
  split
  · next heq => exact absurd heq (hlist _)
  · next heq => exact absurd heq (hobject _)
  · rfl

/-- Inside brackets and outside of them, values and items are skipped alike in a longer text. -/
theorem skip_more (more : List Char) :
    (∀ outer text, ∀ rest, skipValueIn outer text = .ok rest → rest ≠ [] →
      skipValueIn outer (text ++ more) = .ok (rest ++ more)) ∧
    ∀ first brackets text, ∀ rest, skipItems first brackets text = .ok rest → rest ≠ [] →
      skipItems first brackets (text ++ more) = .ok (rest ++ more) := by
  apply skipValueIn.mutual_induct
  case case1 =>
    intro outer text _ tail hs _ ih rest h hr
    rw [skipValueIn_eq, hs] at h
    rw [skipValueIn_eq, skipSpace_more hs]
    exact ih rest h hr
  case case2 =>
    intro outer text _ tail hs _ ih rest h hr
    rw [skipValueIn_eq, hs] at h
    rw [skipValueIn_eq, skipSpace_more hs]
    exact ih rest h hr
  case case3 =>
    intro outer text _ e hlist hobject hs rest h hr
    rw [skipValueIn_of_ne hlist hobject, hs] at h
    cases h
  case case4 =>
    intro outer text _ tail hlist hobject hs _ ih rest h hr
    rw [skipValueIn_of_ne hlist hobject, hs] at h
    have hs' := skipScalar_more hs (ne_nil_of_length_le (length_skip.2 _ _ _ _ h) hr) more
    obtain ⟨c, first, hc⟩ : ∃ c first, skipSpace text = c :: first :=
      List.exists_cons_of_ne_nil (by rintro heq; rw [heq] at hs; cases hs)
    rw [hc, List.cons_append] at hs'
    rw [hc] at hlist hobject
    rw [skipValueIn_of_ne, skipSpace_more hc, hs']
    · exact ih rest h hr
    · rw [skipSpace_more hc]
      exact fun tail heq => hlist first (congrArg (· :: first) (List.cons.inj heq).1)
    · rw [skipSpace_more hc]
      exact fun tail heq => hobject first (congrArg (· :: first) (List.cons.inj heq).1)
  case case5 =>
    intro first text rest h hr
    rw [skipItems] at h ⊢
    rw [Except.ok.inj h]
  case case6 =>
    intro first text b outer e hn rest h hr
    rw [skipItems_cons, hn] at h
    cases h
  case case7 =>
    intro first text b outer tail hn _ ih rest h hr
    rw [skipItems_cons, hn] at h
    rw [skipItems_cons, nextItem_more hn]
    exact ih rest h hr
  case case8 =>
    intro first text b outer tail hn e hv rest h hr
    rw [skipItems_cons, hn] at h
    simp only [hv] at h
    cases h
  case case9 =>
    intro first text b outer tail hn value hv _ ih rest h hr
    rw [skipItems_cons, hn] at h
    simp only [hv] at h
    rw [skipItems_cons, nextItem_more hn]
    simp only [itemValue_more hv]
    exact ih rest h hr

theorem skipValue_more (h : skipValue text = .ok rest) (hr : rest ≠ []) (more : List Char) :
    skipValue (text ++ more) = .ok (rest ++ more) := (skip_more more).1 _ _ _ h hr

/-! ## Records -/

theorem readText_more {s : String} (h : readText text = .ok (s, rest)) (more : List Char) :
    readText (text ++ more) = .ok (s, rest ++ more) := by
  unfold readText at h
  split at h
  · next hq =>
    split at h
    · cases h
    · next hs =>
      obtain ⟨rfl, rfl⟩ := Prod.mk.inj (Except.ok.inj h)
      rw [readText, skipSpace_more hq]
      simp only [readString_more hs]
  · cases h

theorem endList_more (h : endList text = .ok rest) (more : List Char) :
    endList (text ++ more) = .ok (rest ++ more) := by
  unfold endList at h
  split at h
  · cases h
  · next hs =>
    obtain rfl := Except.ok.inj h
    rw [endList, skipSpace_more hs]
    rfl
  · split at h <;> cases h
  · cases h

theorem nextElement_more {further : Bool} (h : nextElement first text = .ok (further, rest))
    (more : List Char) : nextElement first (text ++ more) = .ok (further, rest ++ more) := by
  unfold nextElement at h
  split at h
  · cases h
  · next c tail hs =>
    rw [nextElement, skipSpace_more hs]
    simp only
    split at h
    · next hc =>
      obtain ⟨rfl, rfl⟩ := Prod.mk.inj (Except.ok.inj h)
      exact if_pos hc
    next hc =>
    rw [if_neg hc]
    split at h
    · next hf =>
      obtain ⟨rfl, rfl⟩ := Prod.mk.inj (Except.ok.inj h)
      exact if_pos hf
    next hf =>
    rw [if_neg hf]
    split at h
    · next hcomma =>
      rw [if_pos hcomma]
      split at h
      · cases h
      · next d tail hd =>
        rw [skipSpace_more hd]
        split at h
        · cases h
        · next hclose =>
          obtain ⟨rfl, rfl⟩ := Prod.mk.inj (Except.ok.inj h)
          exact if_neg hclose
    · cases h

theorem afterColon_more (h : afterColon text = .ok rest) (more : List Char) :
    afterColon (text ++ more) = .ok (rest ++ more) := by
  unfold afterColon at h
  split at h
  · next hs =>
    obtain rfl := Except.ok.inj h
    rw [afterColon, skipSpace_more hs]
    rfl
  · cases h
  · cases h

theorem nextMember_more {name : Option String} (h : nextMember first text = .ok (name, rest))
    (more : List Char) : nextMember first (text ++ more) = .ok (name, rest ++ more) := by
  unfold nextMember at h
  simp only at h
  split at h
  · cases h
  · next c tail hs =>
    rw [nextMember, skipSpace_more hs]
    simp only
    split at h
    · next hc =>
      obtain ⟨rfl, rfl⟩ := Prod.mk.inj (Except.ok.inj h)
      exact if_pos hc
    next hc =>
    rw [if_neg hc]
    split at h
    · next hf =>
      rw [if_pos hf]
      split at h
      · next hq =>
        rw [if_pos hq]
        split at h
        · cases h
        · next hk =>
          obtain ⟨rfl, rfl⟩ := Prod.mk.inj (Except.ok.inj h)
          rw [readString_more hk]
      · cases h
    next hf =>
    rw [if_neg hf]
    split at h
    · next hcomma =>
      rw [if_pos hcomma]
      split at h
      · cases h
      · next d tail hd =>
        rw [skipSpace_more hd]
        simp only
        split at h
        · next hq =>
          rw [if_pos hq]
          split at h
          · cases h
          · next hk =>
            obtain ⟨rfl, rfl⟩ := Prod.mk.inj (Except.ok.inj h)
            rw [readString_more hk]
        · split at h <;> cases h
    · cases h

variable {α : Type} {t : RecordType α} {fs seen : Fields α} {names : List String}

/-- The values of a record's fields are read alike in a longer text. -/
def RecordType.Stable (t : RecordType α) : Prop :=
  ∀ {text rest : List Char} {x : α}, t.readValue text = .ok (x, rest) → ∀ more : List Char,
    t.readValue (text ++ more) = .ok (x, rest ++ more)

theorem documentType_stable : documentType.Stable := fun h => readText_more h

theorem readPlaces_more (ht : t.Stable) (h : readPlaces t first names text = .ok (fs, rest))
    (more : List Char) : readPlaces t first names (text ++ more) = .ok (fs, rest ++ more) := by
  induction names generalizing first text fs rest with
  | nil =>
    rw [readPlaces] at h
    split at h
    · cases h
    · next he =>
      obtain ⟨rfl, rfl⟩ := Prod.mk.inj (Except.ok.inj h)
      rw [readPlaces, endList_more he]
  | cons name names ih =>
    rw [readPlaces] at h
    split at h
    · cases h
    · next he =>
      obtain ⟨rfl, rfl⟩ := Prod.mk.inj (Except.ok.inj h)
      rw [readPlaces, nextElement_more he]
    · next he =>
      split at h
      · cases h
      · next hv =>
        split at h
        · cases h
        · next hp =>
          obtain ⟨rfl, rfl⟩ := Prod.mk.inj (Except.ok.inj h)
          rw [readPlaces, nextElement_more he]
          simp only [ht hv, ih hp]

theorem readMembers_more (ht : t.Stable) (h : readMembers t first seen text = .ok (fs, rest))
    (more : List Char) : readMembers t first seen (text ++ more) = .ok (fs, rest ++ more) := by
  fun_induction readMembers t first seen text with
  | case1 => cases h
  | case2 first seen text tail hn =>
    obtain ⟨rfl, rfl⟩ := Prod.mk.inj (Except.ok.inj h)
    rw [readMembers_eq, nextMember_more hn]
  | case3 => cases h
  | case4 => cases h
  | case5 => cases h
  | case6 first seen text name tail hn _ hf hs behind hc x left hv _ _ ih =>
    rw [readMembers_eq, nextMember_more hn]
    simp only
    rw [if_pos hf, if_neg hs, afterColon_more hc]
    simp only [ht hv]
    exact ih h
  | case7 => cases h
  | case8 => cases h
  | case9 => cases h
  | case10 first seen text name tail hn _ hf ho behind hc left hv _ _ ih =>
    -- members follow, so the skipped value was no number at the end
    have hleft : left ≠ [] := by
      rintro rfl
      rw [readMembers_eq] at h
      cases h
    rw [readMembers_eq, nextMember_more hn]
    simp only
    rw [if_neg hf, if_neg ho, afterColon_more hc]
    simp only [skipValue_more hv hleft]
    exact ih h

theorem readRecord_more (ht : t.Stable) (h : readRecord t text = .ok (fs, rest))
    (more : List Char) : readRecord t (text ++ more) = .ok (fs, rest ++ more) := by
  unfold readRecord at h
  split at h
  · next hs =>
    rw [readRecord, skipSpace_more hs]
    exact readMembers_more ht h more
  · next hs =>
    rw [readRecord, skipSpace_more hs]
    exact readPlaces_more ht h more
  · cases h

/-! ## Indexes -/

variable {docs : List Document}

/-- The documents are read one by one. -/
theorem readDocuments_eq (first : Bool) (text : List Char) :
    readDocuments first text =
      match nextElement first text with
      | .error e => .error e
      | .ok (false, rest) => .ok ([], rest)
      | .ok (true, rest) =>
        match readRecord documentType rest with
        | .error e => .error e
        | .ok (fs, rest) =>
          match readDocuments false rest with
          | .error e => .error e
          | .ok (docs, rest) => .ok (toDocument fs :: docs, rest) := by
  rw [readDocuments]
  repeat' split <;> simp_all

theorem readDocuments_more (h : readDocuments first text = .ok (docs, rest))
    (more : List Char) : readDocuments first (text ++ more) = .ok (docs, rest ++ more) := by
  fun_induction readDocuments first text generalizing docs rest with
  | case1 => cases h
  | case2 first text tail hn =>
    obtain ⟨rfl, rfl⟩ := Prod.mk.inj (Except.ok.inj h)
    rw [readDocuments_eq, nextElement_more hn]
  | case3 => cases h
  | case4 => cases h
  | case5 first text tail hn fs left hr _ _ docs behind hd ih =>
    obtain ⟨rfl, rfl⟩ := Prod.mk.inj (Except.ok.inj h)
    rw [readDocuments_eq, nextElement_more hn]
    simp only [readRecord_more documentType_stable hr, ih hd]

/-- **An index is read from every longer text** as well, and what comes behind it is left. -/
theorem readIndex_more (h : readIndex text = .ok (docs, rest)) (more : List Char) :
    readIndex (text ++ more) = .ok (docs, rest ++ more) := by
  unfold readIndex at h
  split at h
  · next hs =>
    rw [readIndex, skipSpace_more hs]
    exact readDocuments_more h more
  · cases h

end SearchPanel.Json
