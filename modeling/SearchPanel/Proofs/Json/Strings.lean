import Mathlib.Data.List.TakeWhile
import Mathlib.Tactic.IntervalCases
import SearchPanel.Proofs.Json.Written

/-!
# Reading strings

* `readString_eq_ok_iff`: a string is read as `s` exactly if it is a spelling of `s`, and what
  stands behind its closing quote is left.
* `skipString_eq_ok_iff`: the end of a string is found exactly if escapes and characters in it are
  sound. A string that can be read has its end where it is skipped.
-/

namespace SearchPanel.Json

variable {s t text rest digits : List Char} {c : Char} {n : Nat}

/-! ## White space -/

theorem isSpace_iff : isSpace c = true ↔ c ∈ [' ', '\n', '\t', '\r'] := by
  simp [isSpace, or_assoc]

theorem skipSpace_append (h : Blank text) (rest : List Char) :
    skipSpace (text ++ rest) = skipSpace rest :=
  List.dropWhile_append_of_pos fun c hc => isSpace_iff.2 (h c hc)

theorem skipSpace_cons (h : isSpace c = false) (rest : List Char) :
    skipSpace (c :: rest) = c :: rest :=
  List.dropWhile_cons_of_neg (by simp [h])

theorem skipSpace_eq_nil_iff : skipSpace text = [] ↔ Blank text := by
  rw [skipSpace, List.dropWhile_eq_nil_iff]
  simp only [isSpace_iff, Blank]

/-! ## Hexadecimal digits -/

/-- The characters of a range, by their distance from its first one. -/
theorem exists_add_of_le {a b c : Char} (ha : a ≤ c) (hb : c ≤ b) :
    ∃ d, c = Char.ofNat (a.toNat + d) ∧ c.toNat - a.toNat = d ∧ d ≤ b.toNat - a.toNat := by
  have ha' : a.toNat ≤ c.toNat := ha
  have hb' : c.toNat ≤ b.toNat := hb
  refine ⟨c.toNat - a.toNat, ?_, rfl, by omega⟩
  rw [Nat.add_sub_cancel' ha', Char.ofNat_toNat]

theorem hexDigit_iff : HexDigit n c ↔ Text.digitValue? c = some n := by
  constructor
  · intro h
    have hn : n < 16 := by
      rcases h with h | h <;> exact (List.getElem?_eq_some_iff.1 h).1
    interval_cases n <;> (rcases h with h | h <;> cases h <;> rfl)
  · intro h
    unfold Text.digitValue? at h
    split at h
    · next hc =>
      obtain ⟨d, rfl, hd, hle⟩ := exists_add_of_le hc.1 hc.2
      rw [hd] at h
      obtain rfl := Option.some.inj h
      have hlt : d < 10 := Nat.lt_succ_of_le hle
      interval_cases d <;> exact .inl rfl
    split at h
    · next hc =>
      obtain ⟨d, rfl, hd, hle⟩ := exists_add_of_le hc.1 hc.2
      rw [hd] at h
      obtain rfl := Option.some.inj h
      have hlt : d < 6 := Nat.lt_succ_of_le hle
      interval_cases d <;> exact .inl rfl
    split at h
    · next hc =>
      obtain ⟨d, rfl, hd, hle⟩ := exists_add_of_le hc.1 hc.2
      rw [hd] at h
      obtain rfl := Option.some.inj h
      have hlt : d < 6 := Nat.lt_succ_of_le hle
      interval_cases d <;> exact .inr rfl
    · cases h

theorem digitOf?_eq_some_iff : Text.digitOf? 16 c = some n ↔ HexDigit n c := by
  rw [hexDigit_iff, Text.digitOf?, Option.filter_eq_some_iff]
  refine and_iff_left_of_imp fun h => ?_
  rcases hexDigit_iff.2 h with h | h <;>
    exact decide_eq_true (List.getElem?_eq_some_iff.1 h).1

theorem hexDigits_iff {a b c d : Char} :
    HexDigits n [a, b, c, d] ↔ hexValue? a b c d = some n := by
  simp only [hexValue?, Text.numeral?, List.isEmpty_cons, Bool.false_eq_true, if_false,
    Text.digitsAfter?, Option.bind_eq_some_iff, digitOf?_eq_some_iff, Option.some.injEq,
    Nat.zero_mul, Nat.zero_add]
  constructor
  · rintro ⟨h₁, h₂, h₃, h₄⟩
    exact ⟨_, h₁, _, h₂, _, h₃, _, h₄, rfl⟩
  · rintro ⟨_, h₁, _, h₂, _, h₃, _, h₄, rfl⟩
    exact .four h₁ h₂ h₃ h₄

/-- Four digits are read, and what stands behind them is left. -/
theorem readHex_eq_ok_iff :
    readHex text = .ok (n, rest) ↔ ∃ digits, HexDigits n digits ∧ text = digits ++ rest := by
  constructor
  · intro h
    unfold readHex at h
    split at h
    · next a b c d tail =>
      split at h
      · next m hm =>
        obtain ⟨rfl, rfl⟩ := Prod.mk.inj (Except.ok.inj h)
        exact ⟨[a, b, c, d], hexDigits_iff.2 hm, rfl⟩
      · cases h
    · split at h <;> cases h
  · rintro ⟨digits, hd, rfl⟩
    obtain ⟨a, b, c, d, rfl⟩ : ∃ a b c d, digits = [a, b, c, d] := by
      cases hd
      exact ⟨_, _, _, _, rfl⟩
    simp only [List.cons_append, List.nil_append, readHex, hexDigits_iff.1 hd]

/-! ## Escapes -/

theorem simpleEscape?_eq_some_iff {letter : Char} :
    simpleEscape? letter = some c ↔ (letter, c) ∈ escapes := by
  constructor
  · intro h
    unfold simpleEscape? at h
    split at h <;> cases h <;> simp [escapes]
  · intro h
    simp only [escapes, List.mem_cons, Prod.mk.injEq, List.not_mem_nil, or_false] at h
    rcases h with ⟨rfl, rfl⟩ | ⟨rfl, rfl⟩ | ⟨rfl, rfl⟩ | ⟨rfl, rfl⟩ | ⟨rfl, rfl⟩ | ⟨rfl, rfl⟩ |
      ⟨rfl, rfl⟩ | ⟨rfl, rfl⟩ <;> rfl

theorem ne_of_mem_escapes {letter : Char} (h : (letter, c) ∈ escapes) : letter ≠ 'u' := by
  rintro rfl
  simp [escapes] at h

theorem isLeading_iff : isLeading n = true ↔ 0xD800 ≤ n ∧ n ≤ 0xDBFF := by
  simp [isLeading]

theorem isTrailing_iff : isTrailing n = true ↔ 0xDC00 ≤ n ∧ n ≤ 0xDFFF := by
  simp [isTrailing]

/-- The second half of a pair is read. -/
theorem readPair_eq_ok_iff : readPair n text = .ok (c, rest) ↔
    ∃ m digits, HexDigits m digits ∧ (0xDC00 ≤ m ∧ m ≤ 0xDFFF) ∧
      c = Char.ofNat (0x10000 + (n - 0xD800) * 0x400 + (m - 0xDC00)) ∧
      text = '\\' :: 'u' :: (digits ++ rest) := by
  constructor
  · intro h
    unfold readPair at h
    split at h
    · cases h
    · cases h
    · split at h
      · cases h
      · next m r hr =>
        obtain ⟨digits, hd, rfl⟩ := readHex_eq_ok_iff.1 hr
        split at h
        · next hm =>
          obtain ⟨rfl, rfl⟩ := Prod.mk.inj (Except.ok.inj h)
          exact ⟨m, digits, hd, isTrailing_iff.1 hm, rfl, rfl⟩
        · cases h
    · cases h
    · cases h
  · rintro ⟨m, digits, hd, hm, hc, htext⟩
    rw [htext, hc, readPair, readHex_eq_ok_iff.2 ⟨digits, hd, rfl⟩]
    exact if_pos (isTrailing_iff.2 hm)

theorem readEscape_of_letter {letter : Char} (h : (letter, c) ∈ escapes) (rest : List Char) :
    readEscape (letter :: rest) = .ok (c, rest) := by
  unfold readEscape
  split
  · next heq => cases heq
  · next heq => exact absurd (List.cons.inj heq).1 (ne_of_mem_escapes h)
  · next heq =>
    obtain ⟨rfl, rfl⟩ := List.cons.inj heq
    rw [simpleEscape?_eq_some_iff.2 h]

/-- An escape is read, its backslash being read already. -/
theorem readEscape_eq_ok_iff : readEscape text = .ok (c, rest) ↔
    ∃ escaped, SpellsChar c ('\\' :: escaped) ∧ text = escaped ++ rest := by
  constructor
  · intro h
    unfold readEscape at h
    split at h
    · cases h
    · split at h
      · cases h
      · next n r hr =>
        obtain ⟨digits, hd, rfl⟩ := readHex_eq_ok_iff.1 hr
        split at h
        · cases h
        · next ht =>
          rw [Bool.not_eq_true, ← Bool.not_eq_true, isTrailing_iff] at ht
          split at h
          · next hl =>
            obtain ⟨m, digits', hd', hm, hc, hr⟩ := readPair_eq_ok_iff.1 h
            rw [hc, hr]
            refine ⟨'u' :: (digits ++ '\\' :: 'u' :: digits'),
              .pair hd hd' (isLeading_iff.1 hl) hm, ?_⟩
            simp only [List.cons_append, List.append_assoc]
          · next hl =>
            rw [isLeading_iff] at hl
            obtain ⟨rfl, rfl⟩ := Prod.mk.inj (Except.ok.inj h)
            exact ⟨_, .code hd (by omega), rfl⟩
    · split at h
      · next hx =>
        obtain ⟨rfl, rfl⟩ := Prod.mk.inj (Except.ok.inj h)
        exact ⟨_, .letter (simpleEscape?_eq_some_iff.1 hx), rfl⟩
      · cases h
  · rintro ⟨escaped, h, rfl⟩
    generalize hspelling : '\\' :: escaped = spelling at h
    cases h with
    | unescaped h => exact absurd (List.cons.inj hspelling).1.symm h.ne_backslash
    | letter h =>
      obtain ⟨-, rfl⟩ := List.cons.inj hspelling
      exact readEscape_of_letter h rest
    | code h hn =>
      obtain ⟨-, rfl⟩ := List.cons.inj hspelling
      rw [List.cons_append, readEscape, readHex_eq_ok_iff.2 ⟨_, h, rfl⟩]
      simp only
      rw [if_neg (by rw [isTrailing_iff]; omega), if_neg (by rw [isLeading_iff]; omega)]
    | pair h h' hn hm =>
      rw [List.cons_append] at hspelling
      obtain ⟨-, rfl⟩ := List.cons.inj hspelling
      rw [List.cons_append, List.cons_append, List.append_assoc, readEscape,
        readHex_eq_ok_iff.2 ⟨_, h, rfl⟩]
      simp only
      rw [if_neg (by rw [isTrailing_iff]; omega), if_pos (isLeading_iff.2 hn)]
      exact readPair_eq_ok_iff.2 ⟨_, _, h', hm, rfl, rfl⟩

/-! ## Strings -/

theorem unescaped_iff :
    Unescaped c ↔ c ≠ '"' ∧ c ≠ '\\' ∧ isControl c = false := by
  rw [isControl, decide_eq_false_iff_not, Nat.not_lt]
  exact ⟨fun h => ⟨h.1, h.2, h.3⟩, fun h => ⟨h.1, h.2.1, h.2.2⟩⟩

instance (c : Char) : Decidable (Unescaped c) := decidable_of_iff _ unescaped_iff.symm

/-- No character needs an escape. -/
def Plain (s : List Char) : Prop := ∀ c ∈ s, Unescaped c

instance (s : List Char) : Decidable (Plain s) := List.decidableBAll _ s

/-- Characters that need no escape spell themselves. -/
theorem Spells.self (h : Plain s) : Spells s s := by
  induction s with
  | nil => exact .nil
  | cons c s ih =>
    exact .cons (.unescaped (h c List.mem_cons_self)) (ih fun d hd => h d (.tail c hd))

theorem readString_quote (rest : List Char) : readString ('"' :: rest) = .ok ([], rest) := by
  rw [readString]
  simp

/-- A character of a string is read, and then the others. -/
theorem readString_append (h : SpellsChar c text) (hr : readString rest = .ok (s, t)) :
    readString (text ++ rest) = .ok (c :: s, t) := by
  have hescape : ∀ escaped, SpellsChar c ('\\' :: escaped) →
      readString ('\\' :: escaped ++ rest) = .ok (c :: s, t) := by
    intro escaped h
    have he : readEscape (escaped ++ rest) = .ok (c, rest) :=
      readEscape_eq_ok_iff.2 ⟨escaped, h, rfl⟩
    rw [List.cons_append, readString, if_neg (by decide), if_pos rfl]
    split
    · next heq => cases heq.symm.trans he
    · next heq =>
      obtain ⟨rfl, rfl⟩ := Prod.mk.inj (Except.ok.inj (heq.symm.trans he))
      rw [hr]
  cases h with
  | unescaped h =>
    obtain ⟨hq, hb, hc⟩ := unescaped_iff.1 h
    rw [List.singleton_append, readString, if_neg hq, if_neg hb, hc, hr]
    rfl
  | letter h => exact hescape _ (.letter h)
  | code h hn => exact hescape _ (.code h hn)
  | pair h h' hn hm => exact hescape _ (.pair h h' hn hm)

/-- A string is read by its spellings. -/
theorem readString_eq_ok_iff : readString t = .ok (s, rest) ↔
    ∃ text, Spells s text ∧ t = text ++ '"' :: rest := by
  constructor
  · intro h
    fun_induction readString t generalizing s rest with
    | case1 => cases h
    | case2 text =>
      obtain ⟨rfl, rfl⟩ := Prod.mk.inj (Except.ok.inj h)
      exact ⟨[], .nil, rfl⟩
    | case3 => cases h
    | case4 => cases h
    | case5 text c r he hlen xs r' hr hq ih =>
      obtain ⟨rfl, rfl⟩ := Prod.mk.inj (Except.ok.inj h)
      obtain ⟨escaped, hc, rfl⟩ := readEscape_eq_ok_iff.1 he
      obtain ⟨text, hs, rfl⟩ := ih hr
      refine ⟨'\\' :: escaped ++ text, .cons hc hs, ?_⟩
      rw [List.cons_append, List.cons_append, List.append_assoc]
    | case6 => cases h
    | case7 => cases h
    | case8 c text hq hb hc xs r hr ih =>
      obtain ⟨rfl, rfl⟩ := Prod.mk.inj (Except.ok.inj h)
      obtain ⟨text, hs, rfl⟩ := ih hr
      have hplain : Unescaped c := unescaped_iff.2 ⟨hq, hb, Bool.eq_false_iff.2 hc⟩
      exact ⟨[c] ++ text, .cons (.unescaped hplain) hs, rfl⟩
  · rintro ⟨text, h, rfl⟩
    induction h with
    | nil => exact readString_quote rest
    | cons h hs ih =>
      rw [List.append_assoc]
      exact readString_append h ih

/-- A text spells one string only. -/
theorem Spells.unique (h : Spells s text) (h' : Spells t text) : s = t := by
  have hs : readString (text ++ ['"']) = .ok (s, []) := readString_eq_ok_iff.2 ⟨text, h, rfl⟩
  have ht : readString (text ++ ['"']) = .ok (t, []) := readString_eq_ok_iff.2 ⟨text, h', rfl⟩
  exact (Prod.mk.inj (Except.ok.inj (hs.symm.trans ht))).1

/-- The end of an escape is found, its backslash being read already. -/
theorem skipEscape_eq_ok_iff : skipEscape text = .ok rest ↔
    (∃ letter c, (letter, c) ∈ escapes ∧ text = letter :: rest) ∨
      ∃ n digits, HexDigits n digits ∧ text = 'u' :: (digits ++ rest) := by
  constructor
  · intro h
    unfold skipEscape at h
    split at h
    · cases h
    · split at h
      · cases h
      · next n r hr =>
        obtain ⟨digits, hd, rfl⟩ := readHex_eq_ok_iff.1 hr
        obtain rfl := Except.ok.inj h
        exact .inr ⟨n, digits, hd, rfl⟩
    · split at h
      · next hx =>
        obtain ⟨c, hc⟩ := Option.isSome_iff_exists.1 hx
        obtain rfl := Except.ok.inj h
        exact .inl ⟨_, c, simpleEscape?_eq_some_iff.1 hc, rfl⟩
      · cases h
  · rintro (⟨letter, c, h, rfl⟩ | ⟨n, digits, h, rfl⟩)
    · unfold skipEscape
      split
      · next heq => cases heq
      · next heq => exact absurd (List.cons.inj heq).1 (ne_of_mem_escapes h)
      · next heq =>
        obtain ⟨rfl, rfl⟩ := List.cons.inj heq
        rw [simpleEscape?_eq_some_iff.2 h]
        rfl
    · rw [skipEscape, readHex_eq_ok_iff.2 ⟨digits, h, rfl⟩]

theorem skipString_quote (rest : List Char) : skipString ('"' :: rest) = .ok rest := by
  rw [skipString]
  simp

theorem skipString_escape {escaped : List Char} (h : skipEscape escaped = .ok rest) :
    skipString ('\\' :: escaped) = skipString rest := by
  rw [skipString, if_neg (by decide), if_pos rfl]
  split
  · next heq => cases heq.symm.trans h
  · next heq =>
    obtain rfl := Except.ok.inj (heq.symm.trans h)
    rfl

/-- The end of a string is found. -/
theorem skipString_eq_ok_iff : skipString t = .ok rest ↔
    ∃ text, StringText text ∧ t = text ++ '"' :: rest := by
  constructor
  · intro h
    fun_induction skipString t with
    | case1 => cases h
    | case2 text =>
      obtain rfl := Except.ok.inj h
      exact ⟨[], .nil, rfl⟩
    | case3 => cases h
    | case4 text r he hlen hq ih =>
      obtain ⟨text, hs, rfl⟩ := ih h
      rcases skipEscape_eq_ok_iff.1 he with ⟨letter, c, hc, rfl⟩ | ⟨n, digits, hd, rfl⟩
      · exact ⟨_, .letter hc hs, rfl⟩
      · refine ⟨_, .code hd hs, ?_⟩
        simp only [List.cons_append, List.append_assoc]
    | case5 => cases h
    | case6 c text hq hb hc ih =>
      obtain ⟨text, hs, rfl⟩ := ih h
      exact ⟨_, .unescaped (unescaped_iff.2 ⟨hq, hb, Bool.eq_false_iff.2 hc⟩) hs, rfl⟩
  · rintro ⟨text, h, rfl⟩
    induction h with
    | nil => exact skipString_quote rest
    | unescaped h hr ih =>
      obtain ⟨hq, hb, hc⟩ := unescaped_iff.1 h
      rw [List.cons_append, skipString, if_neg hq, if_neg hb, hc]
      exact ih
    | @letter letter c text h hr ih =>
      have he : skipEscape (letter :: (text ++ '"' :: rest)) = .ok (text ++ '"' :: rest) :=
        skipEscape_eq_ok_iff.2 (.inl ⟨letter, c, h, rfl⟩)
      exact (skipString_escape he).trans ih
    | @code n digits text h hr ih =>
      have he : skipEscape ('u' :: (digits ++ (text ++ '"' :: rest))) = .ok (text ++ '"' :: rest) :=
        skipEscape_eq_ok_iff.2 (.inr ⟨n, digits, h, rfl⟩)
      rw [List.cons_append, List.cons_append, List.append_assoc]
      exact (skipString_escape he).trans ih

/-- What spells a string may stand between quotes. -/
theorem Spells.stringText (h : Spells s text) : StringText text := by
  induction h with
  | nil => exact .nil
  | cons h hs ih =>
    cases h with
    | unescaped h => exact .unescaped h ih
    | letter h => exact .letter h ih
    | code h hn => exact .code h ih
    | pair h h' hn hm =>
      rw [List.append_assoc]
      exact .code h (.code h' ih)

end SearchPanel.Json
