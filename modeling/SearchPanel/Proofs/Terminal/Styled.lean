import Mathlib.Data.List.Forall2
import SearchPanel.Proofs.Text.Words
import SearchPanel.Terminal.Style
import SearchPanel.Terminal.Width

/-!
# Text with escape sequences

* `IsSequence s`: one complete escape sequence. `IsStyle s`: one that holds no white space, as the
  sequences of the reports (`isStyle_code` and its like).
* `Styled allowed text plain`: `text` is `plain` with sequences put in that are `allowed`. They take
  no room (`Styled.visibleLength_of_isSequence`), and without white space in them they part no words
  (`Styled.splitOnP`).
-/

namespace SearchPanel.Terminal

variable {allowed : List Char → Prop} {text plain a b p q s : List Char} {c : Char}

/-- One complete escape sequence. -/
def IsSequence (s : List Char) : Prop :=
  ∃ body, s = escapeChar :: (body ++ ['m']) ∧ escapeChar ∉ body ∧ 'm' ∉ body

/-- One complete escape sequence without white space. -/
structure IsStyle (s : List Char) : Prop where
  sequence : IsSequence s
  unbroken : ∀ c ∈ s, Text.isBlank c = false

/-- `text` is `plain` with escape sequences put in, each of them `allowed`. -/
inductive Styled (allowed : List Char → Prop) : List Char → List Char → Prop
  | nil : Styled allowed [] []
  | char {c : Char} {text plain : List Char} (hc : c ≠ escapeChar)
    (h : Styled allowed text plain) : Styled allowed (c :: text) (c :: plain)
  | sequence {s text plain : List Char} (hs : allowed s) (h : Styled allowed text plain) :
    Styled allowed (s ++ text) plain

/-! ## Sequences -/

theorem IsSequence.isStyle (h : IsSequence s) (hs : s.any Text.isBlank = false) : IsStyle s :=
  ⟨h, fun c hc => Bool.eq_false_iff.2 (List.any_eq_false.1 hs c hc)⟩

theorem isStyle_reset : IsStyle reset :=
  IsSequence.isStyle ⟨"[0".toList, by decide, by decide⟩ (by decide)

theorem isStyle_bold : IsStyle bold :=
  IsSequence.isStyle ⟨"[1".toList, by decide, by decide⟩ (by decide)

theorem isStyle_underline : IsStyle underline :=
  IsSequence.isStyle ⟨"[4".toList, by decide, by decide⟩ (by decide)

theorem isStyle_code (theme : Theme) (color : Color) : IsStyle (color.code theme) := by
  refine IsSequence.isStyle ⟨((color.code theme).drop 1).dropLast, ?_⟩ ?_ <;>
    cases theme <;> cases color <;> decide +kernel

theorem visibleFrom_body (he : escapeChar ∉ s) (hm : 'm' ∉ s) (text : List Char) :
    visibleFrom true (s ++ 'm' :: text) = visibleFrom false text := by
  induction s with
  | nil =>
    have hne : 'm' ≠ escapeChar := by decide
    simp [visibleFrom, hne]
  | cons c s ih =>
    rw [List.mem_cons, not_or] at he hm
    simpa [visibleFrom, Ne.symm he.1, Ne.symm hm.1] using ih he.2 hm.2

/-- A sequence takes no room. -/
theorem IsSequence.visibleLength_append (h : IsSequence s) (text : List Char) :
    visibleLength (s ++ text) = visibleLength text := by
  obtain ⟨body, rfl, he, hm⟩ := h
  simpa [visibleLength, visibleFrom] using visibleFrom_body he hm text

/-! ## Styled text -/

namespace Styled

theorem append (h₁ : Styled allowed a p) (h₂ : Styled allowed b q) :
    Styled allowed (a ++ b) (p ++ q) := by
  induction h₁ with
  | nil => exact h₂
  | char hc _ ih => exact .char hc ih
  | sequence hs _ ih =>
    rw [List.append_assoc]
    exact .sequence hs ih

/-- Text without an escape character shows itself. -/
theorem self (h : escapeChar ∉ text) : Styled allowed text text := by
  induction text with
  | nil => exact .nil
  | cons c text ih =>
    rw [List.mem_cons, not_or] at h
    exact .char (Ne.symm h.1) (ih h.2)

theorem one (hs : allowed s) : Styled allowed s [] := by
  rw [← List.append_nil s]
  exact .sequence hs .nil

theorem mono {allowed' : List Char → Prop} (h : Styled allowed text plain)
    (himp : ∀ s, allowed s → allowed' s) : Styled allowed' text plain := by
  induction h with
  | nil => exact .nil
  | char hc _ ih => exact .char hc ih
  | sequence hs _ ih => exact .sequence (himp _ hs) ih

/-- Sequences bring no white space. -/
theorem blank_mem_iff (hallowed : ∀ s, allowed s → IsStyle s) (h : Styled allowed text plain)
    (hc : Text.isBlank c = true) : c ∈ text ↔ c ∈ plain := by
  induction h with
  | nil => rfl
  | char _ _ ih => rw [List.mem_cons, List.mem_cons, ih]
  | @sequence s text plain hs _ ih =>
    have hcs : c ∉ s := fun hmem => by simp [(hallowed s hs).unbroken c hmem] at hc
    rw [List.mem_append, ih, or_iff_right hcs]

/-- Sequences alone show nothing. -/
theorem of_flatten {parts : List (List Char)} (h : ∀ s ∈ parts, allowed s) :
    Styled allowed parts.flatten [] := by
  induction parts with
  | nil => exact .nil
  | cons s parts ih =>
    rw [List.forall_mem_cons] at h
    exact .sequence h.1 (ih h.2)

/-- Sequences take no room, whatever stands in them. -/
theorem visibleLength_of_isSequence (h : Styled IsSequence text plain) :
    visibleLength text = plain.length := by
  induction h with
  | nil => rfl
  | @char c text plain hc h ih =>
    have hcons : visibleLength (c :: text) = visibleLength text + 1 := by
      simp [visibleLength, visibleFrom, hc]
    rw [hcons, ih, List.length_cons]
  | sequence hs h ih => rw [hs.visibleLength_append, ih]

theorem visibleLength_eq (h : Styled IsStyle text plain) : visibleLength text = plain.length :=
  (h.mono fun _ hs => hs.sequence).visibleLength_of_isSequence

theorem modifyHead {as bs : List (List Char)} {f g : List Char → List Char}
    (h : List.Forall₂ (Styled allowed) as bs)
    (hfg : ∀ a b, Styled allowed a b → Styled allowed (f a) (g b)) :
    List.Forall₂ (Styled allowed) (as.modifyHead f) (bs.modifyHead g) := by
  cases h with
  | nil => exact .nil
  | cons hab hrest => exact .cons (hfg _ _ hab) hrest

/-- Sequences part no words: the pieces between the white space are the same, but for sequences. -/
theorem splitOnP (hallowed : ∀ s, allowed s → IsStyle s) (h : Styled allowed text plain) :
    List.Forall₂ (Styled allowed) (text.splitOnP Text.isBlank) (plain.splitOnP Text.isBlank) := by
  induction h with
  | nil => simpa using Styled.nil
  | @char c text plain hc h ih =>
    rw [List.splitOnP_cons_eq_if_modifyHead, List.splitOnP_cons_eq_if_modifyHead]
    by_cases hb : Text.isBlank c = true
    · rw [if_pos hb, if_pos hb]
      exact .cons .nil ih
    · rw [if_neg hb, if_neg hb]
      exact modifyHead ih fun _ _ => .char hc
  | @sequence s text plain hs h ih =>
    rw [Text.splitOnP_append_of_forall (hallowed s hs).unbroken]
    have hplain : plain.splitOnP Text.isBlank =
        (plain.splitOnP Text.isBlank).modifyHead fun v => v := by
      cases plain.splitOnP Text.isBlank <;> rfl
    rw [hplain]
    exact modifyHead ih fun _ _ => .sequence hs

/-- Every word of a styled text is styled itself. -/
theorem exists_of_mem_words (hallowed : ∀ s, allowed s → IsStyle s) (h : Styled allowed text plain)
    {w : List Char} (hw : w ∈ Text.words text) : ∃ v, Styled allowed w v := by
  rw [Text.words_eq, List.mem_filter] at hw
  have hmem := hw.1
  have hpieces := h.splitOnP hallowed
  generalize text.splitOnP Text.isBlank = as, plain.splitOnP Text.isBlank = bs at hmem hpieces
  induction hpieces with
  | nil => cases hmem
  | cons hs _ ih =>
    rcases List.mem_cons.1 hmem with rfl | hmem
    · exact ⟨_, hs⟩
    · exact ih hmem

/-- The words are as wide as those of the plain text. Sequences alone may be further words, which
take no room. -/
theorem words_le_iff (h : Styled IsStyle text plain) (n : Nat) :
    (∀ w ∈ Text.words text, visibleLength w ≤ n) ↔ ∀ w ∈ Text.words plain, w.length ≤ n := by
  rw [Text.forall_mem_words_iff (P := (visibleLength · ≤ n)) (Nat.zero_le n),
    Text.forall_mem_words_iff (P := (·.length ≤ n)) (Nat.zero_le n)]
  have hpieces := h.splitOnP fun _ hs => hs
  generalize text.splitOnP Text.isBlank = as, plain.splitOnP Text.isBlank = bs at hpieces
  induction hpieces with
  | nil => simp
  | cons hs _ ih =>
    rw [List.forall_mem_cons, List.forall_mem_cons, hs.visibleLength_eq]
    exact and_congr_right fun _ => ih

end Styled

end SearchPanel.Terminal
