import SearchPanel.Decimal.Shortest
import SearchPanel.Text.Quoted

/-!
# Texts without control characters

* `Printable text`: no character below the space stands in the text.
* `printable_quoted`: a quoted text is printable, whatever it quotes.
* `printable_float`: so is a float, in every form.
-/

namespace SearchPanel.Text

/-- No character below the space stands in the text. -/
def Printable (text : String) : Prop := ∀ c ∈ text.toList, 0x20 ≤ c.toNat

instance (text : String) : Decidable (Printable text) :=
  List.decidableBAll (fun c : Char => 0x20 ≤ c.toNat) text.toList

variable {text : String} {cs : List Char}

theorem Printable.not_mem (h : Printable text) {c : Char} (hc : c.toNat < 0x20) :
    c ∉ text.toList := fun hmem => Nat.not_le_of_lt hc (h c hmem)

theorem Printable.append {s t : String} (hs : Printable s) (ht : Printable t) :
    Printable (s ++ t) := by
  intro c hc
  rw [String.toList_append, List.mem_append] at hc
  exact hc.elim (hs c) (ht c)

@[simp]
theorem printable_ofList : Printable (String.ofList cs) ↔ ∀ c ∈ cs, 0x20 ≤ c.toNat := by
  simp [Printable]

/-- Part of a printable text is printable. -/
theorem Printable.ofList (h : Printable text) (hcs : cs ⊆ text.toList) :
    Printable (String.ofList cs) := by
  rw [printable_ofList]
  exact fun c hc => h c (hcs hc)

theorem Printable.ite {p : Prop} [Decidable p] {s t : String} (hs : Printable s)
    (ht : Printable t) : Printable (if p then s else t) := by
  split <;> assumption

/-! ## Numbers -/

theorem toNat_of_isDigit {c : Char} (h : c.isDigit = true) : 0x20 ≤ c.toNat := by
  simp only [Char.isDigit, Bool.and_eq_true, decide_eq_true_eq] at h
  have h48 : '0'.toNat ≤ c.toNat := h.1
  have : '0'.toNat = 48 := rfl
  omega

@[simp]
theorem printable_toString (n : Nat) : Printable (toString n) := by
  intro c hc
  rw [Nat.toString_eq_repr, Nat.toList_repr] at hc
  exact toNat_of_isDigit (Nat.isDigit_of_mem_toDigits (by omega) (by omega) hc)

theorem printable_int (n : Int) : Printable (toString n) := by
  have hminus : Printable "-" := by decide
  cases n with
  | ofNat n => exact printable_toString n
  | negSucc n => exact hminus.append (printable_toString (n + 1))

theorem printable_zeros (n : Nat) : Printable (String.ofList (List.replicate n '0')) := by
  rw [printable_ofList]
  intro c hc
  rw [List.eq_of_mem_replicate hc]
  decide

theorem printable_plain (d : Decimal.Scaled) : Printable (Decimal.Form.plain d) := by
  have hdigits := printable_toString d.digits
  have hend : Printable ".0" := by decide
  have hpoint : Printable "." := by decide
  have hstart : Printable "0." := by decide
  unfold Decimal.Form.plain
  refine .ite ?_ (.ite ?_ ?_)
  · exact (hdigits.append (printable_zeros _)).append hend
  · exact ((hdigits.ofList (List.take_subset _ _)).append hpoint).append
      (hdigits.ofList (List.drop_subset _ _))
  · exact (hstart.append (printable_zeros _)).append hdigits

theorem printable_scientific (d : Decimal.Scaled) : Printable (Decimal.Form.scientific d) := by
  have hdigits := printable_toString d.digits
  have hfirst := hdigits.ofList (List.take_subset 1 _)
  have hfraction := hdigits.ofList (List.drop_subset 1 _)
  have hpoint : Printable "." := by decide
  have hmark : Printable "e" := by decide
  unfold Decimal.Form.scientific
  refine (((hfirst.append (.ite (by decide) ?_)).append hmark).append
    (.ite (by decide) (by decide))).append (printable_toString _)
  exact hpoint.append hfraction

theorem printable_decimal (l : Decimal.Form) (d : Decimal.Scaled) : Printable (l.decimal d) := by
  unfold Decimal.Form.decimal
  split
  · exact printable_plain d
  · exact .ite (printable_plain d) (printable_scientific d)

theorem printable_float (l : Decimal.Form) (x : Float) : Printable (l.float x) := by
  have hminus : ∀ p : Prop, [Decidable p] → Printable (if p then "-" else "") := fun _ _ =>
    .ite (by decide) (by decide)
  have hinf : Printable "inf" := by decide
  have hnan : Printable "NaN" := by decide
  have hzero : Printable "0.0" := by decide
  unfold Decimal.Form.float Decimal.Form.ofBits
  refine .ite (.ite ?_ hnan) (.ite ?_ ?_)
  · exact (hminus _).append hinf
  · exact (hminus _).append hzero
  · exact (hminus _).append (printable_decimal l _)

/-! ## Quoted texts -/

theorem toNat_of_not_isUnprintable {c : Char} (h : isUnprintable c = false) : 0x20 ≤ c.toNat := by
  refine Nat.le_of_not_lt fun hlt => ?_
  -- the first range of the list holds the control characters
  have hholds : ∀ more, CodeRange.holds c.toNat (⟨0x0, 0x1F⟩ :: more) = true := by
    intro more
    rw [CodeRange.holds, if_neg (Nat.not_lt_zero _), if_pos (Nat.le_of_lt_succ hlt)]
  unfold isUnprintable unprintableRanges at h
  rw [hholds] at h
  cases h

theorem printable_toDigits (n : Nat) : ∀ c ∈ Nat.toDigits 16 n, 0x20 ≤ c.toNat := by
  have hdigit : ∀ k < 16, 0x20 ≤ k.digitChar.toNat := by decide
  induction n using Nat.strongRecOn with
  | ind n ih =>
    by_cases hn : n < 16
    · rw [Nat.toDigits_of_lt_base hn, List.forall_mem_singleton]
      exact hdigit n hn
    · rw [Nat.toDigits_of_base_le (by omega) (by omega), List.forall_mem_append,
        List.forall_mem_singleton]
      exact ⟨ih _ (by omega), hdigit _ (by omega)⟩

theorem printable_quoteChar (c : Char) : ∀ x ∈ quoteChar c, 0x20 ≤ x.toNat := by
  have hstart : Printable "\\u\x7b" := by decide
  unfold quoteChar
  repeat' split
  -- six characters have an escape of their own
  iterate 6 · simp
  · rw [List.forall_mem_append, List.forall_mem_append, List.forall_mem_singleton]
    exact ⟨⟨hstart, printable_toDigits c.toNat⟩, by decide⟩
  · rw [List.forall_mem_singleton]
    exact toNat_of_not_isUnprintable (by simp_all)

/-- Quoting shows control characters by their code points. -/
theorem printable_quoted (text : String) : Printable (quoted text) := by
  have hquote : Printable "\"" := by decide
  have hinside : Printable (String.ofList (text.toList.flatMap quoteChar)) := by
    rw [printable_ofList]
    intro x hx
    obtain ⟨c, -, hc⟩ := List.mem_flatMap.1 hx
    exact printable_quoteChar c x hc
  exact (hquote.append hinside).append hquote

end SearchPanel.Text
