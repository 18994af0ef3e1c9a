import SearchPanel.Proofs.Text.Piece

/-!
# Texts in lower case

* `IsLower c`: the character `c` is its own lower-case form wherever it stands.
* `lookup_eq_none_of_lookup`: no entry of the case table leads to a character that has an entry
  itself. So the characters of every form are in lower case (`isLower_of_mem_lowerBetween`).
* `lowerChars_eq_self_iff`: a text that lowering does not change is one of such characters. Every
  lowered text is one, so lowering twice is lowering once (`lowerChars_lowerChars`).
-/

namespace SearchPanel.Text

variable {text before after : List Char} {c d : Char} {m n : Nat}

/-- `c` is its own lower-case form wherever it stands. A capital sigma has two, so it is named. -/
def IsLower (c : Char) : Prop := c ≠ 'Σ' ∧ lowerChar c = [c]

instance (c : Char) : Decidable (IsLower c) := inferInstanceAs (Decidable (_ ∧ _))

/-! ## The case table -/

namespace CaseRun

/-- No form of `r` has an entry in `r'`: they lie apart, or both go in steps of two and miss each
other. -/
def apart (r r' : CaseRun) : Bool :=
  Nat.blt r'.last r.target || Nat.blt (r.target + (r.last - r.first)) r'.first ||
    (r'.step == 2 && (r.step == 2 || r.first == r.last) && (r.target + r'.first) % 2 == 1)

/-- The run in which a code point is found, and how far from its beginning. -/
theorem exists_of_lookup {runs : List CaseRun} (h : lookup m runs = some n) :
    ∃ r ∈ runs, ∃ k, r.first + k ≤ r.last ∧ k % r.step = 0 ∧ m = r.first + k ∧
      n = r.target + k := by
  induction runs with
  | nil => cases h
  | cons r rest ih =>
    rw [lookup] at h
    split at h
    · cases h
    · split at h
      · split at h
        · next hstep =>
          obtain rfl := Option.some.inj h
          exact ⟨r, List.mem_cons_self, m - r.first, by omega, hstep, by omega, rfl⟩
        · cases h
      · obtain ⟨r', hr', hk⟩ := ih h
        exact ⟨r', List.mem_cons_of_mem r hr', hk⟩

theorem apart_iff {r r' : CaseRun} : r.apart r' = true ↔
    r'.last < r.target ∨ r.target + (r.last - r.first) < r'.first ∨
      r'.step = 2 ∧ (r.step = 2 ∨ r.first = r.last) ∧ (r.target + r'.first) % 2 = 1 := by
  simp only [apart, Bool.or_eq_true, Bool.and_eq_true, Nat.blt_eq, beq_iff_eq, or_assoc, and_assoc]

end CaseRun

/-- The forms of the table are not among the characters that have an entry. -/
theorem apart_lowerRuns : (lowerRuns.all fun r => lowerRuns.all r.apart) = true := by
  decide +kernel

/-- The forms of the table are characters, and none is a dotted capital. -/
theorem target_lowerRuns : ∀ r ∈ lowerRuns,
    (r.target + (r.last - r.first) < 0xD800 ∨
      0xDFFF < r.target ∧ r.target + (r.last - r.first) < 0x110000) ∧
    (r.target + (r.last - r.first) < 'İ'.toNat ∨ 'İ'.toNat < r.target) := by
  decide +kernel

/-- The table does not lead on from a form. -/
theorem lookup_eq_none_of_lookup (h : CaseRun.lookup m lowerRuns = some n) :
    CaseRun.lookup n lowerRuns = none := by
  obtain ⟨r, hr, k, hk, hstep, -, rfl⟩ := CaseRun.exists_of_lookup h
  refine Option.eq_none_iff_forall_ne_some.2 fun n' h' => ?_
  obtain ⟨r', hr', k', hk', hstep', heq, -⟩ := CaseRun.exists_of_lookup h'
  have hapart := List.all_eq_true.1 (List.all_eq_true.1 apart_lowerRuns r hr) r' hr'
  rcases CaseRun.apart_iff.1 hapart with hlt | hlt | ⟨htwo', htwo, hodd⟩
  · omega
  · omega
  · rw [htwo'] at hstep'
    rcases htwo with htwo | hone
    · rw [htwo] at hstep
      omega
    · omega

/-- A character without an entry is in lower case. -/
theorem isLower_of_lookup_eq_none (hi : c ≠ 'İ') (h : CaseRun.lookup c.toNat lowerRuns = none) :
    IsLower c := by
  constructor
  · rintro rfl
    have hsigma : CaseRun.lookup 'Σ'.toNat lowerRuns ≠ none := by decide
    exact hsigma h
  · rw [lowerChar, if_neg hi, h]

/-- The character of an entry is in lower case. -/
theorem isLower_of_lookup (h : CaseRun.lookup m lowerRuns = some n) : IsLower (Char.ofNat n) := by
  obtain ⟨r, hr, k, hk, -, -, rfl⟩ := CaseRun.exists_of_lookup h
  obtain ⟨hchar, hdot⟩ := target_lowerRuns r hr
  have hvalid : (r.target + k).isValidChar := by
    rw [Nat.isValidChar]
    omega
  have hto : (Char.ofNat (r.target + k)).toNat = r.target + k := by
    rw [Char.ofNat, dif_pos hvalid]
    rfl
  refine isLower_of_lookup_eq_none (fun he => ?_) (by rw [hto, lookup_eq_none_of_lookup h])
  rw [he] at hto
  omega

/-! ## Forms -/

theorem isLower_of_mem_lowerChar (h : d ∈ lowerChar c) : IsLower d := by
  unfold lowerChar at h
  split at h
  · rcases List.mem_cons.1 h with rfl | h
    · decide
    · obtain rfl := List.mem_singleton.1 h
      decide
  · next hi =>
    split at h
    · next n hn =>
      obtain rfl := List.mem_singleton.1 h
      exact isLower_of_lookup hn
    · next hn =>
      obtain rfl := List.mem_singleton.1 h
      exact isLower_of_lookup_eq_none hi hn

theorem isLower_of_mem_lowerBetween (h : d ∈ lowerBetween before c after) : IsLower d := by
  unfold lowerBetween at h
  split at h
  · have hsigma : ∀ final : Bool, IsLower (if final then 'ς' else 'σ') := by decide
    obtain rfl := List.mem_singleton.1 h
    exact hsigma _
  · exact isLower_of_mem_lowerChar h

theorem lowerBetween_eq_self (h : IsLower c) (before after : List Char) :
    lowerBetween before c after = [c] := by
  rw [lowerBetween, if_neg h.1, h.2]

/-! ## Texts -/

/-- Every character of a lowered text is in lower case. -/
theorem isLower_of_mem_lowerChars (h : d ∈ lowerChars text) : IsLower d := by
  suffices H : ∀ before, d ∈ (piecesAfter before text).flatten → IsLower d from H [] h
  clear h
  induction text with
  | nil => intro before h; cases h
  | cons c rest ih =>
    intro before h
    rw [piecesAfter, List.flatten_cons, List.mem_append] at h
    rcases h with h | h
    · exact isLower_of_mem_lowerBetween h
    · exact ih (c :: before) h

/-- Characters in lower case are the forms of themselves. -/
theorem piecesBetween_of_isLower (h : ∀ c ∈ text, IsLower c) (before after : List Char) :
    piecesBetween before text after = text.map ([·]) := by
  induction text generalizing before with
  | nil => rfl
  | cons c rest ih =>
    rw [piecesBetween, lowerBetween_eq_self (h c List.mem_cons_self),
      ih fun d hd => h d (List.mem_cons_of_mem c hd), List.map_cons]

theorem piecesAfter_of_isLower (h : ∀ c ∈ text, IsLower c) (before : List Char) :
    piecesAfter before text = text.map ([·]) := by
  rw [← piecesBetween_nil, piecesBetween_of_isLower h]

/-- Lowering changes nothing exactly where all is in lower case already. -/
theorem lowerChars_eq_self_iff : lowerChars text = text ↔ ∀ c ∈ text, IsLower c := by
  constructor
  · intro h c hc
    rw [← h] at hc
    exact isLower_of_mem_lowerChars hc
  · intro h
    rw [lowerChars, pieces, piecesAfter_of_isLower h, ← List.flatMap_def, List.flatMap_singleton']

/-- Lowering twice is lowering once. -/
@[simp]
theorem lowerChars_lowerChars (text : List Char) :
    lowerChars (lowerChars text) = lowerChars text :=
  lowerChars_eq_self_iff.2 fun _ => isLower_of_mem_lowerChars

end SearchPanel.Text
