import SearchPanel.Terminal.Entity
import SearchPanel.Terminal.Width

/-!
# Escape characters in decoded text

No character reference names the escape character, and none is spelled with it. So decoding neither
brings one into a text nor takes one out of it (`escapeChar_mem_decodeEntities_iff`).
-/

namespace SearchPanel.Terminal

variable {text name : List Char} {c : Char}

/-! ## None is brought in -/

theorem ne_escapeChar_of_referencedChar? {n : Nat} (h : referencedChar? n = some c) :
    c ≠ escapeChar := by
  unfold referencedChar? at h
  rintro rfl
  by_cases hn : n < 0x20 ∧ n ∉ [9, 10, 12, 13]
  · simp [hn] at h
  by_cases hv : n.isValidChar
  · rw [if_neg hn, dif_pos hv] at h
    have hcode : n = 27 := congrArg Char.toNat (Option.some.inj h)
    rw [hcode] at hn
    exact hn (by decide)
  · simp [hv] at h

/-- A name that is not for the escape character, and is spelled with greater bytes only. -/
def isApart (p : String × Nat) : Bool :=
  Char.ofNat p.2 != escapeChar && p.1.toByteArray.data.toList.all fun b => Nat.blt 27 b.toNat

theorem all_entityNames : entityNames.all isApart = true := by
  unfold entityNames
  simp only [List.all_append]
  decide +kernel

/-- No reference names the escape character. -/
theorem ne_escapeChar_of_entity? (h : entity? name = some c) : c ≠ escapeChar := by
  unfold entity? at h
  split at h
  case h_4 =>
    obtain ⟨n, hn, rfl⟩ := Option.map_eq_some_iff.1 h
    obtain ⟨before, after, hnames, -⟩ := List.lookup_eq_some_iff.1 hn
    have hall := List.all_eq_true.1 all_entityNames (String.ofList name, n) (by simp [hnames])
    simpa using (Bool.and_eq_true_iff.1 hall).1
  all_goals
    obtain ⟨n, -, hn⟩ := Option.bind_eq_some_iff.1 h
    exact ne_escapeChar_of_referencedChar? hn

theorem escapeChar_not_mem_decodeFrom {held : Option (List Char)}
    (hheld : ∀ h ∈ held, escapeChar ∉ h) (h : escapeChar ∉ text) :
    escapeChar ∉ decodeFrom held text := by
  have hamp : escapeChar ≠ '&' := by decide
  have hsemi : escapeChar ≠ ';' := by decide
  fun_induction decodeFrom held text with
  | case1 => simp
  | case2 held => simpa [hamp] using hheld
  | case3 rest ih => exact ih (by simp) fun hr => h (by simp [hr])
  | case4 c rest hc ih => simp_all
  | case5 held rest ih => simp_all
  | case6 held rest named hnamed _ ih =>
    have := ne_escapeChar_of_entity? hnamed
    simp_all [Ne.symm this]
  | case7 held rest hnamed _ ih => simp_all
  | case8 held c rest _ _ ih => simp_all

theorem escapeChar_not_mem_decodeEntities (h : escapeChar ∉ text) :
    escapeChar ∉ decodeEntities text :=
  escapeChar_not_mem_decodeFrom (by simp) h

/-! ## None is taken out -/

theorem numeral?_eq_none_of_mem {base : Nat} {digits : List Char} (h : escapeChar ∈ digits) :
    Text.numeral? base digits = none := by
  have hafter : ∀ value, Text.digitsAfter? base value digits = none := by
    induction digits with
    | nil => cases h
    | cons c digits ih =>
      intro value
      rw [Text.digitsAfter?]
      rcases List.mem_cons.1 h with rfl | h
      · have hdigit : Text.digitOf? base escapeChar = none := rfl
        rw [hdigit, Option.bind_none]
      · refine Option.bind_eq_none_iff.2 fun d _ => ih h _
  rw [Text.numeral?, hafter, ite_self]

theorem not_mem_names_of_mem (h : escapeChar ∈ name) :
    ∀ p ∈ entityNames, String.ofList name ≠ p.1 := by
  rintro p hp hname
  have hall := (Bool.and_eq_true_iff.1 (List.all_eq_true.1 all_entityNames p hp)).2
  have hbytes : p.1.toByteArray.data.toList = name.flatMap String.utf8EncodeChar := by
    rw [← hname]
    exact List.toList_data_toByteArray
  have hbyte : (27 : UInt8) ∈ p.1.toByteArray.data.toList := by
    rw [hbytes]
    exact List.mem_flatMap.2 ⟨escapeChar, h, by decide⟩
  exact absurd (List.all_eq_true.1 hall _ hbyte) (by decide)

/-- No reference is spelled with the escape character. -/
theorem entity?_eq_none_of_mem (h : escapeChar ∈ name) : entity? name = none := by
  have hmark : escapeChar ≠ '#' := by decide
  have hsmall : escapeChar ≠ 'x' := by decide
  have hlarge : escapeChar ≠ 'X' := by decide
  unfold entity?
  split
  · rw [numeral?_eq_none_of_mem (by simpa [hmark, hsmall] using h), Option.bind_none]
  · rw [numeral?_eq_none_of_mem (by simpa [hmark, hlarge] using h), Option.bind_none]
  · rw [numeral?_eq_none_of_mem (by simpa [hmark] using h), Option.bind_none]
  · have hlookup : entityNames.lookup (String.ofList name) = none :=
      List.lookup_eq_none_iff.2 fun p hp => by simpa using not_mem_names_of_mem h p hp
    rw [hlookup, Option.map_none]

theorem escapeChar_mem_decodeFrom {held : Option (List Char)}
    (h : (∃ read ∈ held, escapeChar ∈ read) ∨ escapeChar ∈ text) :
    escapeChar ∈ decodeFrom held text := by
  have hamp : escapeChar ≠ '&' := by decide
  have hsemi : escapeChar ≠ ';' := by decide
  fun_induction decodeFrom held text with
  | case1 => simp at h
  | case2 held => simpa [hamp] using h
  | case3 rest ih => exact ih (by simpa [hamp] using h)
  | case4 c rest hc ih =>
    rcases List.mem_cons.1 (by simpa using h) with rfl | h
    · simp
    · exact List.mem_cons_of_mem _ (ih (.inr h))
  | case5 held rest ih =>
    have hmem : escapeChar ∈ held ∨ escapeChar ∈ rest := by simpa [hamp] using h
    simpa [hamp] using hmem.imp_right fun hrest => ih (.inr hrest)
  | case6 held rest named hnamed _ ih =>
    -- the reference that is decoded here holds none
    have hheld : escapeChar ∉ held := fun hmem => by
      rw [entity?_eq_none_of_mem (List.mem_reverse.2 hmem)] at hnamed
      cases hnamed
    refine List.mem_cons_of_mem _ (ih (.inr ?_))
    simpa [hheld, hsemi] using h
  | case7 held rest hnamed _ ih =>
    have hmem : escapeChar ∈ held ∨ escapeChar ∈ rest := by simpa [hsemi] using h
    simpa [hamp, hsemi] using hmem.imp_right fun hrest => ih (.inr hrest)
  | case8 held c rest _ _ ih =>
    have hmem : escapeChar ∈ held ∨ escapeChar = c ∨ escapeChar ∈ rest := by simpa using h
    refine ih ?_
    rcases hmem with hmem | hmem | hmem <;> simp [hmem]

/-- Decoding neither brings an escape character into a text nor takes one out of it. -/
theorem escapeChar_mem_decodeEntities_iff :
    escapeChar ∈ decodeEntities text ↔ escapeChar ∈ text :=
  ⟨Decidable.not_imp_not.1 escapeChar_not_mem_decodeEntities,
    fun h => escapeChar_mem_decodeFrom (.inr h)⟩

end SearchPanel.Terminal
