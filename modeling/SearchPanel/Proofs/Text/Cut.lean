import SearchPanel.Proofs.Occurrence

/-!
# Cutting at the first place

* `cut?_eq_none_iff`: a text is not cut exactly when the pattern does not stand in it.
* `FirstCut pattern text before after`: the pattern stands between `before` and `after`, and nowhere
  further to the left. That is how a text is cut (`cut?_eq_some_iff`).
* `cut?_append`: a pattern is found where it was put, behind a text that it does not stand in. The
  pattern's first character does not come again inside of it, so no place of it reaches into
  another.
-/

namespace SearchPanel.Text

variable {pattern tail text before after : List Char} {c : Char}

/-- The pattern stands between `before` and `after` in `text`, which is its first place. -/
structure FirstCut (pattern text before after : List Char) : Prop where
  split : text = before ++ pattern ++ after
  leftmost : Leftmost pattern text before.length

theorem cut?_eq_none_iff : cut? pattern text = none ↔ ¬ pattern <:+: text := by
  induction text with
  | nil => simp [cut?]
  | cons d rest ih =>
    rw [cut?, List.infix_cons_iff, not_or, ← ih]
    by_cases h : pattern.isPrefixOf (d :: rest) = true
    · simp [h, List.isPrefixOf_iff_prefix.1 h]
    · rw [if_neg h, Option.map_eq_none_iff, ← List.isPrefixOf_iff_prefix]
      simp [h]

/-- A pattern does not stand in front of the place where a text is cut. -/
theorem not_standsAt_of_cut? (h : cut? pattern text = some (before, after)) {p : Nat}
    (hp : p < before.length) : ¬ StandsAt pattern text p := by
  induction text generalizing before p with
  | nil =>
    have hnil : before = [] := (List.append_eq_nil_iff.1
      (List.append_eq_nil_iff.1 (eq_of_cut? h).symm).1).1
    rw [hnil] at hp
    cases hp
  | cons c rest ih =>
    rw [cut?] at h
    split at h
    · obtain ⟨rfl, -⟩ := by simpa using h
      cases hp
    · next hne =>
      obtain ⟨⟨b, a⟩, hb, he⟩ := Option.map_eq_some_iff.1 h
      obtain ⟨rfl, rfl⟩ := by simpa using he
      cases p with
      | zero => exact fun hs => hne (List.isPrefixOf_iff_prefix.2 hs)
      | succ p => exact ih hb (Nat.lt_of_succ_lt_succ hp)

theorem firstCut_of_cut? (h : cut? pattern text = some (before, after)) :
    FirstCut pattern text before after where
  split := eq_of_cut? h
  leftmost :=
    { stands := ⟨after, by rw [eq_of_cut? h, List.append_assoc, List.drop_left]⟩
      least := fun _ => not_standsAt_of_cut? h }

/-- There is one first place at most. -/
theorem FirstCut.unique {before' after' : List Char} (h : FirstCut pattern text before after)
    (h' : FirstCut pattern text before' after') : before = before' ∧ after = after' := by
  have hsplit := h.split.symm.trans h'.split
  rw [List.append_assoc, List.append_assoc] at hsplit
  obtain ⟨hbefore, hrest⟩ := List.append_inj hsplit (h.leftmost.unique h'.leftmost)
  exact ⟨hbefore, List.append_cancel_left hrest⟩

theorem cut?_eq_some_iff :
    cut? pattern text = some (before, after) ↔ FirstCut pattern text before after := by
  refine ⟨firstCut_of_cut?, fun h => ?_⟩
  cases hcut : cut? pattern text with
  | none => exact absurd ⟨before, after, h.split.symm⟩ (cut?_eq_none_iff.1 hcut)
  | some cut =>
    obtain ⟨hbefore, hafter⟩ := h.unique (firstCut_of_cut? hcut)
    rw [hbefore, hafter]

/-- A pattern whose first character does not come again begins nowhere in a text in front of it. -/
theorem not_prefix_append (hc : c ∉ tail) (h : ¬ (c :: tail) <:+: before) (hb : before ≠ []) :
    ¬ (c :: tail) <+: before ++ (c :: tail ++ after) := by
  intro hp
  rcases List.prefix_or_prefix_of_prefix hp (List.prefix_append before _) with hin | ⟨t, ht⟩
  · exact h hin.isInfix
  · have htail : before ++ t <+: before ++ (c :: tail ++ after) := by rwa [ht]
    obtain ⟨u, hu⟩ := (List.prefix_append_right_inj _).1 htail
    obtain ⟨d, rest, rfl⟩ := List.exists_cons_of_ne_nil hb
    cases t with
    | nil => exact h ⟨[], [], by rw [← ht]; simp⟩
    | cons x t =>
      -- the pattern goes on behind `before`, and there with its own first character
      obtain rfl : x = c := (List.cons.inj hu).1
      have hmem : x ∈ rest ++ x :: t := by simp
      exact hc ((List.cons.inj ht).2 ▸ hmem)

theorem cut?_append (hc : c ∉ tail) (h : ¬ (c :: tail) <:+: before) :
    cut? (c :: tail) (before ++ (c :: tail ++ after)) = some (before, after) := by
  induction before with
  | nil =>
    have hp : (c :: tail).isPrefixOf (c :: tail ++ after) = true := by simp
    rw [List.nil_append, List.cons_append, cut?, ← List.cons_append, if_pos hp, List.drop_left]
  | cons d before ih =>
    have hp : ¬ (c :: tail) <+: d :: before ++ (c :: tail ++ after) :=
      not_prefix_append hc h (List.cons_ne_nil d before)
    rw [← List.isPrefixOf_iff_prefix] at hp
    rw [List.cons_append, cut?, ← List.cons_append, if_neg hp,
      ih fun hin => h (List.infix_cons hin)]
    rfl

end SearchPanel.Text
