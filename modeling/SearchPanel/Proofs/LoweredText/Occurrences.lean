import SearchPanel.Proofs.LoweredText.Hits

/-!
# Occurrences of a needle in a lowered text

* `FirstHit.find_eq`: a needle is found at the source character that holds the start of its leftmost
  occurrence. It has one wherever it occurs (`exists_firstHit`), and elsewhere it is not found
  (`find_eq_none`).
* `marking_occurrences`: the spans found in a window are not empty, lie inside it, and each ends
  before the next begins.
* `occurrences_eq_cons`: the first span found in the whole text is the one of the leftmost
  occurrence.
* `occurrences_eq_filter`: a window that begins at or before the leftmost occurrence shows the spans
  of the whole text that end inside of it. Beginning late and stopping early changes neither what
  is found nor what is left out.
-/

namespace SearchPanel.LoweredText

variable {t : LoweredText} {needle : List Char} {before text : List (Char × Nat)} {s : Span}
  {c : Char} {a b i j k o p : Nat}

/-! ## Occurrences among the lowered characters beside their holders -/

/-- A needle at place `p`, and the holder of its last character. -/
theorem lastOwner?_drop_owned : lastOwner? needle ((owned 0 t.pieces).drop p) = some j ↔
    needle ≠ [] ∧ Text.StandsAt needle t.chars p ∧ t.Holds j (p + needle.length - 1) := by
  rw [lastOwner?_eq_some_iff, List.map_drop, map_fst_owned, List.getElem?_drop]
  constructor
  · rintro ⟨hn, hp, c, hc⟩
    have := List.length_pos_iff.2 hn
    rw [← Nat.add_sub_assoc this] at hc
    exact ⟨hn, hp, holds_of_owned hc⟩
  · rintro ⟨hn, hp, hj⟩
    have := List.length_pos_iff.2 hn
    have hle := hp.add_length_le hn
    obtain ⟨c, k, hget, hk⟩ := exists_owned (t := t) (o := p + needle.length - 1) (by omega)
    rw [← Nat.add_sub_assoc this]
    exact ⟨hn, hp, c, by rw [hget, hk.unique hj]⟩

theorem lastOwner?_drop_owned_eq_none (h : ¬ Text.StandsAt needle t.chars p) :
    lastOwner? needle ((owned 0 t.pieces).drop p) = none := by
  rw [Option.eq_none_iff_forall_ne_some]
  intro j hj
  exact h (lastOwner?_drop_owned.1 hj).2.1

/-- A needle in a stretch of the lowered text stands in the whole text too, and the holders of its
ends span it. -/
theorem covers_of_lastOwner? {rest after : List (Char × Nat)}
    (h : owned 0 t.pieces = before ++ (c, k) :: rest ++ after)
    (hl : lastOwner? needle ((c, k) :: rest) = some j) :
    Text.StandsAt needle t.chars before.length ∧
      t.Covers ⟨k, j + 1⟩ before.length needle.length := by
  have hdrop : (owned 0 t.pieces).drop before.length = (c, k) :: rest ++ after := by
    rw [h, List.append_assoc, List.drop_left]
  have hwhole := lastOwner?_append after hl
  rw [← hdrop] at hwhole
  obtain ⟨-, hstands, hlast⟩ := lastOwner?_drop_owned.1 hwhole
  have hfirst : (owned 0 t.pieces)[before.length]? = some (c, k) := by
    rw [h, List.append_assoc, List.getElem?_append_right (Nat.le_refl _), Nat.sub_self]
    rfl
  exact ⟨hstands, holds_of_owned hfirst, j, hlast, rfl⟩

/-- The leftmost occurrence cuts the lowered text in two. -/
theorem FirstHit.exists_split (h : t.FirstHit needle s) (hn : needle ≠ []) :
    ∃ before c rest last, owned 0 t.pieces = before ++ (c, s.first) :: rest ∧
      (∀ p < before.length, lastOwner? needle ((owned 0 t.pieces).drop p) = none) ∧
      lastOwner? needle ((c, s.first) :: rest) = some last ∧ s.stop = last + 1 := by
  obtain ⟨o, hl, hc⟩ := h
  obtain ⟨last, hlast, he⟩ := hc.last
  have hpos := List.length_pos_iff.2 hn
  have hle := hl.stands.add_length_le hn
  obtain ⟨c, k, hget, hk⟩ := exists_owned (t := t) (o := o) (by omega)
  obtain rfl := hk.unique hc.first
  obtain ⟨hlt, hcons⟩ := List.getElem?_eq_some_iff.1 hget
  have hdrop := List.drop_eq_getElem_cons hlt
  rw [hcons] at hdrop
  refine ⟨(owned 0 t.pieces).take o, c, (owned 0 t.pieces).drop (o + 1), last, ?_, ?_, ?_, he⟩
  · rw [← hdrop, List.take_append_drop]
  · intro p hp
    rw [List.length_take] at hp
    exact lastOwner?_drop_owned_eq_none (hl.least p (by omega))
  · rw [← hdrop]
    exact lastOwner?_drop_owned.2 ⟨hn, hl.stands, hlast⟩

/-- A needle that occurs has a leftmost occurrence, and it has a source span. -/
theorem exists_firstHit (hn : needle ≠ []) (h : needle <:+: t.chars) :
    ∃ s, t.FirstHit needle s := by
  obtain ⟨o, ho⟩ := Text.exists_leftmost h
  have hpos := List.length_pos_iff.2 hn
  have hle := ho.stands.add_length_le hn
  obtain ⟨-, k, -, hk⟩ := exists_owned (t := t) (o := o) (by omega)
  obtain ⟨-, l, -, hl⟩ := exists_owned (t := t) (o := o + needle.length - 1) (by omega)
  exact ⟨⟨k, l + 1⟩, o, ho, hk, l, hl, rfl⟩

theorem FirstHit.occurs (h : t.FirstHit needle s) : needle <:+: t.chars := by
  obtain ⟨o, ho, -⟩ := h
  exact Text.infix_iff_exists_standsAt.2 ⟨o, ho.stands⟩

theorem FirstHit.unique {r : Span} (hs : t.FirstHit needle s) (hr : t.FirstHit needle r) :
    s = r := by
  obtain ⟨o, ho, hcs⟩ := hs
  obtain ⟨p, hp, hcr⟩ := hr
  obtain rfl := ho.unique hp
  obtain ⟨k, hk, hks⟩ := hcs.last
  obtain ⟨l, hl, hlr⟩ := hcr.last
  have h₁ := hcs.first.unique hcr.first
  have h₂ := hk.unique hl
  cases s
  cases r
  simp_all

/-! ## Finding the leftmost occurrence -/

theorem firstOwner?_append_of_none
    (h : ∀ p < before.length, lastOwner? needle ((before ++ text).drop p) = none) :
    firstOwner? needle (before ++ text) = firstOwner? needle text := by
  induction before with
  | nil => rfl
  | cons x before ih =>
    obtain ⟨c, k⟩ := x
    have h0 : lastOwner? needle ((c, k) :: (before ++ text)) = none := h 0 (by simp)
    rw [List.cons_append, firstOwner?, h0]
    exact ih fun p hp => h (p + 1) (by simpa using hp)

theorem firstOwner?_eq_none (h : ∀ p, lastOwner? needle (text.drop p) = none) :
    firstOwner? needle text = none := by
  induction text with
  | nil => rfl
  | cons x text ih =>
    obtain ⟨c, k⟩ := x
    have h0 : lastOwner? needle ((c, k) :: text) = none := h 0
    rw [firstOwner?, h0]
    exact ih fun p => h (p + 1)

theorem FirstHit.find_eq (h : t.FirstHit needle s) (hn : needle ≠ []) :
    t.find needle = some s.first := by
  obtain ⟨before, c, rest, last, heq, hnone, hl, -⟩ := h.exists_split hn
  rw [heq] at hnone
  rw [find, heq, firstOwner?_append_of_none hnone, firstOwner?, hl]
  rfl

theorem find_nil (t : LoweredText) : t.find [] = none :=
  firstOwner?_eq_none fun _ => by rw [lastOwner?]

theorem find_eq_none (h : ¬ needle <:+: t.chars) : t.find needle = none := by
  apply firstOwner?_eq_none
  intro p
  exact lastOwner?_drop_owned_eq_none fun hp => h (Text.infix_iff_exists_standsAt.2 ⟨p, hp⟩)

/-! ## Spans inside a window -/

theorem occurrences_of_ne_nil (hn : needle ≠ []) (t : LoweredText) (a b : Nat) :
    t.occurrences needle a b =
      keepDisjoint 0 (hits needle 0 (owned a ((t.pieces.drop a).take (b - a)))) := by
  rw [occurrences, if_neg (by simpa using hn)]

theorem marking_occurrences (t : LoweredText) (needle : List Char) (a b : Nat) :
    Marking ⟨a, min b t.charCount⟩ (t.occurrences needle a b) := by
  by_cases hn : needle = []
  · subst hn
    exact ⟨fun _ h => (by cases h), fun _ h => (by cases h), List.Pairwise.nil⟩
  rw [occurrences_of_ne_nil hn]
  have hne : ∀ s ∈ hits needle 0 (owned a ((t.pieces.drop a).take (b - a))), s.first < s.stop :=
    fun s hs => first_lt_stop_of_mem_hits (pairwise_owned _ _) hs
  have hsub := (keepDisjoint_sublist 0
    (hits needle 0 (owned a ((t.pieces.drop a).take (b - a))))).subset
  refine ⟨fun s hs => hne s (hsub hs), fun s hs => ?_, pairwise_keepDisjoint hne⟩
  obtain ⟨x, hx, hfirst⟩ := exists_mem_first (hsub hs)
  obtain ⟨y, hy, hstop⟩ := exists_mem_stop (hsub hs)
  have hx' := mem_owned hx
  have hy' := mem_owned hy
  rw [List.length_take, List.length_drop] at hy'
  rw [charCount]
  constructor <;> simp only <;> omega

/-- The whole text shows the leftmost occurrence first. -/
theorem occurrences_eq_cons (h : t.FirstHit needle s) (hn : needle ≠ []) :
    ∃ rest, t.occurrences needle 0 t.charCount = s :: rest := by
  obtain ⟨before, c, rest, last, heq, hnone, hl, he⟩ := h.exists_split hn
  rw [heq] at hnone
  rw [occurrences_of_ne_nil hn, List.drop_zero, Nat.sub_zero, charCount, List.take_length, heq,
    hits_append_of_none hnone, hits_cons_of_some hl, keepDisjoint, if_neg (Nat.not_lt_zero _), ← he]
  exact ⟨_, rfl⟩

/-- A window that begins at or before the leftmost occurrence shows the spans of the whole text
that end inside of it. -/
theorem occurrences_eq_filter (h : t.FirstHit needle s) (hn : needle ≠ []) (ha : a ≤ s.first)
    (hb : b ≤ t.charCount) : t.occurrences needle a b =
      (t.occurrences needle 0 t.charCount).filter (·.stop ≤ b) := by
  obtain ⟨o, ho, hc⟩ := h
  have han : a ≤ t.charCount := Nat.le_trans ha (Nat.le_of_lt hc.first.lt_charCount)
  have hwhole : t.occurrences needle 0 t.charCount =
      keepDisjoint 0 (hits needle 0 (owned a (t.pieces.drop a))) := by
    rw [occurrences_of_ne_nil hn, List.drop_zero, Nat.sub_zero, charCount, List.take_length,
      owned_split han, hits_append_of_none]
    -- No occurrence begins before source character `a`.
    intro p hp
    rw [← owned_split han]
    refine lastOwner?_drop_owned_eq_none (ho.least p ?_)
    rw [length_owned] at hp
    have hs := startOf_mono (t := t) ha
    have := hc.first.1
    rw [startOf] at hs
    omega
  have hlen : (t.pieces.drop a).length = t.charCount - a := List.length_drop
  rw [hwhole, occurrences_of_ne_nil hn, owned_take_drop a (b - a) (t.pieces.drop a)]
  apply keepDisjoint_hits_append
  · intro x hx
    have := mem_owned hx
    rw [List.length_take] at this
    omega
  · intro x hx
    have := (mem_owned hx).1
    rw [List.length_take] at this
    omega

end SearchPanel.LoweredText
