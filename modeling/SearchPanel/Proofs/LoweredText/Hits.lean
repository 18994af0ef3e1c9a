import SearchPanel.Proofs.LoweredText.Place

/-!
# The occurrences that a scan from the left finds

The scan runs over the lowered characters beside their holders.

* `lastOwner?_eq_some_iff`: a needle that stands at the beginning, and who holds its last character.
* `exists_of_mem_hits`: every hit of a scan is an occurrence. What stands before the first
  occurrence changes nothing (`hits_append_of_none`), and at it the first hit begins
  (`hits_cons_of_some`).
* `keepDisjoint_hits_append`: the hits of a text that breaks off are the hits of the whole text that
  end before the break. A hit across the break is the last one that begins before it.
* `Marking w marks`: the spans `marks` are not empty, lie inside `w`, and each ends before the next
  begins. What `keepDisjoint` keeps of the hits is disjoint (`pairwise_keepDisjoint`).
-/

namespace SearchPanel

/-- Nonempty spans inside `w`, each ending before the next one begins. -/
structure Marking (w : Span) (marks : List Span) : Prop where
  nonempty : ∀ m ∈ marks, m.first < m.stop
  inside : ∀ m ∈ marks, w.first ≤ m.first ∧ m.stop ≤ w.stop
  ordered : marks.Pairwise fun a b => a.stop ≤ b.first

namespace LoweredText

variable {needle : List Char} {before after text : List (Char × Nat)} {s : Span} {c : Char}
  {free skip j k last stop : Nat}

/-! ## A needle at the beginning -/

theorem lastOwner?_eq_some_iff : lastOwner? needle text = some j ↔
    needle ≠ [] ∧ needle <+: text.map Prod.fst ∧
      ∃ c, text[needle.length - 1]? = some (c, j) := by
  fun_induction lastOwner? needle text with
  | case1 => simp
  | case2 => simp
  | case3 n k rest => simp
  | case4 n c k rest hne => simp [hne]
  | case5 n n' needle k rest ih =>
    rw [ih]
    simp
  | case6 n n' needle c k rest hne => simp [hne]

theorem isSome_lastOwner?_iff :
    (lastOwner? needle text).isSome = true ↔ needle ≠ [] ∧ needle <+: text.map Prod.fst := by
  constructor
  · intro h
    obtain ⟨j, hj⟩ := Option.isSome_iff_exists.1 h
    obtain ⟨hn, hp, -⟩ := lastOwner?_eq_some_iff.1 hj
    exact ⟨hn, hp⟩
  · rintro ⟨hn, hp⟩
    have hpos := List.length_pos_iff.2 hn
    have hle := hp.length_le
    rw [List.length_map] at hle
    have hget := List.getElem?_eq_getElem (show needle.length - 1 < text.length by omega)
    rw [lastOwner?_eq_some_iff.2 ⟨hn, hp, _, hget⟩]
    rfl

/-- A needle at the beginning stays there when text is added behind. -/
theorem lastOwner?_append (after : List (Char × Nat)) (h : lastOwner? needle text = some j) :
    lastOwner? needle (text ++ after) = some j := by
  obtain ⟨hn, hp, c, hc⟩ := lastOwner?_eq_some_iff.1 h
  obtain ⟨hlt, -⟩ := List.getElem?_eq_some_iff.1 hc
  refine lastOwner?_eq_some_iff.2 ⟨hn, ?_, c, ?_⟩
  · rw [List.map_append]
    exact hp.trans (List.prefix_append _ _)
  · rw [List.getElem?_append_left hlt, hc]

/-- A needle that needs the text behind is longer than the text before, and ends behind. -/
theorem length_lt_of_lastOwner?_append (h : lastOwner? needle (before ++ after) = some j)
    (hb : lastOwner? needle before = none) :
    before.length < needle.length ∧ ∃ c, (c, j) ∈ after := by
  obtain ⟨hn, hp, c, hc⟩ := lastOwner?_eq_some_iff.1 h
  have hlt : before.length < needle.length := by
    rcases Nat.lt_or_ge before.length needle.length with hlt | hge
    · exact hlt
    · have hi : needle.length - 1 < before.length := by
        have := List.length_pos_iff.2 hn
        omega
      rw [List.map_append] at hp
      rw [List.getElem?_append_left hi] at hc
      have hp' := List.prefix_of_prefix_length_le hp (List.prefix_append _ _) (by simpa using hge)
      rw [lastOwner?_eq_some_iff.2 ⟨hn, hp', c, hc⟩] at hb
      cases hb
  refine ⟨hlt, c, ?_⟩
  rw [List.getElem?_append_right (by omega)] at hc
  exact List.mem_of_getElem? hc

theorem lastOwner?_eq_none_of_length_lt (h : text.length < needle.length) :
    lastOwner? needle text = none := by
  rw [Option.eq_none_iff_forall_ne_some]
  intro j hj
  obtain ⟨-, hp, -⟩ := lastOwner?_eq_some_iff.1 hj
  have := hp.length_le
  rw [List.length_map] at this
  omega

/-! ## The scan -/

theorem hits_cons_of_some (h : lastOwner? needle ((c, k) :: text) = some last) :
    hits needle 0 ((c, k) :: text) = ⟨k, last + 1⟩ :: hits needle (needle.length - 1) text := by
  rw [hits, h]

theorem hits_cons_of_none (h : lastOwner? needle ((c, k) :: text) = none) :
    hits needle 0 ((c, k) :: text) = hits needle 0 text := by
  rw [hits, h]

/-- Every hit is an occurrence: the holders of its first and its last character. -/
theorem exists_of_mem_hits (h : s ∈ hits needle skip text) :
    ∃ before c rest last, text = before ++ (c, s.first) :: rest ∧
      lastOwner? needle ((c, s.first) :: rest) = some last ∧ s.stop = last + 1 := by
  induction text generalizing skip with
  | nil =>
    rw [hits] at h
    cases h
  | cons x text ih =>
    obtain ⟨d, k⟩ := x
    have later : ∀ {skip}, s ∈ hits needle skip text → ∃ before c rest last,
        (d, k) :: text = before ++ (c, s.first) :: rest ∧
          lastOwner? needle ((c, s.first) :: rest) = some last ∧ s.stop = last + 1 := by
      intro skip hs
      obtain ⟨before, c, rest, last, rfl, hl, he⟩ := ih hs
      exact ⟨(d, k) :: before, c, rest, last, rfl, hl, he⟩
    cases skip with
    | succ skip => exact later h
    | zero =>
      rw [hits] at h
      split at h
      · next last hl =>
        rcases List.mem_cons.1 h with rfl | h
        · exact ⟨[], d, text, last, rfl, hl, rfl⟩
        · exact later h
      · exact later h

/-- A hit ends with the holder of a character. -/
theorem exists_mem_stop (h : s ∈ hits needle skip text) : ∃ x ∈ text, s.stop = x.2 + 1 := by
  obtain ⟨before, c, rest, last, rfl, hl, he⟩ := exists_of_mem_hits h
  obtain ⟨-, -, d, hd⟩ := lastOwner?_eq_some_iff.1 hl
  exact ⟨(d, last), List.mem_append_right _ (List.mem_of_getElem? hd), he⟩

theorem exists_mem_first (h : s ∈ hits needle skip text) : ∃ x ∈ text, s.first = x.2 := by
  obtain ⟨before, c, rest, -, rfl, -, -⟩ := exists_of_mem_hits h
  exact ⟨(c, s.first), by simp, rfl⟩

/-- Where the holders never decrease a hit is not empty. -/
theorem first_lt_stop_of_mem_hits (hs : text.Pairwise (·.2 ≤ ·.2))
    (h : s ∈ hits needle skip text) : s.first < s.stop := by
  obtain ⟨before, c, rest, last, rfl, hl, he⟩ := exists_of_mem_hits h
  obtain ⟨-, -, d, hd⟩ := lastOwner?_eq_some_iff.1 hl
  have hrest := (List.pairwise_cons.1 (List.pairwise_append.1 hs).2.1).1
  rcases List.mem_cons.1 (List.mem_of_getElem? hd) with heq | hmem
  · cases heq
    omega
  · have := hrest _ hmem
    simp only at this
    omega

theorem hits_eq_nil_of_length_lt (h : text.length < needle.length) :
    hits needle skip text = [] := by
  induction text generalizing skip with
  | nil => rw [hits]
  | cons x text ih =>
    have ht : text.length < needle.length := by
      rw [List.length_cons] at h
      omega
    cases skip with
    | succ skip => exact ih ht
    | zero =>
      obtain ⟨c, k⟩ := x
      rw [hits_cons_of_none (lastOwner?_eq_none_of_length_lt h)]
      exact ih ht

/-- A scan skips what stands in front as far as the last hit reaches. -/
theorem hits_append_of_length_le (h : before.length ≤ skip) :
    hits needle skip (before ++ after) = hits needle (skip - before.length) after := by
  induction before generalizing skip with
  | nil => rfl
  | cons x before ih =>
    cases skip with
    | zero => cases h
    | succ skip =>
      rw [List.cons_append, hits, ih (by simpa using h), List.length_cons]
      congr 1
      omega

/-- Text in which no occurrence begins changes nothing when it stands in front. -/
theorem hits_append_of_none
    (h : ∀ p < before.length, lastOwner? needle ((before ++ after).drop p) = none) :
    hits needle 0 (before ++ after) = hits needle 0 after := by
  induction before with
  | nil => rfl
  | cons x before ih =>
    have h0 := h 0 (by simp)
    rw [List.cons_append, List.drop_zero] at h0
    obtain ⟨c, k⟩ := x
    rw [List.cons_append, hits_cons_of_none h0]
    exact ih fun p hp => h (p + 1) (by simpa using hp)

/-! ## Keeping disjoint spans -/

theorem keepDisjoint_sublist (free : Nat) (spans : List Span) :
    (keepDisjoint free spans).Sublist spans := by
  induction spans generalizing free with
  | nil => exact List.Sublist.refl _
  | cons s rest ih =>
    rw [keepDisjoint]
    split
    · exact (ih free).cons s
    · exact (ih s.stop).cons_cons s

/-- Nothing that is kept begins before `free`. -/
theorem le_first_of_mem_keepDisjoint {spans : List Span} (hn : ∀ s ∈ spans, s.first < s.stop)
    (h : s ∈ keepDisjoint free spans) : free ≤ s.first := by
  induction spans generalizing free with
  | nil => cases h
  | cons r rest ih =>
    have hr := hn r (by simp)
    have hrest : ∀ s ∈ rest, s.first < s.stop := fun s hs => hn s (by simp [hs])
    rw [keepDisjoint] at h
    split at h
    · exact ih hrest h
    · rcases List.mem_cons.1 h with rfl | h
      · omega
      · have := ih hrest h
        omega

theorem pairwise_keepDisjoint {spans : List Span} (hn : ∀ s ∈ spans, s.first < s.stop) :
    (keepDisjoint free spans).Pairwise fun a b => a.stop ≤ b.first := by
  induction spans generalizing free with
  | nil => exact List.Pairwise.nil
  | cons s rest ih =>
    have hrest : ∀ s ∈ rest, s.first < s.stop := fun s hs => hn s (by simp [hs])
    rw [keepDisjoint]
    split
    · exact ih hrest
    · exact List.pairwise_cons.2
        ⟨fun r hr => le_first_of_mem_keepDisjoint hrest hr, ih hrest⟩

/-- Spans that end behind `stop` are all filtered out. -/
private theorem filter_keepDisjoint_eq_nil {spans : List Span} (h : ∀ s ∈ spans, stop < s.stop) :
    (keepDisjoint free spans).filter (·.stop ≤ stop) = [] := by
  rw [List.filter_eq_nil_iff]
  intro s hm hle
  have := h s ((keepDisjoint_sublist free spans).subset hm)
  simp only [decide_eq_true_eq] at hle
  omega

/-- A text that breaks off: its hits are those of the whole text that end before the break. -/
theorem keepDisjoint_hits_append (hb : ∀ x ∈ before, x.2 < stop) (ha : ∀ x ∈ after, stop ≤ x.2) :
    keepDisjoint free (hits needle skip before) =
      (keepDisjoint free (hits needle skip (before ++ after))).filter (·.stop ≤ stop) := by
  have behind : ∀ skip, ∀ s ∈ hits needle skip after, stop < s.stop := by
    intro skip s hs
    obtain ⟨x, hx, he⟩ := exists_mem_stop hs
    have := ha x hx
    omega
  induction before generalizing skip free with
  | nil => rw [List.nil_append, filter_keepDisjoint_eq_nil (behind skip), hits, keepDisjoint]
  | cons x before ih =>
    obtain ⟨c, k⟩ := x
    have hb' : ∀ x ∈ before, x.2 < stop := fun x hx => hb x (by simp [hx])
    cases skip with
    | succ skip => exact ih hb'
    | zero =>
      rw [List.cons_append]
      cases hbl : lastOwner? needle ((c, k) :: before) with
      | some last =>
        obtain ⟨-, -, d, hd⟩ := lastOwner?_eq_some_iff.1 hbl
        have hlast : last < stop := hb (d, last) (List.mem_of_getElem? hd)
        have hl : lastOwner? needle ((c, k) :: (before ++ after)) = some last :=
          lastOwner?_append after hbl
        rw [hits_cons_of_some hbl, hits_cons_of_some hl, keepDisjoint, keepDisjoint]
        split
        · exact ih hb'
        · rw [List.filter_cons_of_pos (by simp only [decide_eq_true_eq]; omega), ih hb']
      | none =>
        rw [hits_cons_of_none hbl]
        cases hl : lastOwner? needle ((c, k) :: (before ++ after)) with
        | none =>
          rw [hits_cons_of_none hl]
          exact ih hb'
        | some last =>
          -- The needle reaches across the break: it is too long for what is left before it, and
          -- the scan of the whole text goes on behind it.
          obtain ⟨hlen, d, hd⟩ := length_lt_of_lastOwner?_append hl hbl
          rw [List.length_cons] at hlen
          have hlast : stop ≤ last := ha (d, last) hd
          rw [hits_cons_of_some hl, hits_eq_nil_of_length_lt (by omega),
            hits_append_of_length_le (by omega), filter_keepDisjoint_eq_nil, keepDisjoint]
          intro s hs
          rcases List.mem_cons.1 hs with rfl | hs
          · exact Nat.lt_succ_of_le hlast
          · exact behind _ s hs

end LoweredText

end SearchPanel
