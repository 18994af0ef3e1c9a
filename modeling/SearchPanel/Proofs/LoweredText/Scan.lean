import SearchPanel.Proofs.LoweredText.Table

/-!
# A scan by places in bytes

* `PositionTable.occurrences?`: the occurrences of a needle in a window, found by places in bytes.
  Each look-up that could miss is one here, each cut that could fall inside of a character and each
  difference that could be less than nothing.
* `mapM_spanAt?_byteMatches`: the places of the needle lead to the spans that a scan beside the
  holders finds, and so nothing ever misses (`occurrences?_ofChars`).
* `exists_covers`: every span found belongs to an occurrence inside the window. Where there is one
  something is found (`occurrences_eq_nil_iff`).
* `occurrences_least_covers`: the spans are not empty, lie in the window one behind the other, and
  each is the least that covers some occurrence.
-/

namespace SearchPanel

open Text

namespace PositionTable

/-- The source span of the `length` bytes from a place on. -/
def spanAt? (t : PositionTable) (place length : Nat) : Option Span := do
  guard (0 < place + length)
  let first ← t.charAt? place
  let last ← t.charAt? (place + length - 1)
  return ⟨first, last + 1⟩

/-- The non-overlapping occurrences of `needle` that lie wholly inside the source characters
`start ≤ k < stop`; `none` if a look-up misses. -/
def occurrences? (t : PositionTable) (needle : List Char) (start stop : Nat) :
    Option (List Span) := do
  guard (0 < t.starts.length)
  let stop := min stop (t.starts.length - 1)
  if needle.isEmpty || stop ≤ start then return []
  let low ← t.starts[start]?
  let high ← t.starts[stop]?
  let window ← byteSlice? t.lowered low high
  let spans ← (byteMatches needle 0 0 window).mapM fun place =>
    t.spanAt? (low + place) (byteLength needle)
  return LoweredText.keepDisjoint 0 spans

end PositionTable

variable {text needle : List Char} {before window after : List (Char × Nat)} {s r : Span}
  {a b k l n o skip : Nat}

/-! ## Spans of places -/

/-- The places of an occurrence lead to the span that covers it. -/
theorem spanAt?_of_covers (hn : needle ≠ []) (hs : StandsAt needle (lowerChars text) o)
    (hc : (LoweredText.ofChars text).Covers s o needle.length) :
    (PositionTable.ofChars text).spanAt? (byteLength ((lowerChars text).take o))
      (byteLength needle) = some s := by
  obtain ⟨hfirst, k, hlast, hstop⟩ := hc
  have hpos := List.length_pos_iff.2 hn
  have hle := hs.add_length_le hn
  have hneedle : ((lowerChars text).drop o).take needle.length = needle :=
    (List.prefix_iff_eq_take.1 hs).symm
  have hend : byteLength ((lowerChars text).take (o + needle.length)) =
      byteLength ((lowerChars text).take o) + byteLength needle := by
    rw [List.take_add, byteLength_append, hneedle]
  have hlt := byteLength_take_lt (show o + needle.length - 1 < o + needle.length by omega) hle
  have hcharFirst := charAt?_of_holds hfirst (Nat.le_refl _)
    (byteLength_take_lt (Nat.lt_succ_self o) (by omega))
  have hcharLast : (PositionTable.ofChars text).charAt?
      (byteLength ((lowerChars text).take o) + byteLength needle - 1) = some k :=
    charAt?_of_holds hlast (by omega) (by rw [Nat.sub_add_cancel (by omega)]; omega)
  have hguard : 0 < byteLength ((lowerChars text).take o) + byteLength needle := by omega
  simp only [PositionTable.spanAt?, (Option.guard_eq_some' ()).2 hguard, hcharFirst, hcharLast,
    ← hstop, Option.bind_eq_bind, Option.bind_some, Option.pure_def]

/-- The places of the needle in a stretch lead to the spans that a scan of it finds. They are
counted from place `low` of the whole text on. -/
theorem mapM_spanAt?_byteMatches {low place : Nat} (hn : needle ≠ [])
    (h : LoweredText.owned 0 (pieces text) = before ++ window ++ after)
    (hlow : low + place = byteLength (before.map Prod.fst)) :
    (byteMatches needle skip place (window.map Prod.fst)).mapM (fun place =>
      (PositionTable.ofChars text).spanAt? (low + place) (byteLength needle)) =
        some (LoweredText.hits needle skip window) := by
  induction window generalizing before skip place with
  | nil => rfl
  | cons x window ih =>
    obtain ⟨c, k⟩ := x
    have hnext : LoweredText.owned 0 (pieces text) = (before ++ [(c, k)]) ++ window ++ after := by
      rw [h]
      simp
    have hlow' : low + (place + c.utf8Size) = byteLength ((before ++ [(c, k)]).map Prod.fst) := by
      simp
      omega
    cases skip with
    | succ skip => exact ih hnext hlow'
    | zero =>
      rw [List.map_cons, byteMatches]
      cases hl : LoweredText.lastOwner? needle ((c, k) :: window) with
      | none =>
        have hp : ¬ needle <+: c :: window.map Prod.fst := fun hp => by
          have hsome : (LoweredText.lastOwner? needle ((c, k) :: window)).isSome = true :=
            LoweredText.isSome_lastOwner?_iff.2 ⟨hn, hp⟩
          rw [hl] at hsome
          cases hsome
        rw [if_neg hp, LoweredText.hits_cons_of_none hl]
        exact ih hnext hlow'
      | some last =>
        obtain ⟨-, hp, -⟩ := LoweredText.lastOwner?_eq_some_iff.1 hl
        rw [List.map_cons] at hp
        -- The needle stands at this place of the whole text as well.
        obtain ⟨hstands, hcovers⟩ :=
          LoweredText.covers_of_lastOwner? (t := LoweredText.ofChars text) h hl
        have hchars : (LoweredText.owned 0 (pieces text)).map Prod.fst = lowerChars text :=
          LoweredText.map_fst_owned 0 (pieces text)
        have htake : before.map Prod.fst = (lowerChars text).take before.length := by
          rw [← hchars, h, ← List.map_take, List.append_assoc, List.take_left]
        have hspan := spanAt?_of_covers hn hstands hcovers
        rw [← htake, ← hlow] at hspan
        rw [if_pos hp, LoweredText.hits_cons_of_some hl, List.mapM_cons, hspan, ih hnext hlow']
        rfl

/-! ## A scan never misses -/

/-- The empty needle occurs nowhere, and nothing occurs in an empty window. -/
theorem occurrences_eq_nil {t : LoweredText} (h : needle = [] ∨ min b t.charCount ≤ a) :
    t.occurrences needle a b = [] := by
  by_cases hn : needle = []
  · subst hn
    rfl
  · have hab := h.resolve_left hn
    rw [LoweredText.charCount] at hab
    have hwindow : (t.pieces.drop a).take (b - a) = [] := by
      refine List.eq_nil_of_length_eq_zero ?_
      rw [List.length_take, List.length_drop]
      omega
    rw [LoweredText.occurrences_of_ne_nil hn, hwindow]
    rfl

/-- By places the same occurrences are found as by the holders. -/
theorem occurrences?_ofChars (text needle : List Char) (a b : Nat) :
    (PositionTable.ofChars text).occurrences? needle a b =
      some ((LoweredText.ofChars text).occurrences needle a b) := by
  have hlen : (PositionTable.ofChars text).starts.length = text.length + 1 :=
    length_startsFrom 0 text
  have hcount := LoweredText.charCount_ofChars text
  by_cases hempty : needle = [] ∨ min b text.length ≤ a
  · rw [occurrences_eq_nil (by rwa [hcount])]
    have hif : (needle.isEmpty || decide (min b text.length ≤ a)) = true := by
      rwa [Bool.or_eq_true, List.isEmpty_iff, decide_eq_true_iff]
    simp only [PositionTable.occurrences?, hlen, (Option.guard_eq_some' ()).2 text.length.succ_pos,
      Nat.add_sub_cancel, hif, if_true, Option.bind_eq_bind, Option.bind_some, Option.pure_def]
  · obtain ⟨hn, hab⟩ := not_or.1 hempty
    have hif : (needle.isEmpty || decide (min b text.length ≤ a)) = false := by
      rwa [Bool.eq_false_iff, Ne, Bool.or_eq_true, List.isEmpty_iff, decide_eq_true_iff]
    -- The window, and the lowered text before and behind it.
    have hsplit := LoweredText.owned_split (t := LoweredText.ofChars text) (k := a) (by omega)
    rw [LoweredText.owned_take_drop a (b - a), ← List.append_assoc] at hsplit
    have hlow := getElem?_starts_eq_flatten text (k := a) (by omega)
    have hhigh := getElem?_starts_eq_flatten text (k := min b text.length) (by omega)
    have hwindow : ((pieces text).drop a).take (min b text.length - a) =
        ((pieces text).drop a).take (b - a) := by
      rw [List.take_eq_take_iff, List.length_drop, length_pieces]
      omega
    have hslice : byteSlice? (lowerChars text) (byteLength ((pieces text).take a).flatten)
        (byteLength ((pieces text).take (min b text.length)).flatten) =
          some (((pieces text).drop a).take (b - a)).flatten := by
      have h := byteSlice?_flatten (pieces text) a (min b text.length - a)
      rwa [Nat.add_sub_cancel' (by omega), hwindow] at h
    have hspans : (byteMatches needle 0 0 ((LoweredText.owned a
          (((pieces text).drop a).take (b - a))).map Prod.fst)).mapM
        (fun place => (PositionTable.ofChars text).spanAt?
          (byteLength ((pieces text).take a).flatten + place) (byteLength needle)) =
        some (LoweredText.hits needle 0
          (LoweredText.owned a (((pieces text).drop a).take (b - a)))) :=
      mapM_spanAt?_byteMatches hn hsplit (congrArg byteLength (LoweredText.map_fst_owned 0 _).symm)
    rw [LoweredText.map_fst_owned] at hspans
    rw [LoweredText.occurrences_of_ne_nil hn]
    simp only [PositionTable.occurrences?, hlen, (Option.guard_eq_some' ()).2 text.length.succ_pos,
      Nat.add_sub_cancel, hif, Bool.false_eq_true, if_false, hlow, hhigh, lowered_ofChars,
      Option.pure_def, Option.bind_eq_bind, Option.bind_some, hslice, hspans]
    rfl

/-! ## What the spans cover -/

/-- The lowered text up to the end of a window. -/
theorem startOf_add_length_window (t : LoweredText) (h : a ≤ min b t.charCount) :
    t.startOf a + (LoweredText.owned a ((t.pieces.drop a).take (b - a))).length =
      t.startOf (min b t.charCount) := by
  have htake : t.pieces.take (min b t.charCount) =
      t.pieces.take a ++ (t.pieces.drop a).take (b - a) := by
    rw [← List.take_add, List.take_eq_take_iff, LoweredText.charCount]
    rw [LoweredText.charCount] at h
    omega
  rw [LoweredText.length_owned, LoweredText.startOf, LoweredText.startOf, htake,
    List.flatten_append, List.length_append]

/-- Each span found in a window covers an occurrence inside of it. -/
theorem exists_covers {t : LoweredText} (h : s ∈ t.occurrences needle a b) :
    ∃ o, StandsAt needle t.chars o ∧ t.startOf a ≤ o ∧
      o + needle.length ≤ t.startOf (min b t.charCount) ∧ t.Covers s o needle.length := by
  have hempty : ¬ (needle = [] ∨ min b t.charCount ≤ a) := fun hempty => by
    rw [occurrences_eq_nil hempty] at h
    cases h
  obtain ⟨hn, hab⟩ := not_or.1 hempty
  rw [LoweredText.occurrences_of_ne_nil hn] at h
  obtain ⟨before, c, rest, last, hwindow, hl, hstop⟩ :=
    LoweredText.exists_of_mem_hits ((LoweredText.keepDisjoint_sublist 0 _).subset h)
  have hsplit := LoweredText.owned_split (t := t) (k := a) (by omega)
  rw [LoweredText.owned_take_drop a (b - a), hwindow, ← List.append_assoc, ← List.append_assoc]
    at hsplit
  have hlen := startOf_add_length_window t (a := a) (b := b) (by omega)
  rw [hwindow, List.length_append] at hlen
  obtain ⟨hstands, hcovers⟩ := LoweredText.covers_of_lastOwner? hsplit hl
  rw [← hstop] at hcovers
  have hbegin : (LoweredText.owned 0 (t.pieces.take a)).length = t.startOf a :=
    LoweredText.length_owned 0 _
  obtain ⟨-, hprefix, -⟩ := LoweredText.lastOwner?_eq_some_iff.1 hl
  have hfits := hprefix.length_le
  rw [List.length_map] at hfits
  refine ⟨_, hstands, ?_, ?_, hcovers⟩
  · rw [List.length_append, hbegin]
    exact Nat.le_add_right _ _
  · rw [List.length_append, hbegin, ← hlen, Nat.add_assoc]
    omega

theorem hits_ne_nil {text : List (Char × Nat)}
    (h : (LoweredText.lastOwner? needle (text.drop o)).isSome = true) :
    LoweredText.hits needle 0 text ≠ [] := by
  induction text generalizing o with
  | nil =>
    rw [List.drop_nil, LoweredText.isSome_lastOwner?_iff] at h
    exact absurd (List.prefix_nil.1 h.2) h.1
  | cons x text ih =>
    obtain ⟨c, k⟩ := x
    cases hl : LoweredText.lastOwner? needle ((c, k) :: text) with
    | some last =>
      rw [LoweredText.hits_cons_of_some hl]
      exact List.cons_ne_nil _ _
    | none =>
      rw [LoweredText.hits_cons_of_none hl]
      cases o with
      | zero =>
        rw [List.drop_zero, hl] at h
        cases h
      | succ o => exact ih h

/-- A window with something inside is one. -/
theorem le_of_startOf_le {t : LoweredText} (hn : needle ≠ []) (hfrom : t.startOf a ≤ o)
    (hto : o + needle.length ≤ t.startOf b) : a ≤ b := by
  have hpos := List.length_pos_iff.2 hn
  refine Nat.le_of_not_lt fun hlt => ?_
  have := LoweredText.startOf_mono (t := t) (Nat.le_of_lt hlt)
  omega

/-- An occurrence inside the window stands at the same place of it, for the window is long enough
behind. -/
theorem isSome_lastOwner?_window {t : LoweredText} (hn : needle ≠ [])
    (hs : StandsAt needle t.chars o) (hfrom : t.startOf a ≤ o)
    (hto : o + needle.length ≤ t.startOf (min b t.charCount)) :
    (LoweredText.lastOwner? needle ((LoweredText.owned a ((t.pieces.drop a).take (b - a))).drop
      (o - t.startOf a))).isSome = true := by
  have hlen := startOf_add_length_window t (le_of_startOf_le hn hfrom hto)
  generalize hwindow : LoweredText.owned a ((t.pieces.drop a).take (b - a)) = window at hlen ⊢
  have hchars : t.chars.drop (t.startOf a) =
      window.map Prod.fst ++ ((t.pieces.drop a).drop (b - a)).flatten := by
    rw [← t.flatten_drop_pieces, ← hwindow, LoweredText.map_fst_owned, ← List.flatten_append,
      List.take_append_drop]
  refine LoweredText.isSome_lastOwner?_iff.2 ⟨hn, ?_⟩
  rw [StandsAt, ← Nat.add_sub_cancel' hfrom, ← List.drop_drop, hchars,
    List.drop_append_of_le_length (by rw [List.length_map]; omega), ← List.map_drop] at hs
  refine List.prefix_of_prefix_length_le hs (List.prefix_append _ _) ?_
  rw [List.length_map, List.length_drop]
  omega

/-- Where an occurrence lies inside the window, something is found. -/
theorem occurrences_ne_nil {t : LoweredText} (hn : needle ≠ []) (hs : StandsAt needle t.chars o)
    (hfrom : t.startOf a ≤ o) (hto : o + needle.length ≤ t.startOf (min b t.charCount)) :
    t.occurrences needle a b ≠ [] := by
  have hhits := hits_ne_nil (isSome_lastOwner?_window hn hs hfrom hto)
  rw [LoweredText.occurrences_of_ne_nil hn]
  generalize LoweredText.hits needle 0 _ = spans at hhits
  cases spans with
  | nil => exact absurd rfl hhits
  | cons r spans =>
    rw [LoweredText.keepDisjoint, if_neg (Nat.not_lt_zero _)]
    exact List.cons_ne_nil _ _

/-- Nothing is found exactly where no occurrence lies inside the window. -/
theorem occurrences_eq_nil_iff {t : LoweredText} :
    t.occurrences needle a b = [] ↔ needle = [] ∨ ¬ ∃ o, StandsAt needle t.chars o ∧
      t.startOf a ≤ o ∧ o + needle.length ≤ t.startOf (min b t.charCount) := by
  constructor
  · intro h
    by_cases hn : needle = []
    · exact .inl hn
    · refine .inr ?_
      rintro ⟨o, hs, hfrom, hto⟩
      exact occurrences_ne_nil hn hs hfrom hto h
  · rintro (hn | hnone)
    · exact occurrences_eq_nil (.inl hn)
    · refine List.eq_nil_iff_forall_not_mem.2 fun s hs => ?_
      obtain ⟨o, hstands, hfrom, hto, -⟩ := exists_covers hs
      exact hnone ⟨o, hstands, hfrom, hto⟩

/-! ## Main result -/

/-- **What a scan of a window finds.** For every text, needle and window, however its ends lie, no
look-up misses, and the spans found are the ones found beside the holders. They are not empty, lie
in the window as far as it reaches into the text, begin one behind the other and do not overlap.
Each of them is the least span whose forms hold some occurrence of the needle that lies wholly
inside the forms of the window, and where there is such an occurrence one is found. The empty needle
is not found, and in an empty window nothing is. -/
theorem occurrences_least_covers (text needle : List Char) (a b : Nat) :
    let t := LoweredText.ofChars text
    ∃ spans, (PositionTable.ofChars text).occurrences? needle a b = some spans ∧
      t.occurrences needle a b = spans ∧
      (∀ s ∈ spans, s.first < s.stop ∧ a ≤ s.first ∧ s.stop ≤ min b text.length) ∧
      spans.Pairwise (fun s r => s.first < r.first ∧ s.stop ≤ r.first) ∧
      (∀ s ∈ spans, ∃ o, StandsAt needle (lowerChars text) o ∧
        (t.startOf a ≤ o ∧ o + needle.length ≤ t.startOf (min b text.length)) ∧
        (t.startOf s.first ≤ o ∧ o + needle.length ≤ t.startOf s.stop) ∧
        ∀ r : Span, t.startOf r.first ≤ o → o + needle.length ≤ t.startOf r.stop →
          r.first ≤ s.first ∧ s.stop ≤ r.stop) ∧
      (spans = [] ↔ needle = [] ∨ ¬ ∃ o, StandsAt needle (lowerChars text) o ∧
        t.startOf a ≤ o ∧ o + needle.length ≤ t.startOf (min b text.length)) ∧
      (needle = [] ∨ min b text.length ≤ a → spans = []) := by
  intro t
  have hcount : text.length = t.charCount := (LoweredText.charCount_ofChars text).symm
  rw [hcount]
  obtain ⟨hnonempty, hinside, hordered⟩ := LoweredText.marking_occurrences t needle a b
  refine ⟨_, occurrences?_ofChars text needle a b, rfl,
    fun s hs => ⟨hnonempty s hs, hinside s hs⟩, ?_, fun s hs => ?_, occurrences_eq_nil_iff,
    occurrences_eq_nil⟩
  · refine hordered.imp_of_mem fun {s r} hs _ hsr => ⟨?_, hsr⟩
    exact Nat.lt_of_lt_of_le (hnonempty s hs) hsr
  · obtain ⟨o, hstands, hfrom, hto, hspan⟩ := exists_covers hs
    have hpos : 0 < needle.length := List.length_pos_iff.2 fun hn => by
      rw [occurrences_eq_nil (.inl hn)] at hs
      cases hs
    exact ⟨o, hstands, ⟨hfrom, hto⟩, hspan.encloses hpos, fun r => hspan.least hpos⟩

/-- The needle begins and ends inside of the forms of capitals, and the window ends far behind the
text. -/
theorem occurrences_least_covers_dotted :
    let text := ['a', 'İ', 'a', 'İ', 'a']
    let needle := ['\u0307', 'a', 'i']
    (PositionTable.ofChars text).occurrences? needle 1 9 = some [⟨1, 4⟩] ∧
      StandsAt needle (lowerChars text) 2 ∧
      ∀ r : Span, (LoweredText.ofChars text).startOf r.first ≤ 2 →
        5 ≤ (LoweredText.ofChars text).startOf r.stop → r.first ≤ 1 ∧ 4 ≤ r.stop := by
  intro text needle
  obtain ⟨spans, hscan, hsame, -, -, hleast, -⟩ := occurrences_least_covers text needle 1 9
  have hspans : (LoweredText.ofChars text).occurrences needle 1 9 = [⟨1, 4⟩] := by decide
  obtain rfl := hsame.symm.trans hspans
  obtain ⟨o, hstands, hinside, -, hmin⟩ := hleast ⟨1, 4⟩ (List.mem_singleton.2 rfl)
  -- The needle stands at one place only.
  have hplace : ∀ p < 5, StandsAt needle (lowerChars text) p → p = 2 := by decide
  have hlen : (LoweredText.ofChars text).startOf (min 9 text.length) = 7 := by decide
  have hneedle : needle.length = 3 := rfl
  obtain rfl := hplace o (by omega) hstands
  exact ⟨hscan, hstands, hmin⟩

end SearchPanel
