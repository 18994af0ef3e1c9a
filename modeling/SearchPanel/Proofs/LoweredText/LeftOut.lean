import SearchPanel.Proofs.LoweredText.Scan
import SearchPanel.Proofs.Text.Lowered

/-!
# Occurrences that a scan leaves out

An occurrence that overlaps the one found before is not looked for. One that begins inside of the
last character of a span kept is left out, and what overlaps it is not looked for either.

* `kept_or_leftOut`: each occurrence begins inside of a span that is kept, or it overlaps one that
  is left out.
* `kept_or_leftOut_window`: the same of a window. The span kept and the occurrence that is left out
  have a source character in common, which holds the end of the one and the beginning of the other.
* `dotted_of_holds`: only a dotted capital holds two lowered characters.
-/

namespace SearchPanel

open Text

namespace LoweredText

/-- A scan that has kept the spans `kept`, the ones before up to `free`, leaves out the occurrence
at place `h`: the span kept last reaches behind the character that holds its beginning, although
the occurrences themselves do not overlap. -/
def LeftOut (needle : List Char) (kept : List Span) (free : Nat) (text : List (Char × Nat))
    (h : Nat) : Prop :=
  (lastOwner? needle (text.drop h)).isSome = true ∧ ∃ c k, text[h]? = some (c, k) ∧
    (k < free ∨ ∃ r ∈ kept, k < r.stop ∧ ∃ g last, g + needle.length ≤ h ∧
      lastOwner? needle (text.drop g) = some last ∧ r.stop = last + 1)

/-- The occurrence at place `o` lies wholly inside the forms of a window. -/
structure StandsWithin (t : LoweredText) (needle : List Char) (a b o : Nat) : Prop where
  stands : StandsAt needle t.chars o
  begins : t.startOf a ≤ o
  ends : o + needle.length ≤ t.startOf (min b t.charCount)

section Scan

variable {needle : List Char} {kept : List Span} {text : List (Char × Nat)} {x y : Char × Nat}
  {s : Span} {c : Char} {free skip last h k o i j : Nat}

/-! ## The scan beside the holders -/

theorem LeftOut.cons (ho : LeftOut needle kept free text h) :
    LeftOut needle kept free (x :: text) (h + 1) := by
  obtain ⟨hsome, c, k, hc, hk⟩ := ho
  refine ⟨hsome, c, k, hc, ?_⟩
  rcases hk with hk | ⟨r, hr, hk, g, last, hg, hl, hstop⟩
  · exact .inl hk
  · exact .inr ⟨r, hr, hk, g + 1, last, by omega, hl, hstop⟩

/-- What begins before the end of the first span kept was left out because of it. -/
theorem LeftOut.cons_kept (ho : LeftOut needle kept s.stop text h)
    (hl : lastOwner? needle (x :: text) = some last) (hs : s.stop = last + 1)
    (hle : needle.length ≤ h + 1) : LeftOut needle (s :: kept) free (x :: text) (h + 1) := by
  obtain ⟨hsome, c, k, hc, hk⟩ := ho
  refine ⟨hsome, c, k, hc, .inr ?_⟩
  rcases hk with hk | ⟨r, hr, hk, g, last', hg, hl', hstop⟩
  · exact ⟨s, List.mem_cons_self, hk, 0, last, by omega, hl, hs⟩
  · exact ⟨r, List.mem_cons_of_mem s hr, hk, g + 1, last', by omega, hl', hstop⟩

/-- Holders of a stretch never decrease. -/
theorem owner_le (hs : text.Pairwise (·.2 ≤ ·.2)) (hi : text[i]? = some x) (hj : text[j]? = some y)
    (hij : i ≤ j) : x.2 ≤ y.2 := by
  obtain ⟨hi', rfl⟩ := List.getElem?_eq_some_iff.1 hi
  obtain ⟨hj', rfl⟩ := List.getElem?_eq_some_iff.1 hj
  rcases Nat.lt_or_eq_of_le hij with hlt | rfl
  · exact List.pairwise_iff_getElem.1 hs i j hi' hj' hlt
  · exact Nat.le_refl _

/-- Each occurrence begins inside of a span that is kept, or it overlaps one that is left out. -/
theorem kept_or_leftOut (hs : text.Pairwise (·.2 ≤ ·.2))
    (ho : (lastOwner? needle (text.drop o)).isSome = true) (hc : text[o]? = some (c, k))
    (hskip : skip ≤ o) :
    (k < free ∨ ∃ r ∈ keepDisjoint free (hits needle skip text), r.first ≤ k ∧ k < r.stop) ∨
    ∃ h, skip ≤ h ∧ h < o ∧ o < h + needle.length ∧
      LeftOut needle (keepDisjoint free (hits needle skip text)) free text h := by
  induction text generalizing skip free o with
  | nil => cases hc
  | cons x text ih =>
    obtain ⟨d, l⟩ := x
    have hs' := (List.pairwise_cons.1 hs).2
    cases skip with
    | succ skip =>
      obtain ⟨o, rfl⟩ : ∃ p, o = p + 1 := ⟨o - 1, by omega⟩
      have hskip' : skip ≤ o := Nat.le_of_succ_le_succ hskip
      rcases ih hs' ho hc hskip' with hk | ⟨h, hh, hlt, hgt, hout⟩
      · exact .inl hk
      · exact .inr ⟨h + 1, by omega, by omega, by omega, hout.cons⟩
    | zero =>
      cases hl : lastOwner? needle ((d, l) :: text) with
      | none =>
        rw [hits_cons_of_none hl]
        cases o with
        | zero =>
          rw [List.drop_zero, hl] at ho
          cases ho
        | succ o =>
          rcases ih hs' ho hc (Nat.zero_le o) with hk | ⟨h, hh, hlt, hgt, hout⟩
          · exact .inl hk
          · exact .inr ⟨h + 1, by omega, by omega, by omega, hout.cons⟩
      | some last =>
        obtain ⟨hn, -, e, he⟩ := lastOwner?_eq_some_iff.1 hl
        have hpos := List.length_pos_iff.2 hn
        have hfirst : l ≤ k := owner_le hs (i := 0) (j := o) rfl hc (Nat.zero_le o)
        rw [hits_cons_of_some hl, keepDisjoint]
        rcases Nat.lt_or_ge o needle.length with hlt | hge
        · -- The occurrence overlaps the hit at the beginning.
          have hlast : k ≤ last := owner_le hs hc he (by omega)
          split
          · next hleft =>
            simp only at hleft
            cases o with
            | zero =>
              cases hc
              exact .inl (.inl hleft)
            | succ o =>
              refine .inr ⟨0, Nat.le_refl 0, by omega, by omega, ?_, d, l, rfl, .inl hleft⟩
              rw [List.drop_zero, hl]
              rfl
          · exact .inl (.inr ⟨_, List.mem_cons_self, hfirst, Nat.lt_succ_of_le hlast⟩)
        · -- It stands behind the hit, where the scan goes on.
          obtain ⟨o, rfl⟩ : ∃ p, o = p + 1 := ⟨o - 1, by omega⟩
          have hskip' : needle.length - 1 ≤ o := by omega
          split
          · rcases ih hs' ho hc hskip' with hk | ⟨h, hh, hlt, hgt, hout⟩
            · exact .inl hk
            · exact .inr ⟨h + 1, by omega, by omega, by omega, hout.cons⟩
          · rcases ih hs' ho hc hskip' with (hk | ⟨r, hr, hk⟩) | ⟨h, hh, hlt, hgt, hout⟩
            · exact .inl (.inr ⟨_, List.mem_cons_self, hfirst, hk⟩)
            · exact .inl (.inr ⟨r, List.mem_cons_of_mem _ hr, hk⟩)
            · exact .inr ⟨h + 1, by omega, by omega, by omega, hout.cons_kept hl rfl (by omega)⟩

end Scan

variable {t : LoweredText} {needle text piece : List Char} {x : Char × Nat} {a b h k l o p i j : Nat}

/-! ## The scan of a window -/

theorem StandsWithin.le_charCount (ho : t.StandsWithin needle a b o) (hn : needle ≠ []) :
    a ≤ t.charCount :=
  Nat.le_trans (le_of_startOf_le hn ho.begins ho.ends) (Nat.min_le_right _ _)

/-- The lowered text from a window on. -/
theorem drop_owned_window (ha : a ≤ t.charCount) (b : Nat) : (owned 0 t.pieces).drop (t.startOf a) =
    owned a ((t.pieces.drop a).take (b - a)) ++
      owned (a + ((t.pieces.drop a).take (b - a)).length) ((t.pieces.drop a).drop (b - a)) := by
  have hlen : t.startOf a = (owned 0 (t.pieces.take a)).length := by rw [length_owned, startOf]
  rw [owned_split ha, hlen, List.drop_left, ← owned_take_drop]

theorem holds_of_window (ha : a ≤ t.charCount) {c : Char}
    (hx : (owned a ((t.pieces.drop a).take (b - a)))[p]? = some (c, k)) :
    t.Holds k (t.startOf a + p) := by
  obtain ⟨hlt, -⟩ := List.getElem?_eq_some_iff.1 hx
  refine holds_of_owned (c := c) ?_
  rw [← List.getElem?_drop, drop_owned_window ha b, List.getElem?_append_left hlt, hx]

theorem lastOwner?_of_window (ha : a ≤ t.charCount)
    (hl : lastOwner? needle ((owned a ((t.pieces.drop a).take (b - a))).drop p) = some j) :
    StandsAt needle t.chars (t.startOf a + p) ∧ t.Holds j (t.startOf a + p + needle.length - 1) := by
  have hp : p ≤ (owned a ((t.pieces.drop a).take (b - a))).length := by
    obtain ⟨hn, hpre, -⟩ := lastOwner?_eq_some_iff.1 hl
    have hpos := List.length_pos_iff.2 hn
    have hle := hpre.length_le
    rw [List.length_map, List.length_drop] at hle
    omega
  have hwhole := lastOwner?_append
    (owned (a + ((t.pieces.drop a).take (b - a)).length) ((t.pieces.drop a).drop (b - a))) hl
  rw [← List.drop_append_of_le_length hp, ← drop_owned_window ha b, List.drop_drop] at hwhole
  exact (lastOwner?_drop_owned.1 hwhole).2

/-- A holder of a later character is not an earlier one. -/
theorem Holds.le (hk : t.Holds k o) (hl : t.Holds l p) (h : o ≤ p) : k ≤ l := by
  refine Nat.le_of_not_lt fun hlt => ?_
  have := startOf_mono (t := t) (show l + 1 ≤ k from hlt)
  have := hk.1
  have := hl.2
  omega

/-- Each occurrence in a window begins inside of a span found there, or it overlaps one that begins
inside of the last character of such a span, behind the occurrence that it was found for. -/
theorem kept_or_leftOut_window (hn : needle ≠ []) (ho : t.StandsWithin needle a b o)
    (hk : t.Holds k o) :
    (∃ r ∈ t.occurrences needle a b, r.first ≤ k ∧ k < r.stop) ∨
    ∃ r ∈ t.occurrences needle a b, ∃ h g l, r.stop = l + 1 ∧
      (StandsAt needle t.chars h ∧ t.startOf a ≤ h ∧ h < o ∧ o < h + needle.length) ∧
      (StandsAt needle t.chars g ∧ g + needle.length ≤ h) ∧
      t.Holds l (g + needle.length - 1) ∧ t.Holds l h := by
  have ha := ho.le_charCount hn
  have hpos := List.length_pos_iff.2 hn
  have hsome := isSome_lastOwner?_window hn ho.stands ho.begins ho.ends
  obtain ⟨-, hpre⟩ := isSome_lastOwner?_iff.1 hsome
  have hlt : o - t.startOf a < (owned a ((t.pieces.drop a).take (b - a))).length := by
    have hle := hpre.length_le
    rw [List.length_map, List.length_drop] at hle
    omega
  have hget := List.getElem?_eq_getElem hlt
  have hk' := holds_of_window ha hget
  rw [Nat.add_sub_cancel' ho.begins] at hk'
  obtain rfl := hk.unique hk'
  rw [occurrences_of_ne_nil hn]
  rcases kept_or_leftOut (pairwise_owned _ _) hsome hget (Nat.zero_le _) with
    (hz | hin) | ⟨h, -, hlo, hhi, hleft, c, l, hc, hout⟩
  · exact absurd hz (Nat.not_lt_zero _)
  · exact .inl hin
  · rcases hout with hz | ⟨r, hr, hlr, g, last, hg, hlast, hstop⟩
    · exact absurd hz (Nat.not_lt_zero _)
    · obtain ⟨j, hj⟩ := Option.isSome_iff_exists.1 hleft
      obtain ⟨hstandsH, -⟩ := lastOwner?_of_window ha hj
      obtain ⟨hstandsG, hholdsG⟩ := lastOwner?_of_window ha hlast
      have hholdsH := holds_of_window ha hc
      -- The last character of `r` holds the end of one occurrence and the beginning of the other.
      have hle := hholdsG.le hholdsH (by omega)
      obtain rfl : l = last := by omega
      have := ho.begins
      exact .inr ⟨r, hr, t.startOf a + h, t.startOf a + g, l, hstop,
        ⟨hstandsH, by omega, by omega, by omega⟩, ⟨hstandsG, by omega⟩, hholdsG, hholdsH⟩

/-! ## Forms with two characters -/

/-- Only a dotted capital holds two lowered characters. -/
theorem dotted_of_holds (ho : (ofChars text).Holds k o) (hp : (ofChars text).Holds k p)
    (hlt : o < p) : text[k]? = some 'İ' ∧ p = (ofChars text).startOf k + 1 ∧
      (lowerChars text)[o]? = some 'i' ∧ (lowerChars text)[p]? = some '\u0307' := by
  have hk : k < text.length := by
    have := ho.lt_charCount
    rwa [charCount_ofChars] at this
  obtain ⟨piece, hpiece, hform⟩ := getElem?_pieces (List.getElem?_eq_getElem hk)
  have hpiece' : (ofChars text).pieces[k]? = some piece := hpiece
  obtain ⟨i, hi, rfl, hfirst⟩ := ho.exists_getElem? hpiece'
  obtain ⟨j, hj, rfl, hsecond⟩ := hp.exists_getElem? hpiece'
  have htwo : 2 ≤ piece.length := by omega
  obtain ⟨hc, rfl⟩ : text[k] = 'İ' ∧ piece = ['i', '\u0307'] := by
    rcases hform with rfl | ⟨-, rfl⟩
    · unfold lowerChar at htwo ⊢
      split
      · next hc => exact ⟨hc, rfl⟩
      · next hc =>
        rw [if_neg hc] at htwo
        split at htwo <;> cases Nat.lt_irrefl 1 htwo
    · cases Nat.lt_irrefl 1 htwo
  simp only [List.length_cons, List.length_nil] at hi hj
  obtain rfl : i = 0 := by omega
  obtain rfl : j = 1 := by omega
  exact ⟨by rw [List.getElem?_eq_getElem hk, hc], rfl, hfirst, hsecond⟩

end LoweredText

end SearchPanel
