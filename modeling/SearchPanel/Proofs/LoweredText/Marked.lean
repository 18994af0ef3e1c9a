import SearchPanel.Proofs.LoweredText.LeftOut

/-!
# Occurrences without a mark

* `Marked t needle a b o`: the occurrence at place `o` has a source character in common with a span
  that is found in the window.
* `HidesItself needle`: the needle begins with the dot of a lowered dotted capital, ends with the `i`
  before it, and overlaps itself. Such a needle can end and begin again in one capital. Then its
  second occurrence is left out, and a third one that overlaps the second is not looked for
  (`exists_not_marked`).
* `marked_unless_hidden`: every occurrence inside a window is marked unless this happens, and it
  happens to these needles only.
-/

namespace SearchPanel

open Text

/-- Two spans share a position. -/
def Span.Meets (s r : Span) : Prop :=
  ∃ k, (s.first ≤ k ∧ k < s.stop) ∧ r.first ≤ k ∧ k < r.stop

namespace LoweredText

/-- The occurrence at place `o` has a source character in common with a span found in a window. -/
def Marked (t : LoweredText) (needle : List Char) (a b o : Nat) : Prop :=
  ∃ s, t.Covers s o needle.length ∧ ∃ r ∈ t.occurrences needle a b, s.Meets r

/-- A needle begins with the second half of the form of a dotted capital and ends with the first
one, it overlaps itself, and it is in lower case. -/
structure HidesItself (needle : List Char) : Prop where
  first : needle.head? = some '\u0307'
  last : needle.getLast? = some 'i'
  overlap : ∃ d, 0 < d ∧ d < needle.length ∧ needle.drop d <+: needle
  lower : ∀ c ∈ needle, IsLower c

variable {t : LoweredText} {needle text : List Char} {before after : List (Char × Nat)} {c e : Char}
  {a b d h k l last o : Nat}

/-- What begins inside of a span that is found is marked. -/
theorem marked_of_holds (hn : needle ≠ []) (ho : t.StandsWithin needle a b o) (hk : t.Holds k o)
    (hr : ∃ r ∈ t.occurrences needle a b, r.first ≤ k ∧ k < r.stop) :
    t.Marked needle a b o := by
  have hpos := List.length_pos_iff.2 hn
  have hle := ho.stands.add_length_le hn
  obtain ⟨-, l, -, hl⟩ := exists_owned (t := t) (o := o + needle.length - 1) (by omega)
  obtain ⟨r, hr, hin⟩ := hr
  have hkl := hk.le hl (by omega)
  exact ⟨⟨k, l + 1⟩, ⟨hk, l, hl, rfl⟩, r, hr, k, ⟨Nat.le_refl k, Nat.lt_succ_of_le hkl⟩, hin⟩

/-! ## Needles that hide themselves -/

/-- A needle that is left out at the dot of a capital, and again closer than its length. -/
theorem hidesItself_of_standsAt {g : Nat} (hn : needle ≠ [])
    (hh : StandsAt needle (lowerChars text) h) (ho : StandsAt needle (lowerChars text) o)
    (hg : StandsAt needle (lowerChars text) g) (hlo : h < o) (hhi : o < h + needle.length)
    (hi : (lowerChars text)[g + needle.length - 1]? = some 'i')
    (hdot : (lowerChars text)[h]? = some '\u0307') : HidesItself needle := by
  have hpos := List.length_pos_iff.2 hn
  refine ⟨?_, ?_, ⟨o - h, by omega, by omega, hh.overlap ho (Nat.le_of_lt hlo)⟩, fun c hc => ?_⟩
  · rw [List.head?_eq_getElem?, ← hh.getElem? hpos, Nat.add_zero, hdot]
  · rw [List.getLast?_eq_getElem?, ← hg.getElem? (by omega), ← Nat.add_sub_assoc hpos, hi]
  · exact isLower_of_mem_lowerChars (List.mem_of_mem_drop (hh.subset hc))

/-- A scan of the needle itself finds it and goes on behind it. -/
theorem hits_append_needle (hn : needle ≠ []) (hb : before.map Prod.fst = needle)
    (hfirst : before.head? = some (c, k)) (hlast : before.getLast? = some (e, last)) :
    hits needle 0 (before ++ after) = ⟨k, last + 1⟩ :: hits needle 0 after := by
  obtain ⟨rest, rfl⟩ := List.head?_eq_some_iff.1 hfirst
  have hlen : rest.length + 1 = needle.length := by rw [← hb]; simp
  have hl : lastOwner? needle ((c, k) :: (rest ++ after)) = some last := by
    refine lastOwner?_eq_some_iff.2 ⟨hn, ?_, e, ?_⟩
    · rw [← List.cons_append, List.map_append, hb]
      exact List.prefix_append _ _
    · rw [List.getLast?_eq_getElem?] at hlast
      rw [← List.cons_append, ← hlen, List.getElem?_append_left (by simp), ← hlast]
      simp
  rw [List.cons_append, hits_cons_of_some hl, hits_append_of_length_le (by omega)]
  congr 2
  omega

/-! ## A dotted capital between two occurrences -/

section Dotted

variable {u v w : List Char} (hu : ∀ c ∈ u, IsLower c) (hv : ∀ c ∈ v, IsLower c)

include hu hv

/-- The forms of a text with one dotted capital. -/
theorem pieces_dotted : (ofChars (u ++ 'İ' :: v)).pieces =
    u.map ([·]) ++ ['i', '\u0307'] :: v.map ([·]) := by
  have hdot : lowerBetween (u.reverse ++ []) 'İ' v = ['i', '\u0307'] := rfl
  change piecesAfter [] _ = _
  rw [piecesAfter_append, piecesBetween_of_isLower hu, piecesAfter, hdot,
    piecesAfter_of_isLower hv]

theorem chars_dotted : (ofChars (u ++ 'İ' :: v)).chars = (u ++ ['i']) ++ '\u0307' :: v := by
  rw [chars, pieces_dotted hu hv]
  simp [← List.flatMap_def]

/-- The holders of a text with one dotted capital. It holds the last character of the one part and
the first of the other. -/
theorem owned_dotted : owned 0 (ofChars (u ++ 'İ' :: v)).pieces =
    (owned 0 (u.map ([·])) ++ [('i', u.length)]) ++
      ('\u0307', u.length) :: owned (u.length + 1) (v.map ([·])) := by
  rw [pieces_dotted hu hv, owned_append, owned]
  simp

/-- The character behind a dotted capital. -/
theorem startOf_dotted : (ofChars (u ++ 'İ' :: v)).startOf (u.length + 1) = u.length + 2 := by
  rw [startOf, pieces_dotted hu hv, List.take_append, List.take_of_length_le (by simp)]
  simp [← List.flatMap_def]

/-- An occurrence that ends in a dotted capital is found, and the one that begins there is left
out. -/
theorem occurrences_dotted (hneedle : needle = u ++ ['i']) (hbegin : needle <+: '\u0307' :: v)
    (hshort : v.length + 1 < 2 * needle.length) :
    ∃ k, (ofChars (u ++ 'İ' :: v)).occurrences needle 0 (u ++ 'İ' :: v).length =
      [⟨k, u.length + 1⟩] := by
  have hn : needle ≠ [] := by rw [hneedle]; simp
  have hpos := List.length_pos_iff.2 hn
  have hwhole : ((ofChars (u ++ 'İ' :: v)).pieces.drop 0).take ((u ++ 'İ' :: v).length - 0) =
      (ofChars (u ++ 'İ' :: v)).pieces :=
    List.take_of_length_le (Nat.le_of_eq (charCount_ofChars (u ++ 'İ' :: v)))
  -- The first occurrence, which ends with the `i` of the capital.
  have hfirst : (owned 0 (u.map ([·])) ++ [('i', u.length)]).map Prod.fst = needle := by
    rw [List.map_append, map_fst_owned, hneedle]
    simp [← List.flatMap_def]
  obtain ⟨⟨c, k⟩, hhead⟩ : ∃ x, (owned 0 (u.map ([·])) ++ [('i', u.length)]).head? = some x :=
    Option.isSome_iff_exists.1 (by simp)
  have hend : (owned 0 (u.map ([·])) ++ [('i', u.length)]).getLast? = some ('i', u.length) :=
    List.getLast?_concat
  -- The second one, which begins with the dot of it.
  obtain ⟨behind, hbehind⟩ : ∃ behind, behind = ('\u0307', u.length) ::
    owned (u.length + 1) (v.map ([·])) := ⟨_, rfl⟩
  have hchars : behind.map Prod.fst = '\u0307' :: v := by
    rw [hbehind, List.map_cons, map_fst_owned]
    simp [← List.flatMap_def]
  have hlen : behind.length = v.length + 1 := by
    rw [← List.length_map Prod.fst, hchars, List.length_cons]
  have hsecond : (behind.take needle.length).map Prod.fst = needle := by
    rw [List.map_take, hchars, ← List.prefix_iff_eq_take.1 hbegin]
  have hhead' : (behind.take needle.length).head? = some ('\u0307', u.length) := by
    rw [List.head?_take, if_neg (by omega), hbehind, List.head?_cons]
  obtain ⟨⟨e, j⟩, hlast⟩ : ∃ x, (behind.take needle.length).getLast? = some x :=
    Option.isSome_iff_exists.1 (by simp [hbehind, hn])
  refine ⟨k, ?_⟩
  rw [occurrences_of_ne_nil hn, hwhole, owned_dotted hu hv,
    hits_append_needle hn hfirst hhead hend, ← hbehind,
    ← List.take_append_drop needle.length behind, hits_append_needle hn hsecond hhead' hlast,
    hits_eq_nil_of_length_lt (by rw [List.length_drop]; omega)]
  simp [keepDisjoint]

end Dotted

/-- A text in which a needle that hides itself has an occurrence without a mark: the first one ends
with the `i` of a dotted capital, the second one begins with the dot of it, and the third one begins
inside of the second. -/
theorem exists_not_marked (hneedle : HidesItself needle) : ∃ text o,
    (ofChars text).StandsWithin needle 0 text.length o ∧
      ¬ (ofChars text).Marked needle 0 text.length o := by
  obtain ⟨hfirst, hlast, ⟨d, hd, hdn, hborder⟩, hlower⟩ := hneedle
  obtain ⟨v, hv⟩ := List.head?_eq_some_iff.1 hfirst
  obtain ⟨u, hu⟩ := List.getLast?_eq_some_iff.1 hlast
  have hborder' : needle.drop d = needle.take (needle.length - d) := by
    rw [List.prefix_iff_eq_take.1 hborder, List.length_drop]
  obtain ⟨rest, hrest⟩ : ∃ rest, rest = v ++ needle.drop (needle.length - d) := ⟨_, rfl⟩
  have hbehind : '\u0307' :: rest = needle ++ needle.drop (needle.length - d) := by
    rw [hrest, hv]
    rfl
  have hlen : u.length + 1 = needle.length := by rw [hu]; simp
  have hrestLen : rest.length + 1 = needle.length + d := by
    rw [← List.length_cons (a := '\u0307'), hbehind, List.length_append, List.length_drop]
    omega
  have hulower : ∀ c ∈ u, IsLower c := fun c hc => hlower c (by rw [hu]; simp [hc])
  have hrestlower : ∀ c ∈ rest, IsLower c := fun c hc => by
    have hmem : c ∈ needle ++ needle.drop (needle.length - d) := by
      rw [← hbehind]
      exact List.mem_cons_of_mem _ hc
    rcases List.mem_append.1 hmem with hc | hc
    · exact hlower c hc
    · exact hlower c (List.mem_of_mem_drop hc)
  have hchars := chars_dotted hulower hrestlower
  rw [hbehind, ← hu] at hchars
  have hstands : StandsAt needle (ofChars (u ++ 'İ' :: rest)).chars (needle.length + d) := by
    refine ⟨[], ?_⟩
    rw [List.append_nil, hchars, ← List.drop_drop, List.drop_left,
      List.drop_append_of_le_length (Nat.le_of_lt hdn), hborder', List.take_append_drop]
  have hcount := charCount_ofChars (u ++ 'İ' :: rest)
  refine ⟨u ++ 'İ' :: rest, needle.length + d, ⟨hstands, Nat.zero_le _, ?_⟩, ?_⟩
  · rw [hcount, Nat.min_self, startOf_length]
    exact hstands.add_length_le (by rw [hu]; simp)
  · rintro ⟨s, ⟨hs, -⟩, r, hr, p, ⟨hp, -⟩, -, hpr⟩
    obtain ⟨k, hocc⟩ := occurrences_dotted hulower hrestlower hu
      (by rw [hbehind]; exact List.prefix_append _ _) (by omega)
    rw [hocc, List.mem_singleton] at hr
    subst hr
    -- The third occurrence begins behind the dotted capital.
    have hstart := startOf_dotted hulower hrestlower
    have hlt : s.first < u.length + 1 := Nat.lt_of_le_of_lt hp hpr
    have hmono : (ofChars (u ++ 'İ' :: rest)).startOf (s.first + 1) ≤
        (ofChars (u ++ 'İ' :: rest)).startOf (u.length + 1) := startOf_mono hlt
    have := hs.2
    omega

/-! ## Main result -/

/-- **Visible occurrences and marks.** Every occurrence that lies wholly inside the forms of a window
has a source character in common with a span found there, unless the needle hides itself: then an
occurrence may overlap an earlier one that begins with the dot of a dotted capital in which a span
found ends. To every needle that hides itself this happens in some text, and to no other needle. -/
theorem marked_unless_hidden (needle : List Char) (hn : needle ≠ []) :
    (∀ text a b o, (ofChars text).StandsWithin needle a b o →
      (ofChars text).Marked needle a b o ∨
      HidesItself needle ∧ ∃ r ∈ (ofChars text).occurrences needle a b, ∃ k h,
        r.stop = k + 1 ∧ text[k]? = some 'İ' ∧ h = (ofChars text).startOf k + 1 ∧
        StandsAt needle (lowerChars text) h ∧ (ofChars text).startOf a ≤ h ∧ h < o ∧
        o < h + needle.length) ∧
    ((∀ text a b o, (ofChars text).StandsWithin needle a b o →
      (ofChars text).Marked needle a b o) ↔ ¬ HidesItself needle) := by
  have hmarked : ∀ text a b o, (ofChars text).StandsWithin needle a b o →
      (ofChars text).Marked needle a b o ∨
      HidesItself needle ∧ ∃ r ∈ (ofChars text).occurrences needle a b, ∃ k h,
        r.stop = k + 1 ∧ text[k]? = some 'İ' ∧ h = (ofChars text).startOf k + 1 ∧
        StandsAt needle (lowerChars text) h ∧ (ofChars text).startOf a ≤ h ∧ h < o ∧
        o < h + needle.length := by
    intro text a b o ho
    have hpos := List.length_pos_iff.2 hn
    have hle := ho.stands.add_length_le hn
    obtain ⟨-, k, -, hk⟩ := exists_owned (t := ofChars text) (o := o) (by omega)
    rcases kept_or_leftOut_window hn ho hk with hin | ⟨r, hr, h, g, l, hstop,
      ⟨hstands, hbegins, hlo, hhi⟩, ⟨hbefore, hgh⟩, hends, hdot⟩
    · exact .inl (marked_of_holds hn ho hk hin)
    · obtain ⟨hcapital, hplace, hi, hd⟩ := dotted_of_holds hends hdot (by omega)
      exact .inr ⟨hidesItself_of_standsAt hn hstands ho.stands hbefore hlo hhi hi hd,
        r, hr, l, h, hstop, hcapital, hplace, hstands, hbegins, hlo, hhi⟩
  refine ⟨hmarked, fun hall hhides => ?_, fun hnot text a b o ho => ?_⟩
  · obtain ⟨text, o, ho, hno⟩ := exists_not_marked hhides
    exact hno (hall text 0 text.length o ho)
  · rcases hmarked text a b o ho with h | ⟨hhides, -⟩
    · exact h
    · exact absurd hhides hnot

/-- The second occurrence begins in the capital in which the first one ends. It is left out, and yet
marked: a needle that does not overlap itself cannot hide. -/
theorem marked_unless_hidden_dotted :
    let text := ['İ', 'İ', 'İ']
    let needle := ['\u0307', 'i']
    needle ≠ [] ∧ (ofChars text).StandsWithin needle 0 3 3 ∧
      (ofChars text).occurrences needle 0 3 = [⟨0, 2⟩] ∧ (ofChars text).Marked needle 0 3 3 := by
  intro text needle
  have hn : needle ≠ [] := List.cons_ne_nil _ _
  have ho : (ofChars text).StandsWithin needle 0 3 3 := ⟨by decide, by decide, by decide⟩
  have hnot : ¬ HidesItself needle := by
    rintro ⟨-, -, ⟨d, hd, hlt, hborder⟩, -⟩
    obtain rfl : d = 1 := by
      simp only [needle, List.length_cons, List.length_nil] at hlt
      omega
    revert hborder
    decide
  exact ⟨hn, ho, by decide, (marked_unless_hidden needle hn).2.2 hnot text 0 3 3 ho⟩

/-- Six dotted capitals. The last three are an occurrence, and nothing of it is marked. -/
theorem visible_without_mark :
    let text := List.replicate 6 'İ'
    let needle := ['\u0307', 'i', '\u0307', 'i']
    needle ≠ [] ∧ (ofChars text).StandsWithin needle 0 6 7 ∧
      (ofChars text).Covers ⟨3, 6⟩ 7 needle.length ∧
      (ofChars text).occurrences needle 0 6 = [⟨0, 3⟩] ∧
      ¬ (ofChars text).Marked needle 0 6 7 := by
  intro text needle
  have ho : (ofChars text).StandsWithin needle 0 6 7 := ⟨by decide, by decide, by decide⟩
  have hfirst : (ofChars text).Holds 3 7 := ⟨by decide, by decide⟩
  have hlast : (ofChars text).Holds 5 10 := ⟨by decide, by decide⟩
  have hocc : (ofChars text).occurrences needle 0 6 = [⟨0, 3⟩] := by decide
  refine ⟨List.cons_ne_nil _ _, ho, ⟨hfirst, 5, hlast, rfl⟩, hocc, ?_⟩
  rintro ⟨s, ⟨hs, -⟩, r, hr, p, ⟨hp, -⟩, -, hpr⟩
  rw [hocc, List.mem_singleton] at hr
  subst hr
  have hthree := hs.unique hfirst
  simp only at hpr
  omega

end LoweredText

end SearchPanel
