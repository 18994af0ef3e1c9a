import Mathlib.Data.List.Basic
import SearchPanel.Proofs.LoweredText.Occurrences
import SearchPanel.Snippet

/-!
# Marks in an excerpt

* `taggedSlice field w marks`: the characters of `field` in the window `w`, an opening tag before
  the first character of each mark and a closing tag behind its last.
  `wrappedSlice front back field w marks` is the same with any two texts for the tags. Without marks
  it is the slice itself (`wrappedSlice_nil`).
* `InOrder w marks`: the spans lie inside `w` one behind the other, empty ones among them or not.
* The segments of a field cut at marks show the slice with the tags (`render_segments`), or with
  other texts for them (`wrapped_segments`), hold the slice (`text_segments`), and have their marks
  where they were cut (`markSpans_segments`).
-/

namespace SearchPanel

/-- The character of `field` at position `k`, with the tags of the marks that begin at it and end
behind it. -/
def taggedChar (field : List Char) (marks : List Span) (k : Nat) : List Char :=
  (if marks.any (·.first = k) then markOpen else []) ++ field[k]?.toList ++
    (if marks.any (·.stop = k + 1) then markClose else [])

/-- The characters of `field` in the window `w`, with the tags of `marks`. -/
def taggedSlice (field : List Char) (w : Span) (marks : List Span) : List Char :=
  (List.range' w.first (w.stop - w.first)).flatMap (taggedChar field marks)

/-- The character of `field` at position `k`, with `front` before it where a mark begins and `back`
behind it where one ends. -/
def wrappedChar (front back field : List Char) (marks : List Span) (k : Nat) : List Char :=
  (if marks.any (·.first = k) then front else []) ++ field[k]?.toList ++
    (if marks.any (·.stop = k + 1) then back else [])

/-- The characters of `field` in the window `w`, with `front` before the first character of each
mark and `back` behind its last. -/
def wrappedSlice (front back field : List Char) (w : Span) (marks : List Span) : List Char :=
  (List.range' w.first (w.stop - w.first)).flatMap (wrappedChar front back field marks)

/-- A segment with `front` before it and `back` behind it, if it is marked. -/
def Segment.wrapped (front back : List Char) : Segment → List Char
  | plain t => t
  | marked t => front ++ t ++ back

/-- Position `k` lies strictly inside of `s`: what is put there, or cut there, cuts `s` in two. -/
def Span.CutAt (s : Span) (k : Nat) : Prop := s.first < k ∧ k < s.stop

instance (s : Span) (k : Nat) : Decidable (s.CutAt k) := inferInstanceAs (Decidable (_ ∧ _))

/-- The places of the marks among segments, the first of which begins at position `k`. -/
def markSpans (k : Nat) : List Segment → List Span
  | [] => []
  | .plain text :: rest => markSpans (k + text.length) rest
  | .marked text :: rest => ⟨k, k + text.length⟩ :: markSpans (k + text.length) rest

namespace Excerpt

/-- The places of the marks of an excerpt that begins at position `start` of its field. -/
def marks (e : Excerpt) (start : Nat) : List Span := markSpans start e.segments

/-- Something in the excerpt is marked. -/
def HasMark (e : Excerpt) : Prop := ∃ text, Segment.marked text ∈ e.segments

end Excerpt

variable {front back field : List Char} {marks : List Span} {m w : Span} {a b k n stop : Nat}

/-! ## Slices and texts around marks -/

theorem take_drop_eq_flatMap (field : List Char) (a n : Nat) :
    (field.drop a).take n = (List.range' a n).flatMap fun k => field[k]?.toList := by
  induction n generalizing a with
  | zero => rfl
  | succ n ih =>
    rw [List.range'_succ, List.flatMap_cons, ← ih]
    rcases Nat.lt_or_ge a field.length with h | h
    · rw [List.drop_eq_getElem_cons h, List.take_succ_cons, List.getElem?_eq_getElem h]
      rfl
    · rw [List.drop_eq_nil_of_le h, List.drop_eq_nil_of_le (by omega),
        List.getElem?_eq_none h]
      simp

theorem length_slice (h : b ≤ field.length) : (slice field a b).length = b - a := by
  rw [slice, List.length_take, List.length_drop]
  omega

theorem length_slice_le (field : List Char) (a b : Nat) : (slice field a b).length ≤ b - a :=
  List.length_take_le _ _

/-- Where nothing is put in, the slice stands as it is. -/
theorem wrappedSlice_eq_slice
    (h : ∀ k, wrappedChar front back field marks k = field[k]?.toList) :
    wrappedSlice front back field w marks = slice field w.first w.stop := by
  rw [slice, take_drop_eq_flatMap, wrappedSlice, funext h]

theorem wrappedSlice_nil (front back field : List Char) (w : Span) :
    wrappedSlice front back field w [] = slice field w.first w.stop :=
  wrappedSlice_eq_slice fun k => by simp [wrappedChar]

/-- Marks with nothing around them. -/
theorem wrappedSlice_bare (field : List Char) (w : Span) (marks : List Span) :
    wrappedSlice [] [] field w marks = slice field w.first w.stop :=
  wrappedSlice_eq_slice fun k => by simp [wrappedChar]

theorem wrappedSlice_append (hab : a ≤ b) (hbs : b ≤ stop) (field : List Char)
    (marks : List Span) : wrappedSlice front back field ⟨a, stop⟩ marks =
      wrappedSlice front back field ⟨a, b⟩ marks ++
        wrappedSlice front back field ⟨b, stop⟩ marks := by
  have hlen : stop - a = (b - a) + (stop - b) := by omega
  have hb : a + (b - a) = b := by omega
  rw [wrappedSlice, wrappedSlice, wrappedSlice, ← List.flatMap_append]
  congr 1
  simp only [hlen]
  rw [← List.range'_append_1, hb]

/-- Marks that begin and end elsewhere make no difference. -/
theorem wrappedSlice_congr {marks' : List Span}
    (h : ∀ k, w.first ≤ k → k < w.stop →
      wrappedChar front back field marks k = wrappedChar front back field marks' k) :
    wrappedSlice front back field w marks = wrappedSlice front back field w marks' := by
  refine List.flatMap_congr fun k hk => ?_
  rw [List.mem_range'_1] at hk
  exact h k (by omega) (by omega)

/-- A mark in front changes no character that it does not touch. -/
theorem wrappedChar_cons_of_ne (hf : m.first ≠ k) (hs : m.stop ≠ k + 1) :
    wrappedChar front back field (m :: marks) k = wrappedChar front back field marks k := by
  simp [wrappedChar, hf, hs]

private theorem any_first_eq_false (h : ∀ m ∈ marks, k < m.first) :
    marks.any (·.first = k) = false := by
  rw [List.any_eq_false]
  intro m hm
  have := h m hm
  simp only [decide_eq_true_eq]
  omega

private theorem any_stop_eq_false (hn : ∀ m ∈ marks, m.first < m.stop)
    (h : ∀ m ∈ marks, k < m.first) : marks.any (·.stop = k + 1) = false := by
  rw [List.any_eq_false]
  intro m hm
  have := h m hm
  have := hn m hm
  simp only [decide_eq_true_eq]
  omega

/-- Marks that begin behind `k` leave its character as it is. -/
theorem wrappedChar_of_lt (hn : ∀ m ∈ marks, m.first < m.stop) (h : ∀ m ∈ marks, k < m.first) :
    wrappedChar front back field marks k = field[k]?.toList := by
  simp [wrappedChar, any_first_eq_false h, any_stop_eq_false hn h]

theorem wrappedChar_cons_of_lt (hn : ∀ r ∈ marks, r.first < r.stop)
    (h : ∀ r ∈ marks, k < r.first) :
    wrappedChar front back field (m :: marks) k = wrappedChar front back field [m] k := by
  simp [wrappedChar, any_first_eq_false h, any_stop_eq_false hn h]

/-- What stands before the first of some positions alone stands before all of them. -/
theorem flatMap_first (a n : Nat) (tag : List Char) (f : Nat → List Char) :
    ((List.range' a (n + 1)).flatMap fun k => (if a = k then tag else []) ++ f k) =
      tag ++ (List.range' a (n + 1)).flatMap f := by
  have hrest : ∀ k ∈ List.range' (a + 1) n, (if a = k then tag else []) ++ f k = f k := by
    intro k hk
    rw [List.mem_range'_1] at hk
    rw [if_neg (by omega), List.nil_append]
  rw [List.range'_succ, List.flatMap_cons, List.flatMap_cons, if_pos rfl, List.append_assoc,
    List.flatMap_congr hrest]

/-- What stands behind the last of some positions alone stands behind all of them. -/
private theorem flatMap_last (a n : Nat) (tag : List Char) (f : Nat → List Char) :
    ((List.range' a (n + 1)).flatMap fun k => f k ++ if a + n = k then tag else []) =
      (List.range' a (n + 1)).flatMap f ++ tag := by
  have hrest : ∀ k ∈ List.range' a n, (f k ++ if a + n = k then tag else []) = f k := by
    intro k hk
    rw [List.mem_range'_1] at hk
    rw [if_neg (by omega), List.append_nil]
  rw [List.range'_1_concat, List.flatMap_append, List.flatMap_append, List.flatMap_congr hrest]
  simp

/-- Tags that can stand at one of some places only. -/
private theorem tag_eq_of_forall (marks : List Span) (place : Span → Nat) (tag : List Char)
    (p q : Nat) (h : ∀ r ∈ marks, place r = q → p = q) :
    (if marks.any (place · = q) then tag else []) =
      if p = q then if marks.any (place · = p) then tag else [] else [] := by
  split
  · next hany =>
    obtain ⟨r, hr, he⟩ := List.any_eq_true.1 hany
    obtain rfl := h r hr (of_decide_eq_true he)
    rw [if_pos rfl, if_pos hany]
  · next hany =>
    split
    · next he => rw [he, if_neg hany]
    · rfl

/-- Where marks begin and end only at the ends of a stretch, its characters stand in one piece. -/
theorem wrappedSlice_of_not_cutAt (hm : m.first < m.stop)
    (h : ∀ r ∈ marks, ¬ m.CutAt r.first ∧ ¬ m.CutAt r.stop) :
    wrappedSlice front back field m marks =
      (if marks.any (·.first = m.first) then front else []) ++ slice field m.first m.stop ++
        (if marks.any (·.stop = m.stop) then back else []) := by
  obtain ⟨a, stop⟩ := m
  simp only [Span.CutAt] at hm h ⊢
  obtain ⟨n, rfl⟩ : ∃ n, stop = a + n + 1 := ⟨stop - a - 1, by omega⟩
  have htag : ∀ k ∈ List.range' a (n + 1), wrappedChar front back field marks k =
      (if a = k then if marks.any (·.first = a) then front else [] else []) ++
        (field[k]?.toList ++
          if a + n = k then if marks.any (·.stop = a + n + 1) then back else [] else []) := by
    intro k hk
    rw [List.mem_range'_1] at hk
    have hfirst := tag_eq_of_forall marks Span.first front a k fun r hr he => by
      have := (h r hr).1
      omega
    have hstop := tag_eq_of_forall marks Span.stop back (a + n + 1) (k + 1) fun r hr he => by
      have := (h r hr).2
      omega
    simp only [Nat.add_right_cancel_iff] at hstop
    rw [wrappedChar, hfirst, hstop, List.append_assoc]
  have hlen : a + n + 1 - a = n + 1 := by omega
  rw [wrappedSlice, slice, take_drop_eq_flatMap]
  simp only [hlen]
  rw [List.flatMap_congr htag, flatMap_first, flatMap_last, List.append_assoc]

/-- The characters of a mark stand between the two texts. -/
theorem wrappedSlice_self (hm : m.first < m.stop) :
    wrappedSlice front back field m [m] = front ++ slice field m.first m.stop ++ back := by
  rw [wrappedSlice_of_not_cutAt hm fun r hr => by
    obtain rfl := List.mem_singleton.1 hr
    exact ⟨fun hcut => Nat.lt_irrefl _ hcut.1, fun hcut => Nat.lt_irrefl _ hcut.2⟩]
  simp

/-! ## Tags

They are the texts around the marks of a snippet. -/

theorem taggedSlice_eq (field : List Char) (w : Span) (marks : List Span) :
    taggedSlice field w marks = wrappedSlice markOpen markClose field w marks := rfl

/-! ## Segments -/

/-- Spans inside `w`, each ending before the next one begins. They may be empty. -/
structure InOrder (w : Span) (marks : List Span) : Prop where
  inside : ∀ m ∈ marks, w.first ≤ m.first ∧ m.first ≤ m.stop ∧ m.stop ≤ w.stop
  ordered : marks.Pairwise fun a b => a.stop ≤ b.first

theorem InOrder.tail (h : InOrder ⟨a, stop⟩ (m :: marks)) : InOrder ⟨m.stop, stop⟩ marks where
  inside r hr := ⟨(List.pairwise_cons.1 h.ordered).1 r hr, (h.inside r (by simp [hr])).2⟩
  ordered := (List.pairwise_cons.1 h.ordered).2

theorem Marking.inOrder (h : Marking w marks) : InOrder w marks where
  inside m hm := ⟨(h.inside m hm).1, Nat.le_of_lt (h.nonempty m hm), (h.inside m hm).2⟩
  ordered := h.ordered

theorem Marking.tail (h : Marking ⟨a, stop⟩ (m :: marks)) : Marking ⟨m.stop, stop⟩ marks where
  nonempty r hr := h.nonempty r (by simp [hr])
  inside r hr := ⟨(List.pairwise_cons.1 h.ordered).1 r hr, (h.inside r (by simp [hr])).2⟩
  ordered := (List.pairwise_cons.1 h.ordered).2

/-- The first mark cuts the window in three. -/
theorem Marking.wrappedSlice_cons (h : Marking ⟨a, stop⟩ (m :: marks)) (field : List Char) :
    wrappedSlice front back field ⟨a, stop⟩ (m :: marks) =
      slice field a m.first ++ (front ++ slice field m.first m.stop ++ back) ++
        wrappedSlice front back field ⟨m.stop, stop⟩ marks := by
  have hm : m.first < m.stop := h.nonempty m (by simp)
  have hms : m.first ≤ m.stop := Nat.le_of_lt hm
  obtain ⟨ha, hs⟩ : a ≤ m.first ∧ m.stop ≤ stop := h.inside m (by simp)
  have htail : ∀ r ∈ marks, m.stop ≤ r.first := fun r hr => (h.tail.inside r hr).1
  have hbefore : wrappedSlice front back field ⟨a, m.first⟩ (m :: marks) =
      slice field a m.first := by
    rw [← wrappedSlice_nil front back field ⟨a, m.first⟩]
    refine wrappedSlice_congr fun k _ (hk : k < m.first) => ?_
    rw [wrappedChar_of_lt h.nonempty, wrappedChar_of_lt (by simp) (by simp)]
    intro r hr
    rcases List.mem_cons.1 hr with rfl | hr
    · exact hk
    · have := htail r hr
      omega
  have hmark : wrappedSlice front back field m (m :: marks) =
      wrappedSlice front back field m [m] := by
    refine wrappedSlice_congr fun k _ hk => wrappedChar_cons_of_lt h.tail.nonempty fun r hr => ?_
    have := htail r hr
    omega
  have hafter : wrappedSlice front back field ⟨m.stop, stop⟩ (m :: marks) =
      wrappedSlice front back field ⟨m.stop, stop⟩ marks := by
    refine wrappedSlice_congr fun k (hk : m.stop ≤ k) _ => wrappedChar_cons_of_ne ?_ ?_ <;> omega
  rw [wrappedSlice_append ha (Nat.le_trans hms hs), wrappedSlice_append hms hs, hbefore, hmark,
    hafter, wrappedSlice_self hm, ← List.append_assoc]

/-- A field cut at marks shows the window with the two texts around each of them. -/
theorem wrapped_segments (h : Marking ⟨a, stop⟩ marks) :
    (segments field a stop marks).flatMap (Segment.wrapped front back) =
      wrappedSlice front back field ⟨a, stop⟩ marks := by
  induction marks generalizing a with
  | nil =>
    rw [wrappedSlice_nil]
    simp [segments, Segment.wrapped]
  | cons m marks ih =>
    rw [h.wrappedSlice_cons, ← ih h.tail]
    simp [segments, Segment.wrapped]

theorem Segment.render_eq_wrapped : Segment.render = Segment.wrapped markOpen markClose := by
  funext s
  cases s <;> rfl

/-- A field cut at marks shows the window with their tags. -/
theorem render_segments (h : Marking ⟨a, stop⟩ marks) :
    (segments field a stop marks).flatMap Segment.render = taggedSlice field ⟨a, stop⟩ marks := by
  rw [Segment.render_eq_wrapped, wrapped_segments h]
  rfl

/-- A field cut at marks still holds every character of the window. -/
theorem text_segments (h : InOrder ⟨a, stop⟩ marks) :
    (segments field a stop marks).flatMap Segment.text = slice field a stop := by
  induction marks generalizing a with
  | nil => simp [segments, Segment.text]
  | cons m marks ih =>
    obtain ⟨hf, hm, hs⟩ := h.inside m (by simp)
    simp only at hf hs
    have hrest := ih h.tail
    rw [segments, List.flatMap_cons, List.flatMap_cons, hrest]
    simp only [Segment.text]
    rw [slice_append_slice _ hm hs, slice_append_slice _ hf (Nat.le_trans hm hs)]

/-- The marks of a cut field stand where it was cut. -/
theorem markSpans_segments (h : Marking ⟨a, stop⟩ marks) (hl : stop ≤ field.length) :
    markSpans a (segments field a stop marks) = marks := by
  induction marks generalizing a with
  | nil => rfl
  | cons m marks ih =>
    have hm := h.nonempty m (by simp)
    obtain ⟨hf, hs⟩ := h.inside m (by simp)
    simp only at hf hs
    have hfirst : a + (slice field a m.first).length = m.first := by
      rw [length_slice (by omega)]
      omega
    have hstop : m.first + (slice field m.first m.stop).length = m.stop := by
      rw [length_slice (by omega)]
      omega
    rw [segments, markSpans, markSpans, hfirst, hstop, ih h.tail]

/-- Segments have marked ones among them exactly when there are places of marks. -/
theorem exists_marked_iff {segs : List Segment} (k : Nat) :
    (∃ text, Segment.marked text ∈ segs) ↔ markSpans k segs ≠ [] := by
  induction segs generalizing k with
  | nil => simp [markSpans]
  | cons seg rest ih =>
    cases seg with
    | plain text => simpa [markSpans] using ih (k + text.length)
    | marked text =>
      simp only [markSpans, ne_eq, reduceCtorEq, not_false_eq_true, iff_true]
      exact ⟨text, by simp⟩

theorem Excerpt.hasMark_iff {e : Excerpt} (start : Nat) : e.HasMark ↔ e.marks start ≠ [] :=
  exists_marked_iff start

instance (e : Excerpt) : Decidable e.HasMark := decidable_of_iff _ (e.hasMark_iff 0).symm

end SearchPanel
