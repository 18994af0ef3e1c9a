import SearchPanel.Proofs.Snippet.Window
import SearchPanel.Proofs.Text.Boundaries

/-!
# Writing a window with its marks

A window is written mark by mark: the characters up to the mark, a tag, the characters of the mark
and a tag, and at last what is left of the window. Each stretch is a cut of its own.

* `highlightInto?`: the window written so, behind what stands there already. No cut fails, and it
  shows the segments of the field (`highlightInto?_eq`), whatever the marks are. A snippet is what
  is written so between the ellipses (`exists_highlightInto?_window`).
* `insertedSlice field w texts`: the characters of `field` in the window `w`, each of `texts` before
  the character at its position. If the positions do not decrease, the first text cuts the window in
  two (`insertedSlice_cons`).
* `cuts_exact_highlight_adds_tags`: a cut holds the characters at its positions and goes from one
  boundary of the text to another, and two cuts that meet are one. So a window with its marks in
  order is written with its characters as they are, and with the tags of the marks among them.
-/

namespace SearchPanel

open Text

variable {field out tag : List Char} {texts : List (Nat × List Char)} {marks : List Span}
  {m w : Span} {a b k p stop : Nat}

/-! ## Writing -/

/-- A window that is being written: what stands there so far, and the position up to which the
window has been written. -/
structure Writing where
  out : List Char
  last : Nat

/-- Writes the characters up to a mark, and the mark between its tags. -/
def Writing.mark? (field : List Char) (s : Writing) (m : Span) : Option Writing := do
  let before ← cutOut? field s.last m.first
  let inside ← cutOut? field m.first m.stop
  return ⟨s.out ++ before ++ markOpen ++ inside ++ markClose, m.stop⟩

/-- Writes the window `w` of `field` behind `out`, each of `marks` between its tags; `none` if a cut
fails. -/
def highlightInto? (out field : List Char) (w : Span) (marks : List Span) :
    Option (List Char) := do
  let s ← marks.foldlM (Writing.mark? field) ⟨out, w.first⟩
  let rest ← cutOut? field s.last w.stop
  return s.out ++ rest

theorem Writing.mark?_eq (field : List Char) (s : Writing) (m : Span) :
    s.mark? field m = some ⟨s.out ++ slice field s.last m.first ++ markOpen ++
      slice field m.first m.stop ++ markClose, m.stop⟩ := by
  simp only [Writing.mark?, cutOut?_eq]
  rfl

theorem highlightInto?_nil (out field : List Char) (w : Span) :
    highlightInto? out field w [] = some (out ++ slice field w.first w.stop) := by
  simp only [highlightInto?, List.foldlM_nil, cutOut?_eq]
  rfl

/-- What a mark leaves to be written is the window behind it. -/
theorem highlightInto?_cons (out field : List Char) (a stop : Nat) (m : Span)
    (marks : List Span) : highlightInto? out field ⟨a, stop⟩ (m :: marks) =
      highlightInto? (out ++ slice field a m.first ++ markOpen ++ slice field m.first m.stop ++
        markClose) field ⟨m.stop, stop⟩ marks := by
  rw [highlightInto?, List.foldlM_cons, Writing.mark?_eq]
  rfl

/-- A window is always written, with the segments that its field is cut into. -/
theorem highlightInto?_eq (out field : List Char) (w : Span) (marks : List Span) :
    highlightInto? out field w marks =
      some (out ++ (segments field w.first w.stop marks).flatMap Segment.render) := by
  obtain ⟨a, stop⟩ := w
  induction marks generalizing out a with
  | nil =>
    rw [highlightInto?_nil]
    simp [segments, Segment.render]
  | cons m marks ih =>
    rw [highlightInto?_cons, ih]
    simp [segments, Segment.render]

/-- A snippet around the leftmost occurrence of its query is written so, and its marks are in
order. -/
theorem exists_highlightInto?_window {query : List Char} {hit : Span} {length : Nat}
    (hf : field ≠ []) (hq : query ≠ [])
    (h : (LoweredText.ofChars field).FirstHit (lowerChars query) hit)
    (hw : w = snippetWindow field.length hit.first length)
    (hmarks : marks = (LoweredText.ofChars field).occurrences (lowerChars query) w.first w.stop) :
    InOrder w marks ∧ ∃ shown,
      highlightInto? (if 0 < w.first then ellipsis else []) field w marks = some shown ∧
        (excerpt field query length).render =
          shown ++ if w.stop < field.length then ellipsis else [] := by
  subst hmarks
  obtain ⟨-, -, hstop, -⟩ := snippetWindow_bounds h.lt_length hw
  refine ⟨(marking_window field _ hstop).inOrder, _, highlightInto?_eq _ field w _, ?_⟩
  rw [excerpt_of_firstHit hq h hw hf, Excerpt.render]
  simp only [decide_eq_true_eq]

/-! ## Texts put among characters -/

/-- Those of `texts` that stand before position `k`. -/
def textsAt (texts : List (Nat × List Char)) (k : Nat) : List Char :=
  texts.flatMap fun t => if t.1 = k then t.2 else []

/-- The characters of `field` in the window `w`, each of `texts` before the character at its
position or, at the end of the window, behind the last. -/
def insertedSlice (field : List Char) (w : Span) (texts : List (Nat × List Char)) : List Char :=
  ((List.range' w.first (w.stop - w.first)).flatMap fun k =>
    textsAt texts k ++ field[k]?.toList) ++ textsAt texts w.stop

/-- The tags of marks, each with the position that it stands before. -/
def tagsOf (marks : List Span) : List (Nat × List Char) :=
  marks.flatMap fun m => [(m.first, markOpen), (m.stop, markClose)]

theorem textsAt_cons (p : Nat) (tag : List Char) (texts : List (Nat × List Char)) (k : Nat) :
    textsAt ((p, tag) :: texts) k = (if p = k then tag else []) ++ textsAt texts k := rfl

theorem textsAt_eq_nil (h : ∀ t ∈ texts, k < t.1) : textsAt texts k = [] := by
  refine List.flatMap_eq_nil_iff.2 fun t ht => if_neg ?_
  have := h t ht
  omega

theorem insertedSlice_nil (field : List Char) (w : Span) :
    insertedSlice field w [] = slice field w.first w.stop := by
  rw [slice, take_drop_eq_flatMap]
  exact List.append_nil _

/-- What stands in front of the first text is the field as it is. -/
theorem insertedSlice_eq_append (hab : a ≤ b) (hbs : b ≤ stop) (h : ∀ t ∈ texts, b ≤ t.1) :
    insertedSlice field ⟨a, stop⟩ texts =
      slice field a b ++ insertedSlice field ⟨b, stop⟩ texts := by
  have hlen : stop - a = (b - a) + (stop - b) := by omega
  have hb : a + (b - a) = b := by omega
  have hfront : ∀ k ∈ List.range' a (b - a), textsAt texts k ++ field[k]?.toList =
      field[k]?.toList := by
    intro k hk
    rw [List.mem_range'_1] at hk
    have hnone : textsAt texts k = [] := textsAt_eq_nil fun t ht => by
      have := h t ht
      omega
    rw [hnone, List.nil_append]
  simp only [insertedSlice, hlen]
  rw [← List.range'_append_1, hb, List.flatMap_append, List.flatMap_congr hfront, slice,
    take_drop_eq_flatMap, List.append_assoc]

/-- A text at the beginning of the window stands in front of all the rest. -/
theorem insertedSlice_cons_self (hps : p ≤ stop) :
    insertedSlice field ⟨p, stop⟩ ((p, tag) :: texts) =
      tag ++ insertedSlice field ⟨p, stop⟩ texts := by
  obtain ⟨n, rfl⟩ := Nat.exists_eq_add_of_le hps
  simp only [insertedSlice, textsAt_cons, Nat.add_sub_cancel_left, List.append_assoc]
  cases n with
  | zero => simp
  | succ n => rw [flatMap_first, if_neg (by omega), List.nil_append, List.append_assoc]

/-- The first text cuts the window in two. -/
theorem insertedSlice_cons (hap : a ≤ p) (hps : p ≤ stop) (h : ∀ t ∈ texts, p ≤ t.1) :
    insertedSlice field ⟨a, stop⟩ ((p, tag) :: texts) =
      slice field a p ++ (tag ++ insertedSlice field ⟨p, stop⟩ texts) := by
  have hall : ∀ t ∈ (p, tag) :: texts, p ≤ t.1 := List.forall_mem_cons.2 ⟨Nat.le_refl p, h⟩
  rw [insertedSlice_eq_append hap hps hall, insertedSlice_cons_self hps]

/-! ## The tags of marks -/

theorem tagsOf_cons (m : Span) (marks : List Span) :
    tagsOf (m :: marks) = (m.first, markOpen) :: (m.stop, markClose) :: tagsOf marks := rfl

theorem InOrder.le_of_mem_tagsOf (h : InOrder w marks) {t : Nat × List Char}
    (ht : t ∈ tagsOf marks) : w.first ≤ t.1 := by
  obtain ⟨m, hm, ht⟩ := List.mem_flatMap.1 ht
  obtain ⟨hf, hms, -⟩ := h.inside m hm
  rcases List.mem_pair.1 ht with rfl | rfl
  · exact hf
  · exact Nat.le_trans hf hms

/-- A field cut at marks in order shows the window with their tags before the characters at which
they begin and end. -/
theorem InOrder.render_segments (h : InOrder ⟨a, stop⟩ marks) (field : List Char) :
    (segments field a stop marks).flatMap Segment.render =
      insertedSlice field ⟨a, stop⟩ (tagsOf marks) := by
  induction marks generalizing a with
  | nil =>
    rw [tagsOf, List.flatMap_nil, insertedSlice_nil]
    simp [segments, Segment.render]
  | cons m marks ih =>
    obtain ⟨hf, hms, hs⟩ := h.inside m List.mem_cons_self
    have hrest : ∀ t ∈ tagsOf marks, m.stop ≤ t.1 := fun t => h.tail.le_of_mem_tagsOf
    have hclose : ∀ t ∈ (m.stop, markClose) :: tagsOf marks, m.first ≤ t.1 :=
      List.forall_mem_cons.2 ⟨hms, fun t ht => Nat.le_trans hms (hrest t ht)⟩
    rw [tagsOf_cons, insertedSlice_cons hf (Nat.le_trans hms hs) hclose,
      insertedSlice_cons hms hs hrest, ← ih h.tail]
    simp [segments, Segment.render]

/-! ## Main result -/

/-- The characters of a slice are those at its positions, as far as there are any. -/
theorem slice_eq_filterMap (text : List Char) (a b : Nat) :
    slice text a b = (List.range' a (b - a)).filterMap (text[·]?) := by
  rw [slice, take_drop_eq_flatMap, List.filterMap_eq_flatMap_toList]

/-- **Cuts by characters, and a window written with them.** A cut never fails: it goes from one
boundary of the text to another and holds the characters at its positions, as far as there are any.
Cuts that meet make one cut. A window whose marks are in order is written behind what stands there,
its characters as they are, and nothing among them but the tags of the marks. -/
theorem cuts_exact_highlight_adds_tags (text : List Char) :
    (∀ a b,
      cutOut? text a b = some (slice text a b) ∧
      slice text a b = (List.range' a (b - a)).filterMap (text[·]?) ∧
      (b ≤ a → cutOut? text a b = some []) ∧
      (cutPlaces text a b).1 ≤ (cutPlaces text a b).2 ∧
      (String.Pos.Raw.mk (cutPlaces text a b).1).IsValid (String.ofList text) ∧
      (String.Pos.Raw.mk (cutPlaces text a b).2).IsValid (String.ofList text)) ∧
    (∀ a b c, a ≤ b → b ≤ c → ∃ front back,
      cutOut? text a b = some front ∧ cutOut? text b c = some back ∧
        cutOut? text a c = some (front ++ back)) ∧
    (∀ out w marks, InOrder w marks → ∃ segs,
      segs = segments text w.first w.stop marks ∧
      highlightInto? out text w marks = some (out ++ segs.flatMap Segment.render) ∧
      segs.flatMap Segment.render = insertedSlice text w (tagsOf marks) ∧
      cutOut? text w.first w.stop = some (segs.flatMap Segment.text)) := by
  refine ⟨fun a b => ⟨cutOut?_eq text a b, slice_eq_filterMap text a b, fun hba => ?_, ?_⟩,
    fun a b c hab hbc => ?_, fun out w marks h => ?_⟩
  · rw [cutOut?_eq, slice_eq_nil_of_le text hba]
  · rw [cutPlaces_eq]
    exact ⟨byteLength_take_le text (Nat.le_max_left a b), isValid_byteLength_take text a,
      isValid_byteLength_take text (max a b)⟩
  · refine ⟨slice text a b, slice text b c, cutOut?_eq text a b, cutOut?_eq text b c, ?_⟩
    rw [cutOut?_eq, slice_append_slice text hab hbc]
  · refine ⟨_, rfl, highlightInto?_eq out text w marks, h.render_segments text, ?_⟩
    rw [cutOut?_eq, text_segments h]

/-- A mark of two characters with more than one byte, an empty mark behind it, and a mark and a
window that reach behind the end of the text. -/
theorem cuts_exact_highlight_adds_tags_behind_end :
    InOrder ⟨1, 9⟩ [⟨1, 3⟩, ⟨3, 3⟩, ⟨4, 6⟩] ∧
    cutOut? "hé😀lo".toList 1 3 = some "é😀".toList ∧
    cutOut? "hé😀lo".toList 3 9 = some "lo".toList ∧
    cutOut? "hé😀lo".toList 1 9 = some ("é😀".toList ++ "lo".toList) ∧
    cutOut? "hé😀lo".toList 9 7 = some [] ∧
    highlightInto? "...".toList "hé😀lo".toList ⟨1, 9⟩ [⟨1, 3⟩, ⟨3, 3⟩, ⟨4, 6⟩] =
      some "...<mark>é😀</mark><mark></mark>l<mark>o</mark>".toList := by
  have horder : InOrder ⟨1, 9⟩ [⟨1, 3⟩, ⟨3, 3⟩, ⟨4, 6⟩] := ⟨by decide, by decide⟩
  obtain ⟨hcut, hmeet, hwrite⟩ := cuts_exact_highlight_adds_tags "hé😀lo".toList
  obtain ⟨front, back, hfront, hback, hboth⟩ := hmeet 1 3 9 (by decide) (by decide)
  have hleft : some front = some "é😀".toList := hfront.symm.trans ((hcut 1 3).1.trans (by decide))
  have hright : some back = some "lo".toList := hback.symm.trans ((hcut 3 9).1.trans (by decide))
  obtain rfl := Option.some.inj hleft
  obtain rfl := Option.some.inj hright
  obtain ⟨segs, rfl, hshow, -⟩ := hwrite "...".toList _ _ horder
  exact ⟨horder, hfront, hback, hboth, (hcut 9 7).2.2.1 (by decide), hshow.trans (by decide)⟩

end SearchPanel
