import SearchPanel.Proofs.Snippet.Markup

/-!
# The window of a snippet and its marks

* `snippet_shape`: a snippet shows the window around the leftmost occurrence of the query, character
  for character, with tags around nonempty disjoint spans of it and ellipses where text was cut off.
  Without an occurrence it shows the beginning of the field.
* `marks_eq_filter_occurrences`: the marks are the spans of the whole field that end inside of the
  window. There is one exactly when the leftmost occurrence ends there, and it does when the lowered
  query fits behind the middle of the window.
-/

namespace SearchPanel

variable {field query needle : List Char} {hit w : Span} {length : Nat}

namespace LoweredText.FirstHit

theorem lt_length (h : (ofChars field).FirstHit needle hit) : hit.first < field.length := by
  obtain ⟨o, -, hc⟩ := h
  have := hc.first.lt_charCount
  rwa [charCount_ofChars] at this

/-- The leftmost occurrence has at most as many source characters as lowered ones. -/
theorem stop_le (h : (ofChars field).FirstHit needle hit) (hn : needle ≠ []) :
    hit.stop ≤ hit.first + needle.length := by
  obtain ⟨o, -, hc⟩ := h
  exact hc.stop_le (fun _ => Text.ne_nil_of_mem_pieces) (List.length_pos_iff.2 hn)

theorem stop_le_length (h : (ofChars field).FirstHit needle hit) : hit.stop ≤ field.length := by
  obtain ⟨o, -, hc⟩ := h
  obtain ⟨k, hk, he⟩ := hc.last
  have := hk.lt_charCount
  rw [charCount_ofChars] at this
  omega

end LoweredText.FirstHit

/-! ## The window -/

/-- The window around a position of the field lies in the field, and holds the position unless it is
empty. -/
theorem snippetWindow_bounds {count i : Nat} (hi : i < count)
    (hw : w = snippetWindow count i length) :
    w.first ≤ i ∧ w.first ≤ w.stop ∧ w.stop ≤ count ∧ w.stop ≤ w.first + length ∧
      (1 ≤ length → i < w.stop) := by
  subst hw
  simp only [snippetWindow]
  omega

/-- What fits behind the middle of the window ends inside of it. -/
theorem le_stop_snippetWindow {count i n stop : Nat} (hc : stop ≤ count) (hs : stop ≤ i + n)
    (hn : n ≤ length - length / 2) (hw : w = snippetWindow count i length) : stop ≤ w.stop := by
  subst hw
  simp only [snippetWindow]
  omega

/-- The spans found in a window are marks of it. -/
theorem marking_window (field needle : List Char) (hw : w.stop ≤ field.length) :
    Marking w ((LoweredText.ofChars field).occurrences needle w.first w.stop) := by
  have h := LoweredText.marking_occurrences (LoweredText.ofChars field) needle w.first w.stop
  rwa [LoweredText.charCount_ofChars, Nat.min_eq_left hw] at h

/-! ## The excerpt -/

theorem toList_snippet (field query : String) (length : Nat) :
    (snippet field query length).toList = (excerpt field.toList query.toList length).render := by
  rw [snippet, String.toList_ofList]

/-- The excerpt of a field in which the query does not occur. -/
theorem excerpt_of_not_occurs (hf : field ≠ []) (hq : query ≠ [])
    (h : ¬ Text.lowerChars query <:+: Text.lowerChars field) :
    excerpt field query length = opening field length := by
  have he : (field.isEmpty || query.isEmpty) = false := by simp [hf, hq]
  have hnone : (LoweredText.ofChars field).find (Text.lowerChars query) = none :=
    LoweredText.find_eq_none h
  simp only [excerpt, he, hnone]
  rfl

section Occurrence

variable (hq : query ≠ [])
  (h : (LoweredText.ofChars field).FirstHit (Text.lowerChars query) hit)
  (hw : w = snippetWindow field.length hit.first length)

include hq h hw

/-- The window shows the spans of the whole field that end inside of it. -/
theorem occurrences_window :
    (LoweredText.ofChars field).occurrences (Text.lowerChars query) w.first w.stop =
      ((LoweredText.ofChars field).occurrences (Text.lowerChars query) 0 field.length).filter
        (·.stop ≤ w.stop) := by
  obtain ⟨hfirst, -, hstop, -⟩ := snippetWindow_bounds h.lt_length hw
  rw [← LoweredText.charCount_ofChars] at hstop ⊢
  exact LoweredText.occurrences_eq_filter h (Text.lowerChars_ne_nil hq) hfirst hstop

/-- The window shows the leftmost occurrence first, or nothing. -/
theorem occurrences_window_cases :
    (hit.stop ≤ w.stop ∧ ∃ rest,
      (LoweredText.ofChars field).occurrences (Text.lowerChars query) w.first w.stop =
        hit :: rest) ∨
    (w.stop < hit.stop ∧
      (LoweredText.ofChars field).occurrences (Text.lowerChars query) w.first w.stop = []) := by
  obtain ⟨rest, hcons⟩ := LoweredText.occurrences_eq_cons h (Text.lowerChars_ne_nil hq)
  have hmark := LoweredText.marking_occurrences (LoweredText.ofChars field)
    (Text.lowerChars query) 0 (LoweredText.ofChars field).charCount
  rw [hcons] at hmark
  rw [LoweredText.charCount_ofChars] at hcons
  rw [occurrences_window hq h hw, hcons]
  rcases Nat.lt_or_ge w.stop hit.stop with hlt | hge
  · refine .inr ⟨hlt, List.filter_eq_nil_iff.2 fun m hm => ?_⟩
    -- Every later span begins behind the leftmost one.
    have hle : hit.stop ≤ m.stop := by
      rcases List.mem_cons.1 hm with rfl | hmem
      · exact Nat.le_refl _
      · have := (List.pairwise_cons.1 hmark.ordered).1 m hmem
        have := hmark.nonempty m hm
        omega
    simp only [decide_eq_true_eq]
    omega
  · exact .inl ⟨hge, _, List.filter_cons_of_pos (by simpa using hge)⟩

variable (hf : field ≠ [])

include hf

/-- The excerpt of a field in which the query occurs. -/
theorem excerpt_of_firstHit : excerpt field query length =
    { cutBefore := 0 < w.first
      segments := segments field w.first w.stop
        ((LoweredText.ofChars field).occurrences (Text.lowerChars query) w.first w.stop)
      cutAfter := w.stop < field.length } := by
  have he : (field.isEmpty || query.isEmpty) = false := by simp [hf, hq]
  simp only [excerpt, he, h.find_eq (Text.lowerChars_ne_nil hq), ← hw]
  rfl

/-- The excerpt shows its window with the tags of the spans found there. -/
theorem render_excerpt : (excerpt field query length).render =
    (if 0 < w.first then ellipsis else []) ++
      taggedSlice field w ((LoweredText.ofChars field).occurrences (Text.lowerChars query)
        w.first w.stop) ++
      (if w.stop < field.length then ellipsis else []) := by
  obtain ⟨-, -, hstop, -⟩ := snippetWindow_bounds h.lt_length hw
  rw [excerpt_of_firstHit hq h hw hf, Excerpt.render]
  simp only [decide_eq_true_eq]
  rw [render_segments (marking_window field _ hstop)]

/-- The characters of the excerpt are those of its window. -/
theorem text_excerpt : (excerpt field query length).text = slice field w.first w.stop := by
  obtain ⟨-, -, hstop, -⟩ := snippetWindow_bounds h.lt_length hw
  rw [excerpt_of_firstHit hq h hw hf, Excerpt.text]
  exact text_segments (marking_window field _ hstop).inOrder

theorem marks_excerpt : (excerpt field query length).marks w.first =
    (LoweredText.ofChars field).occurrences (Text.lowerChars query) w.first w.stop := by
  obtain ⟨-, -, hstop, -⟩ := snippetWindow_bounds h.lt_length hw
  rw [excerpt_of_firstHit hq h hw hf, Excerpt.marks]
  exact markSpans_segments (marking_window field _ hstop) hstop

end Occurrence

/-! ## Main results -/

/-- **Shape of a snippet.** Where the query occurs, the snippet is the window around the source
character `i` that holds the start of its leftmost occurrence, with tags around nonempty disjoint
spans, and with ellipses where the window leaves something out. Elsewhere it is the beginning of the
field. -/
theorem snippet_shape (field query : String) (length : Nat) (hf : field ≠ "") (hq : query ≠ "") :
    (Text.lowerChars query.toList <:+: Text.lowerChars field.toList →
      ∃ o i first stop marks,
        Text.Leftmost (Text.lowerChars query.toList) (Text.lowerChars field.toList) o ∧
        (LoweredText.ofChars field.toList).Holds i o ∧
        first = i - length / 2 ∧ stop = min field.length (first + length) ∧
        Marking ⟨first, stop⟩ marks ∧
        (snippet field query length).toList =
          (if 0 < first then ellipsis else []) ++ taggedSlice field.toList ⟨first, stop⟩ marks ++
            (if stop < field.length then ellipsis else []) ∧
        (snippet field query length).toList =
          (excerpt field.toList query.toList length).render ∧
        (excerpt field.toList query.toList length).marks first = marks ∧
        (excerpt field.toList query.toList length).text = slice field.toList first stop ∧
        (excerpt field.toList query.toList length).text.length ≤ length ∧
        (1 ≤ length → first ≤ i ∧ i < stop)) ∧
    (¬ Text.lowerChars query.toList <:+: Text.lowerChars field.toList →
      (snippet field query length).toList =
        if field.length ≤ length then field.toList else field.toList.take length ++ ellipsis) := by
  have hf' : field.toList ≠ [] := by simpa using hf
  have hq' : query.toList ≠ [] := by simpa using hq
  have hcount : field.toList.length = field.length := String.length_toList
  constructor
  · intro hocc
    obtain ⟨hit, h⟩ := LoweredText.exists_firstHit (t := LoweredText.ofChars field.toList)
      (Text.lowerChars_ne_nil hq') hocc
    obtain ⟨o, ho, hc⟩ := id h
    obtain ⟨w, hw⟩ : ∃ w, w = snippetWindow field.toList.length hit.first length := ⟨_, rfl⟩
    obtain ⟨hle, -, hstop, hlen, hlt⟩ := snippetWindow_bounds h.lt_length hw
    have hmark := marking_window field.toList (Text.lowerChars query.toList) hstop
    have htext := text_excerpt hq' h hw hf'
    refine ⟨o, hit.first, w.first, w.stop, _, ho, hc.first, by rw [hw]; rfl,
      by rw [hw, ← hcount]; rfl, hmark, ?_, toList_snippet field query length,
      marks_excerpt hq' h hw hf', htext, ?_, fun hl => ⟨hle, hlt hl⟩⟩
    · rw [toList_snippet, render_excerpt hq' h hw hf', hcount]
    · rw [htext]
      have := length_slice_le field.toList w.first w.stop
      omega
  · intro hocc
    rw [toList_snippet, excerpt_of_not_occurs hf' hq' hocc, opening, Excerpt.render]
    simp only [decide_eq_true_eq, List.flatMap_cons, List.flatMap_nil, List.append_nil,
      Segment.render, Bool.false_eq_true, ↓reduceIte, List.nil_append, hcount]
    by_cases hl : field.length ≤ length
    · rw [if_neg (by omega), if_pos hl, List.take_of_length_le (by omega), List.append_nil]
    · rw [if_pos (by omega), if_neg hl]

/-- A capital with two lowered characters at both ends of the query, in a window that is cut off on
both sides. -/
theorem snippet_shape_dotted : "xx İaİaİaİ" ≠ "" ∧ "İAİ" ≠ "" ∧
    Text.lowerChars "İAİ".toList <:+: Text.lowerChars "xx İaİaİaİ".toList ∧
    ∃ marks, Marking ⟨1, 6⟩ marks ∧ (snippet "xx İaİaİaİ" "İAİ" 5).toList =
      ellipsis ++ taggedSlice "xx İaİaİaİ".toList ⟨1, 6⟩ marks ++ ellipsis := by
  have hf : "xx İaİaİaİ" ≠ "" := by decide
  have hq : "İAİ" ≠ "" := by decide
  have hocc : Text.lowerChars "İAİ".toList <:+: Text.lowerChars "xx İaİaİaİ".toList :=
    Text.occursIn_iff.1 (by decide)
  obtain ⟨o, i, first, stop, marks, ho, hi, rfl, rfl, hmark, hshow, -⟩ :=
    (snippet_shape _ _ 5 hf hq).1 hocc
  obtain rfl : o = 3 := ho.unique ⟨by decide, by decide⟩
  obtain rfl : i = 3 := hi.unique ⟨by decide, by decide⟩
  exact ⟨hf, hq, hocc, marks, hmark, hshow⟩

/-- **Marks of a snippet.** They are the spans of the whole field that end inside of the window. -/
theorem marks_eq_filter_occurrences (field query : String) (length : Nat) (hf : field ≠ "")
    (hq : query ≠ "")
    (hocc : Text.lowerChars query.toList <:+: Text.lowerChars field.toList) :
    ∃ hit first stop,
      (LoweredText.ofChars field.toList).FirstHit (Text.lowerChars query.toList) hit ∧
      first = hit.first - length / 2 ∧ stop = min field.length (first + length) ∧
      (excerpt field.toList query.toList length).marks first =
        ((LoweredText.ofChars field.toList).occurrences (Text.lowerChars query.toList) 0
          field.length).filter (·.stop ≤ stop) ∧
      (∀ m ∈ ((excerpt field.toList query.toList length).marks first).head?,
        m.first = hit.first) ∧
      ((excerpt field.toList query.toList length).marks first ≠ [] ↔ hit.stop ≤ stop) ∧
      ((Text.lowerChars query.toList).length ≤ length - length / 2 → hit.stop ≤ stop) := by
  have hf' : field.toList ≠ [] := by simpa using hf
  have hq' : query.toList ≠ [] := by simpa using hq
  have hn := Text.lowerChars_ne_nil hq'
  have hcount : field.toList.length = field.length := String.length_toList
  obtain ⟨hit, h⟩ := LoweredText.exists_firstHit (t := LoweredText.ofChars field.toList) hn hocc
  obtain ⟨w, hw⟩ : ∃ w, w = snippetWindow field.toList.length hit.first length := ⟨_, rfl⟩
  have hmarks := marks_excerpt hq' h hw hf'
  have hcases := occurrences_window_cases hq' h hw
  refine ⟨hit, w.first, w.stop, h, by rw [hw]; rfl, by rw [hw, ← hcount]; rfl, ?_, ?_, ?_,
    fun hl => le_stop_snippetWindow h.stop_le_length (h.stop_le hn) hl hw⟩
  · rw [hmarks, occurrences_window hq' h hw, hcount]
  · rw [hmarks]
    rcases hcases with ⟨-, rest, hcons⟩ | ⟨-, hnil⟩
    · simp [hcons]
    · simp [hnil]
  · rw [hmarks]
    rcases hcases with ⟨hle, rest, hcons⟩ | ⟨hlt, hnil⟩
    · simp [hcons, hle]
    · simp [hnil, hlt]

/-- The second occurrence in the field ends behind the window. -/
theorem marks_eq_filter_occurrences_dotted : "xx İaİaİaİ" ≠ "" ∧ "İAİ" ≠ "" ∧
    Text.lowerChars "İAİ".toList <:+: Text.lowerChars "xx İaİaİaİ".toList ∧
    (LoweredText.ofChars "xx İaİaİaİ".toList).occurrences (Text.lowerChars "İAİ".toList) 0 10 =
      [⟨3, 6⟩, ⟨7, 10⟩] ∧
    (excerpt "xx İaİaİaİ".toList "İAİ".toList 5).marks 1 = [⟨3, 6⟩] := by
  have hf : "xx İaİaİaİ" ≠ "" := by decide
  have hq : "İAİ" ≠ "" := by decide
  have hocc : Text.lowerChars "İAİ".toList <:+: Text.lowerChars "xx İaİaİaİ".toList :=
    Text.occursIn_iff.1 (by decide)
  obtain ⟨hit, first, stop, h, rfl, rfl, hmarks, -⟩ :=
    marks_eq_filter_occurrences _ _ 5 hf hq hocc
  obtain rfl : hit = ⟨3, 6⟩ := h.unique
    ⟨3, ⟨by decide, by decide⟩, ⟨by decide, by decide⟩, 5, ⟨by decide, by decide⟩, rfl⟩
  have hall : (LoweredText.ofChars "xx İaİaİaİ".toList).occurrences
      (Text.lowerChars "İAİ".toList) 0 10 = [⟨3, 6⟩, ⟨7, 10⟩] := by decide
  refine ⟨hf, hq, hocc, hall, ?_⟩
  exact hmarks.trans (congrArg (List.filter _) hall)

end SearchPanel
