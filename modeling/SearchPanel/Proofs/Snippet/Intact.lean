import SearchPanel.Proofs.LoweredText.Scan
import SearchPanel.Proofs.Snippet.Window
import SearchPanel.Proofs.Text.Reference

/-!
# Markup in a snippet

The text of a field may carry character references and tags. The marks and the window of a snippet
are placed on its characters alone, so they can fall inside of either (`snippet_cuts_markup`).

* `shown field query length`: the window of a field that its snippet shows. `shown_spec`,
  `marking_shown` and `cut_shown` say what the snippet does with it, whether the query occurs or
  not.
* `Intact field query length s`: no tag that the snippet inserts and no edge of its window falls
  strictly inside of `s`. What is intact stands unbroken in the snippet, or not at all
  (`Intact.infix_render`).
* `intact_iff`: a stretch of the field is intact exactly if no span found in the field that ends
  inside of the window begins or ends strictly inside of it, and no edge lies there. In a character
  reference a span begins or ends only if the query does so with a character of references
  (`not_cutAt_of_isReference`).
-/

namespace SearchPanel

open Text

variable {field query piece needle text : List Char} {s m w : Span} {marks : List Span}
  {length a : Nat}

/-- The window of `field` that its snippet for `query` shows. -/
def shown (field query : List Char) (length : Nat) : Span :=
  if query.isEmpty then ⟨0, 0⟩
  else
    match (LoweredText.ofChars field).find (lowerChars query) with
    | none => ⟨0, min field.length length⟩
    | some i => snippetWindow field.length i length

/-- Nothing that a snippet does to `field` falls strictly inside of `s`: no inserted tag and no edge
of the window. -/
structure Intact (field query : List Char) (length : Nat) (s : Span) : Prop where
  marks : ∀ m ∈ (excerpt field query length).marks (shown field query length).first,
    ¬ s.CutAt m.first ∧ ¬ s.CutAt m.stop
  edges : ¬ s.CutAt (shown field query length).first ∧ ¬ s.CutAt (shown field query length).stop

/-! ## What a snippet shows -/

/-- A snippet shows nothing, or the opening of a field without the query, or the window around the
leftmost occurrence. -/
theorem shown_cases (field query : List Char) (length : Nat) :
    ((field = [] ∨ query = []) ∧ excerpt field query length = {} ∧
      shown field query length = ⟨0, 0⟩) ∨
    (¬ lowerChars query <:+: lowerChars field ∧
      excerpt field query length = opening field length ∧
      shown field query length = ⟨0, min field.length length⟩) ∨
    ∃ hit, field ≠ [] ∧ query ≠ [] ∧
      (LoweredText.ofChars field).FirstHit (lowerChars query) hit ∧
      shown field query length = snippetWindow field.length hit.first length := by
  by_cases hq : query = []
  · refine .inl ⟨.inr hq, ?_, ?_⟩
    · simp [excerpt, hq]
    · simp [shown, hq]
  have hn := lowerChars_ne_nil hq
  have hif : query.isEmpty = false := by simpa using hq
  by_cases hocc : lowerChars query <:+: lowerChars field
  · obtain ⟨hit, h⟩ := LoweredText.exists_firstHit (t := LoweredText.ofChars field) hn hocc
    have hf : field ≠ [] := by
      rintro rfl
      exact hn (List.eq_nil_of_infix_nil hocc)
    refine .inr (.inr ⟨hit, hf, hq, h, ?_⟩)
    simp only [shown, hif, h.find_eq hn]
    rfl
  · have hnone : (LoweredText.ofChars field).find (lowerChars query) = none :=
      LoweredText.find_eq_none hocc
    have hshown : shown field query length = ⟨0, min field.length length⟩ := by
      simp only [shown, hif, hnone]
      rfl
    by_cases hf : field = []
    · refine .inl ⟨.inl hf, by simp [excerpt, hf], ?_⟩
      rw [hshown, hf, List.length_nil, Nat.zero_min]
    · exact .inr (.inl ⟨hocc, excerpt_of_not_occurs hf hq hocc, hshown⟩)

theorem text_opening (field : List Char) (length : Nat) :
    (opening field length).text = slice field 0 (min field.length length) := by
  rw [slice, List.drop_zero, Nat.sub_zero, Nat.min_comm, ← List.take_eq_take_min]
  simp [opening, Excerpt.text, Segment.text]

/-- A snippet shows the characters of its window, with what is put around each of its marks and
nothing else among them. The marks are the spans of the whole field that end inside of the
window. -/
theorem shown_spec (field query : List Char) (length : Nat) :
    let w := shown field query length
    let e := excerpt field query length
    e.text = slice field w.first w.stop ∧
    (∀ front back, e.segments.flatMap (Segment.wrapped front back) =
      wrappedSlice front back field w (e.marks w.first)) ∧
    e.marks w.first =
      ((LoweredText.ofChars field).occurrences (lowerChars query) 0 field.length).filter
        (·.stop ≤ w.stop) := by
  rcases shown_cases field query length with ⟨hempty, he, hw⟩ | ⟨hocc, he, hw⟩ |
    ⟨hit, hf, hq, h, hw⟩
  · have hnone :
        (LoweredText.ofChars field).occurrences (lowerChars query) 0 field.length = [] := by
      rcases hempty with rfl | rfl
      · exact occurrences_eq_nil (.inr (Nat.zero_le _))
      · exact occurrences_eq_nil (.inl rfl)
    simp only [hw, he, hnone]
    exact ⟨rfl, fun _ _ => rfl, rfl⟩
  · have hnone :
        (LoweredText.ofChars field).occurrences (lowerChars query) 0 field.length = [] := by
      refine occurrences_eq_nil_iff.2 (.inr ?_)
      rintro ⟨o, hs, -⟩
      exact hocc (infix_iff_exists_standsAt.2 ⟨o, hs⟩)
    have hplain : ∀ front back, (opening field length).segments.flatMap
        (Segment.wrapped front back) = (opening field length).text := fun _ _ => rfl
    simp only [hw, he, hnone]
    refine ⟨text_opening field length, fun front back => ?_, rfl⟩
    rw [hplain, text_opening]
    exact (wrappedSlice_nil front back field ⟨0, min field.length length⟩).symm
  · obtain ⟨-, -, hstop, -⟩ := snippetWindow_bounds h.lt_length hw
    have hmarks := marks_excerpt hq h hw hf
    refine ⟨text_excerpt hq h hw hf, fun front back => ?_,
      by rw [hmarks, occurrences_window hq h hw]⟩
    rw [hmarks, excerpt_of_firstHit hq h hw hf]
    exact wrapped_segments (marking_window field _ hstop)

/-- A snippet shows the tags of its marks among the characters of its window. -/
theorem render_shown (field query : List Char) (length : Nat) :
    (excerpt field query length).segments.flatMap Segment.render =
      taggedSlice field (shown field query length)
        ((excerpt field query length).marks (shown field query length).first) := by
  rw [Segment.render_eq_wrapped, taggedSlice_eq]
  exact (shown_spec field query length).2.1 markOpen markClose

/-- The marks of a snippet are disjoint stretches of its window. -/
theorem marking_shown (field query : List Char) (length : Nat) :
    Marking (shown field query length)
      ((excerpt field query length).marks (shown field query length).first) := by
  rcases shown_cases field query length with ⟨-, he, -⟩ | ⟨-, he, -⟩ | ⟨hit, hf, hq, h, hw⟩
  · rw [he]
    exact ⟨nofun, nofun, .nil⟩
  · rw [he]
    exact ⟨nofun, nofun, .nil⟩
  · obtain ⟨-, -, hstop, -⟩ := snippetWindow_bounds h.lt_length hw
    rw [marks_excerpt hq h hw hf]
    exact marking_window field _ hstop

/-- A snippet has an ellipsis where its window leaves something out. -/
theorem cut_shown (field query : List Char) (length : Nat) :
    let w := shown field query length
    let e := excerpt field query length
    (e.cutBefore = true ↔ query ≠ [] ∧ 0 < w.first) ∧
      (e.cutAfter = true ↔ query ≠ [] ∧ w.stop < field.length) := by
  rcases shown_cases field query length with ⟨hempty, he, hw⟩ | ⟨hocc, he, hw⟩ |
    ⟨hit, hf, hq, h, hw⟩
  · rcases hempty with rfl | rfl <;> simp [he, hw]
  · have hq : query ≠ [] := by
      rintro rfl
      exact hocc List.nil_infix
    have hmin : min field.length length < field.length ↔ length < field.length := by omega
    simp [he, hw, opening, hq, hmin]
  · simp [excerpt_of_firstHit hq h hw hf, hq]

/-! ## Intact stretches -/

/-- Where no tag stands strictly inside, the characters stand in one piece. -/
theorem slice_infix_taggedSlice (field : List Char) (hf : w.first ≤ s.first) (hs : s.stop ≤ w.stop)
    (h : ∀ m ∈ marks, ¬ s.CutAt m.first ∧ ¬ s.CutAt m.stop) :
    slice field s.first s.stop <:+: taggedSlice field w marks := by
  rcases Nat.lt_or_ge s.first s.stop with hlt | hge
  · have hpiece : slice field s.first s.stop <:+: taggedSlice field s marks := by
      rw [taggedSlice_eq, wrappedSlice_of_not_cutAt hlt h]
      exact List.infix_append _ _ _
    have hsplit : taggedSlice field w marks = taggedSlice field ⟨w.first, s.first⟩ marks ++
        taggedSlice field s marks ++ taggedSlice field ⟨s.stop, w.stop⟩ marks := by
      simp only [taggedSlice_eq]
      rw [List.append_assoc, ← wrappedSlice_append (Nat.le_of_lt hlt) hs,
        ← wrappedSlice_append hf (by omega)]
    rw [hsplit]
    exact hpiece.trans (List.infix_append _ _ _)
  · rw [slice_eq_nil_of_le field hge]
    exact List.nil_infix

/-- What is intact stands unbroken in the snippet, or not at all. -/
theorem Intact.infix_render (h : Intact field query length s) :
    s.stop ≤ (shown field query length).first ∨ (shown field query length).stop ≤ s.first ∨
      slice field s.first s.stop <:+: (excerpt field query length).render := by
  obtain ⟨hfirst, hstop⟩ := h.edges
  simp only [Span.CutAt] at hfirst hstop
  rcases Nat.lt_or_ge (shown field query length).first s.stop with hlt | hge
  · rcases Nat.lt_or_ge s.first (shown field query length).stop with hlt' | hge
    · refine .inr (.inr ?_)
      rw [Excerpt.render, render_shown]
      exact (slice_infix_taggedSlice field (by omega) (by omega) h.marks).trans
        (List.infix_append _ _ _)
    · exact .inr (.inl hge)
  · exact .inl hge

theorem intact_iff_of_marks : Intact field query length s ↔
    (∀ m ∈ (LoweredText.ofChars field).occurrences (lowerChars query) 0 field.length,
      m.stop ≤ (shown field query length).stop → ¬ s.CutAt m.first ∧ ¬ s.CutAt m.stop) ∧
    ¬ s.CutAt (shown field query length).first ∧ ¬ s.CutAt (shown field query length).stop := by
  obtain ⟨-, -, hmarks⟩ := shown_spec field query length
  constructor
  · intro h
    refine ⟨fun m hm hstop => h.marks m ?_, h.edges⟩
    rw [hmarks]
    exact List.mem_filter.2 ⟨hm, decide_eq_true hstop⟩
  · rintro ⟨hspans, hedges⟩
    refine ⟨fun m hm => ?_, hedges⟩
    rw [hmarks] at hm
    obtain ⟨hm, hstop⟩ := List.mem_filter.1 hm
    exact hspans m hm (of_decide_eq_true hstop)

/-- A field of at most half a window is shown from its first to its last character. -/
theorem not_cutAt_shown (hl : field.length ≤ length) (hhalf : field.length ≤ length / 2 + 1)
    (hs : s.stop ≤ field.length) :
    ¬ s.CutAt (shown field query length).first ∧ ¬ s.CutAt (shown field query length).stop := by
  rcases shown_cases field query length with ⟨-, -, hw⟩ | ⟨-, -, hw⟩ | ⟨hit, -, -, h, hw⟩
  · simp only [hw, Span.CutAt]
    omega
  · simp only [hw, Span.CutAt]
    omega
  · have hlt := h.lt_length
    simp only [hw, snippetWindow, Span.CutAt]
    omega

/-- A span that begins or ends strictly inside of a reference is one of a query that begins or ends
with a character of references. -/
theorem not_cutAt_of_isReference (href : IsReference piece) (hp : StandsAt piece text a)
    (hm : m ∈ (LoweredText.ofChars text).occurrences needle 0 text.length) :
    ((∀ c ∈ needle.head?, isReferenceChar c = false) →
      ¬ Span.CutAt ⟨a, a + piece.length⟩ m.first) ∧
    ((∀ c ∈ needle.getLast?, isReferenceChar c = false) →
      ¬ Span.CutAt ⟨a, a + piece.length⟩ m.stop) := by
  obtain ⟨o, hs, -, -, hcovers⟩ := exists_covers hm
  obtain ⟨l, hl, hstop⟩ := hcovers.last
  have hpos : 0 < needle.length := List.length_pos_iff.2 fun hn => by
    rw [occurrences_eq_nil (.inl hn)] at hm
    cases hm
  constructor
  · rintro hhead ⟨hlt, hgt⟩
    obtain ⟨d, hd, hchar⟩ := isReferenceChar_of_holds href hp (Nat.le_of_lt hlt) hgt hcovers.first
    have hget := hs.getElem? (i := 0) hpos
    rw [Nat.add_zero, ← List.head?_eq_getElem?] at hget
    exact absurd hchar (by rw [hhead d (hget.symm.trans hd)]; exact Bool.noConfusion)
  · rintro hlast ⟨hlt, hgt⟩
    simp only at hlt hgt
    obtain ⟨d, hd, hchar⟩ := isReferenceChar_of_holds href hp (by omega) (by omega) hl
    have hget := hs.getElem? (i := needle.length - 1) (by omega)
    rw [← Nat.add_sub_assoc hpos, ← List.getLast?_eq_getElem?] at hget
    exact absurd hchar (by rw [hlast d (hget.symm.trans hd)]; exact Bool.noConfusion)

/-! ## Main result -/

/-- **Markup in a snippet.** A snippet copies the characters of its window as they are; the tags of
its marks stand among them and nothing else. A piece of the field, be it a reference, a tag or
anything else, is intact exactly if none of the spans found in the whole field that end inside of
the window begins or ends strictly inside of it, and neither edge of the window lies there. Then it
stands unbroken in the snippet, or is left out of it. No span cuts a piece that no occurrence of the
lowered query cuts, and none begins or ends inside of a character reference if the lowered query
does not begin or end with a character of references. No edge cuts a piece of a field that fits half
a window. -/
theorem intact_iff (field query : String) (length : Nat) :
    let text := field.toList
    let needle := lowerChars query.toList
    let spans := (LoweredText.ofChars text).occurrences needle 0 text.length
    let e := excerpt text query.toList length
    let w := shown text query.toList length
    e.text = slice text w.first w.stop ∧
    (snippet field query length).toList = (if e.cutBefore then ellipsis else []) ++
      taggedSlice text w (e.marks w.first) ++ (if e.cutAfter then ellipsis else []) ∧
    ∀ piece a, StandsAt piece text a →
      let s : Span := ⟨a, a + piece.length⟩
      (Intact text query.toList length s ↔
        (∀ m ∈ spans, m.stop ≤ w.stop → ¬ s.CutAt m.first ∧ ¬ s.CutAt m.stop) ∧
          ¬ s.CutAt w.first ∧ ¬ s.CutAt w.stop) ∧
      (Intact text query.toList length s →
        s.stop ≤ w.first ∨ w.stop ≤ s.first ∨ piece <:+: (snippet field query length).toList) ∧
      ((∀ o m, StandsAt needle (lowerChars text) o →
          (LoweredText.ofChars text).Covers m o needle.length →
            ¬ s.CutAt m.first ∧ ¬ s.CutAt m.stop) →
        ∀ m ∈ spans, ¬ s.CutAt m.first ∧ ¬ s.CutAt m.stop) ∧
      (IsReference piece →
        ((∀ c ∈ needle.head?, isReferenceChar c = false) → ∀ m ∈ spans, ¬ s.CutAt m.first) ∧
        ((∀ c ∈ needle.getLast?, isReferenceChar c = false) → ∀ m ∈ spans, ¬ s.CutAt m.stop)) ∧
      (text.length ≤ length → text.length ≤ length / 2 + 1 →
        ¬ s.CutAt w.first ∧ ¬ s.CutAt w.stop) := by
  intro text needle spans e w
  obtain ⟨htext, -, -⟩ := shown_spec text query.toList length
  have hsnippet : (snippet field query length).toList = e.render := toList_snippet field query length
  refine ⟨htext, ?_, fun piece a hp => ⟨intact_iff_of_marks, fun h => ?_, fun hall m hm => ?_,
    fun href => ⟨fun hhead m hm => ?_, fun hlast m hm => ?_⟩, fun hl hhalf => ?_⟩⟩
  · rw [hsnippet, Excerpt.render, render_shown]
  · have hpiece : slice text a (a + piece.length) = piece := by
      rw [slice, Nat.add_sub_cancel_left]
      exact (List.prefix_iff_eq_take.1 hp).symm
    have hinfix := h.infix_render
    rwa [hpiece, ← hsnippet] at hinfix
  · obtain ⟨o, hs, -, -, hcovers⟩ := exists_covers hm
    exact hall o m hs hcovers
  · exact (not_cutAt_of_isReference href hp hm).1 hhead
  · exact (not_cutAt_of_isReference href hp hm).2 hlast
  · by_cases hne : piece = []
    · subst hne
      simp only [Span.CutAt, List.length_nil]
      omega
    · exact not_cutAt_shown hl hhalf (hp.add_length_le hne)

/-- A reference beside a letter with an accent, and a query that is this letter in upper case. -/
theorem intact_iff_accent :
    let text := "é&amp;".toList
    let piece := "&amp;".toList
    IsReference piece ∧ StandsAt piece text 1 ∧ Intact text "É".toList 140 ⟨1, 6⟩ ∧
      piece <:+: (snippet "é&amp;" "É" 140).toList := by
  intro text piece
  have href : IsReference piece := .named ['a', 'm', 'p'] (by decide) (by decide)
  have hp : StandsAt piece text 1 := by decide
  obtain ⟨-, -, hall⟩ := intact_iff "é&amp;" "É" 140
  obtain ⟨hiff, hinfix, -, hmarks, hedges⟩ := hall piece 1 hp
  obtain ⟨hfirst, hstop⟩ := hmarks href
  have hneedle : lowerChars "É".toList = ['é'] := by decide
  have hhead : ∀ c ∈ (lowerChars "É".toList).head?, isReferenceChar c = false := by
    rw [hneedle]
    rintro c ⟨⟩
    decide
  have hlast : ∀ c ∈ (lowerChars "É".toList).getLast?, isReferenceChar c = false := by
    rw [hneedle]
    rintro c ⟨⟩
    decide
  have hintact : Intact text "É".toList 140 ⟨1, 6⟩ :=
    hiff.2 ⟨fun m hm _ => ⟨hfirst hhead m hm, hstop hlast m hm⟩, hedges (by decide) (by decide)⟩
  refine ⟨href, hp, hintact, ?_⟩
  have hw : shown text "É".toList 140 = ⟨0, 6⟩ := by decide
  rcases hinfix hintact with hout | hout | hin
  · rw [hw] at hout
    exact absurd hout (by decide)
  · rw [hw] at hout
    exact absurd hout (by decide)
  · exact hin

/-- A query that is a part of a reference, in a window that begins and ends inside of the same
reference; and a query of one letter, which also stands in the names of tags. -/
theorem snippet_cuts_markup :
    (IsReference "&amp;".toList ∧ StandsAt "&amp;".toList "R&amp;D".toList 1 ∧
      (snippet "R&amp;D" "mp" 3).toList = "...a<mark>mp</mark>...".toList ∧
      Span.CutAt ⟨1, 6⟩ (shown "R&amp;D".toList "mp".toList 3).first ∧
      Span.CutAt ⟨1, 6⟩ (shown "R&amp;D".toList "mp".toList 3).stop ∧
      ¬ Intact "R&amp;D".toList "mp".toList 3 ⟨1, 6⟩) ∧
    IsTag "<em>".toList ∧ StandsAt "<em>".toList "<em>me</em>".toList 0 ∧
      (snippet "<em>me</em>" "m").toList =
        "<e<mark>m</mark>><mark>m</mark>e</e<mark>m</mark>>".toList ∧
      ¬ Intact "<em>me</em>".toList "m".toList defaultSnippetLength ⟨0, 4⟩ := by
  have hw : shown "R&amp;D".toList "mp".toList 3 = ⟨2, 5⟩ := by decide
  have hmark : ⟨2, 3⟩ ∈ (excerpt "<em>me</em>".toList "m".toList defaultSnippetLength).marks
      (shown "<em>me</em>".toList "m".toList defaultSnippetLength).first := by decide +kernel
  refine ⟨⟨.named ['a', 'm', 'p'] (by decide) (by decide), by decide, ?_, by rw [hw]; decide,
    by rw [hw]; decide, fun h => ?_⟩, .intro ['e', 'm'] (by decide), by decide, ?_, fun h => ?_⟩
  · rw [toList_snippet]
    decide +kernel
  · have hfirst := h.edges.1
    rw [hw] at hfirst
    exact hfirst (by decide)
  · rw [toList_snippet]
    decide +kernel
  · exact (h.marks ⟨2, 3⟩ hmark).1 (by decide)

end SearchPanel
