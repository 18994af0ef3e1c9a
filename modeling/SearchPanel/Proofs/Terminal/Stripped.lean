import SearchPanel.Proofs.Snippet.Intact
import SearchPanel.Proofs.Terminal.Markup

/-!
# Marks taken out

Without a style nothing is left of the marks of a text.

* `Stripped html text`: scanning `html` from the left, each first opening tag and the first closing
  tag behind it are left out, and nothing else. An opening tag that is never closed is left out by
  itself. `stripped_iff`: that is the text of the segments.
* `wrapped_pieces`: the segments of a snippet with the ellipses, with any two texts around the
  marked ones.
* `showMarkup_strips`: so marked-up text without references loses its tags and nothing else. Of a
  snippet the window remains, or the window with the style in the place of the tags.
-/

namespace SearchPanel

open Text (FirstCut)

variable {html text : List Char}

/-- `text` is `html` without its marks: without each first opening tag and the first closing tag
behind it, if there is one. -/
inductive Stripped : List Char → List Char → Prop
  | bare {html : List Char} (hopen : ¬ markOpen <:+: html) : Stripped html html
  | unclosed {html before inside : List Char} (hopen : FirstCut markOpen html before inside)
      (hclose : ¬ markClose <:+: inside) : Stripped html (before ++ inside)
  | closed {html before rest inside after text : List Char}
      (hopen : FirstCut markOpen html before rest) (hclose : FirstCut markClose rest inside after)
      (hafter : Stripped after text) : Stripped html (before ++ inside ++ text)

/-! ## Segments -/

theorem stripped_ofMarkup (html : List Char) :
    Stripped html ((Segment.ofMarkup html).flatMap Segment.text) := by
  fun_induction Segment.ofMarkup html with
  | case1 html hopen =>
    simpa [Segment.text] using Stripped.bare (Text.cut?_eq_none_iff.1 hopen)
  | case2 html before rest hopen hclose =>
    simpa [Segment.text] using
      Stripped.unclosed (Text.cut?_eq_some_iff.1 hopen) (Text.cut?_eq_none_iff.1 hclose)
  | case3 html before rest hopen inside after hclose hlt ih =>
    simpa [Segment.text] using
      Stripped.closed (Text.cut?_eq_some_iff.1 hopen) (Text.cut?_eq_some_iff.1 hclose) ih

theorem stripped_iff :
    Stripped html text ↔ (Segment.ofMarkup html).flatMap Segment.text = text := by
  refine ⟨fun h => ?_, fun h => h ▸ stripped_ofMarkup html⟩
  induction h with
  | bare hopen =>
    rw [ofMarkup_eq_plain (Text.cut?_eq_none_iff.2 hopen)]
    simp [Segment.text]
  | unclosed hopen hclose =>
    rw [ofMarkup_eq_unclosed (Text.cut?_eq_some_iff.2 hopen) (Text.cut?_eq_none_iff.2 hclose)]
    simp [Segment.text]
  | closed hopen hclose _ ih =>
    rw [ofMarkup_eq_marked (Text.cut?_eq_some_iff.2 hopen) (Text.cut?_eq_some_iff.2 hclose)]
    simp [Segment.text, ih]

theorem Segment.wrapped_nil : Segment.wrapped [] [] = Segment.text := by
  funext s
  cases s <;> simp [wrapped, text]

/-- Ellipses stand outside of what is put around the marks. -/
theorem wrapped_closePieces (front back before after : List Char) (segs : List Segment) :
    (closePieces before after segs).flatMap (Segment.wrapped front back) =
      before ++ segs.flatMap (Segment.wrapped front back) ++ after := by
  induction segs generalizing before with
  | nil => simp [closePieces, Segment.wrapped]
  | cons s rest ih =>
    cases s with
    | plain t => simp [closePieces, ih, Segment.wrapped]
    | marked t => simp [closePieces, ih, Segment.wrapped]

/-- The pieces of a snippet are its window, with `front` and `back` around its marks, and its
ellipses. -/
theorem wrapped_pieces (front back field query : List Char) (length : Nat) :
    let w := shown field query length
    let e := excerpt field query length
    e.pieces.flatMap (Segment.wrapped front back) =
      (if e.cutBefore then ellipsis else []) ++
        wrappedSlice front back field w (e.marks w.first) ++
        (if e.cutAfter then ellipsis else []) := by
  intro w e
  obtain ⟨-, hsegments, -⟩ := shown_spec field query length
  rw [Excerpt.pieces, wrapped_closePieces, hsegments]

namespace Terminal

/-! ## Text without references -/

theorem decodeEntities_of_mem_ofMarkup {s : Segment} (h : '&' ∉ html)
    (hs : s ∈ Segment.ofMarkup html) : decodeEntities s.text = s.text :=
  decodeEntities_of_not_mem fun hc => h (Segment.mem_of_mem_ofMarkup hs hc)

/-- Without a style nothing is put around a segment. -/
theorem showMarkup_none (h : '&' ∉ html) :
    showMarkup html none = (Segment.ofMarkup html).flatMap (Segment.wrapped [] []) := by
  refine List.flatMap_congr fun s hs => ?_
  rw [showSegment_none, decodeEntities_of_mem_ofMarkup h hs, Segment.wrapped_nil]

/-- A style is put around each marked segment. -/
theorem showMarkup_some (h : '&' ∉ html) (style : List Char) :
    showMarkup html (some style) =
      (Segment.ofMarkup html).flatMap (Segment.wrapped style reset) := by
  refine List.flatMap_congr fun s hs => ?_
  have htext := decodeEntities_of_mem_ofMarkup h hs
  cases s with
  | plain t => exact htext
  | marked t => exact congrArg (style ++ · ++ reset) htext

theorem showMarkup_none_eq_iff (h : '&' ∉ html) :
    showMarkup html none = text ↔ Stripped html text := by
  rw [showMarkup_none h, Segment.wrapped_nil, stripped_iff]

/-! ## Main result -/

/-- **Marks taken out.** Marked-up text without references loses its marks and nothing else. The
snippet of a field without tags and references is its window with tags around the marks, and
ellipses where the window leaves something out. Without a style the window remains, and in a style
the window with the style in front of each mark and its reset behind it. -/
theorem showMarkup_strips :
    (∀ html text, '&' ∉ html → (showMarkup html none = text ↔ Stripped html text)) ∧
    ∀ (field query : String) (length : Nat), '<' ∉ field.toList → '&' ∉ field.toList →
      let text := field.toList
      let e := excerpt text query.toList length
      let w := shown text query.toList length
      let marks := e.marks w.first
      let html := (snippet field query length).toList
      let withEllipses (inner : List Char) := (if e.cutBefore then ellipsis else []) ++ inner ++
        (if e.cutAfter then ellipsis else [])
      Marking w marks ∧
      (e.cutBefore = true ↔ query ≠ "" ∧ 0 < w.first) ∧
      (e.cutAfter = true ↔ query ≠ "" ∧ w.stop < text.length) ∧
      html = withEllipses (taggedSlice text w marks) ∧
      showMarkup html none = withEllipses (slice text w.first w.stop) ∧
      ∀ style, showMarkup html (some style) =
        withEllipses (wrappedSlice style reset text w marks) := by
  refine ⟨fun html text h => showMarkup_none_eq_iff h, fun field query length hlt hamp => ?_⟩
  intro text e w marks html withEllipses
  have hhtml : '&' ∉ html := not_mem_snippet hamp (by decide) query length
  have hpieces : Segment.ofMarkup html = e.pieces :=
    ofMarkup_snippet (untagged_of_not_mem hlt) query length
  have hrender : html = e.render := toList_snippet field query length
  have hwrapped : ∀ front back, e.pieces.flatMap (Segment.wrapped front back) =
      withEllipses (wrappedSlice front back text w marks) :=
    fun front back => wrapped_pieces front back text query.toList length
  have hcut := cut_shown text query.toList length
  have hquery : query.toList ≠ [] ↔ query ≠ "" := by simp
  simp only [hquery] at hcut
  refine ⟨marking_shown text query.toList length, hcut.1, hcut.2, ?_, ?_, fun style => ?_⟩
  · rw [hrender, Excerpt.render, render_shown]
  · rw [showMarkup_none hhtml, hpieces, hwrapped, wrappedSlice_bare]
  · rw [showMarkup_some hhtml, hpieces, hwrapped]

/-- Marks that follow each other, with a closing tag too many and a mark that is never closed; and a
window that two adjacent marks fill. -/
theorem showMarkup_strips_adjacent :
    let html := "a<mark>b</mark><mark></mark></mark>c<mark>d".toList
    '&' ∉ html ∧ showMarkup html none = "ab</mark>cd".toList ∧
      '<' ∉ "aab".toList ∧ '&' ∉ "aab".toList ∧
      showMarkup (snippet "aab" "a" 2).toList none = "aa...".toList ∧
      showMarkup (snippet "aab" "a" 2).toList (some bold) =
        bold ++ ['a'] ++ reset ++ bold ++ ['a'] ++ reset ++ ellipsis := by
  intro html
  have h : '&' ∉ html := by decide
  have hopen : FirstCut markOpen html ['a'] "b</mark><mark></mark></mark>c<mark>d".toList :=
    ⟨by decide, by decide, by decide⟩
  have hclose : FirstCut markClose "b</mark><mark></mark></mark>c<mark>d".toList ['b']
      "<mark></mark></mark>c<mark>d".toList := ⟨by decide, by decide, by decide⟩
  have hempty : FirstCut markOpen "<mark></mark></mark>c<mark>d".toList []
      "</mark></mark>c<mark>d".toList := ⟨by decide, by decide, by decide⟩
  have hcloseEmpty : FirstCut markClose "</mark></mark>c<mark>d".toList []
      "</mark>c<mark>d".toList := ⟨by decide, by decide, by decide⟩
  have hlast : FirstCut markOpen "</mark>c<mark>d".toList "</mark>c".toList ['d'] :=
    ⟨by decide, by decide, by decide⟩
  have hstripped : Stripped html "ab</mark>cd".toList :=
    .closed hopen hclose (.closed hempty hcloseEmpty (.unclosed hlast (by decide)))
  have hlt : '<' ∉ "aab".toList := by decide
  have hamp : '&' ∉ "aab".toList := by decide
  obtain ⟨-, -, -, -, hnone, hsome⟩ := showMarkup_strips.2 "aab" "a" 2 hlt hamp
  exact ⟨h, (showMarkup_strips.1 html _ h).2 hstripped, hlt, hamp, hnone.trans (by decide),
    (hsome bold).trans (by decide)⟩

end Terminal

end SearchPanel
