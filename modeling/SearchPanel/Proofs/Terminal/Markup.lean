import SearchPanel.Proofs.Snippet.Pieces
import SearchPanel.Proofs.Terminal.Entity
import SearchPanel.Proofs.Terminal.Styled
import SearchPanel.Terminal.Report

/-!
# Markup on a terminal

* `Display.Uses`: the escape sequences of a display's reports. Without colors they are those of the
  borders.
* `styled_showMarkup`: marked-up text in colors is the same text without colors, with sequences put
  in. So it is as wide in any style (`visibleLength_showMarkup`).
-/

namespace SearchPanel

variable {html : List Char} {s : Segment} {c : Char}

/-- Nothing but the markup is left out. -/
theorem Segment.mem_of_mem_ofMarkup (hs : s ∈ Segment.ofMarkup html) (hc : c ∈ s.text) :
    c ∈ html := by
  fun_induction Segment.ofMarkup html with
  | case1 html hopen =>
    obtain rfl := List.mem_singleton.1 hs
    exact hc
  | case2 html before rest hopen hclose =>
    rw [Text.eq_of_cut? hopen]
    rcases List.mem_pair.1 hs with rfl | rfl
    · exact List.mem_append_left _ (List.mem_append_left _ hc)
    · exact List.mem_append_right _ hc
  | case3 html before rest hopen inside after hclose hlt ih =>
    rw [Text.eq_of_cut? hopen, Text.eq_of_cut? hclose]
    rcases List.mem_cons.1 hs with rfl | hs
    · exact List.mem_append_left _ (List.mem_append_left _ hc)
    refine List.mem_append_right _ ?_
    rcases List.mem_cons.1 hs with rfl | hs
    · exact List.mem_append_left _ (List.mem_append_left _ hc)
    · exact List.mem_append_right _ (ih hs)

namespace Terminal

/-! ## Marked-up text -/

theorem escapeChar_not_mem_of_mem_ofMarkup (h : escapeChar ∉ html)
    (hs : s ∈ Segment.ofMarkup html) : escapeChar ∉ decodeEntities s.text :=
  escapeChar_not_mem_decodeEntities fun hc => h (Segment.mem_of_mem_ofMarkup hs hc)

theorem escapeChar_not_mem_snippet {field : String} (h : escapeChar ∉ field.toList)
    (query : String) (length : Nat) : escapeChar ∉ (snippet field query length).toList :=
  not_mem_snippet h (by decide) query length

theorem showSegment_none (s : Segment) : showSegment none s = decodeEntities s.text := by
  cases s <;> rfl

/-- A segment in a style is the same segment without it, with sequences put in. -/
theorem styled_showSegment {allowed : List Char → Prop} {style : List Char}
    (hstyle : Styled allowed style []) (hreset : Styled allowed reset [])
    (h : escapeChar ∉ decodeEntities s.text) :
    Styled allowed (showSegment (some style) s) (showSegment none s) := by
  cases s with
  | plain t => exact .self h
  | marked t => simpa [showSegment, Segment.text] using (hstyle.append (.self h)).append hreset

theorem escapeChar_not_mem_showMarkup (h : escapeChar ∉ html) :
    escapeChar ∉ showMarkup html none := by
  intro hc
  obtain ⟨s, hs, hc⟩ := List.mem_flatMap.1 hc
  rw [showSegment_none] at hc
  exact escapeChar_not_mem_of_mem_ofMarkup h hs hc

/-- Marked-up text in a style is the same text without it, with sequences put in. -/
theorem styled_showMarkup_some {allowed : List Char → Prop} {style : List Char}
    (hstyle : Styled allowed style []) (hreset : Styled allowed reset [])
    (h : escapeChar ∉ html) :
    Styled allowed (showMarkup html (some style)) (showMarkup html none) := by
  have hsegments : ∀ s ∈ Segment.ofMarkup html, escapeChar ∉ decodeEntities s.text :=
    fun s => escapeChar_not_mem_of_mem_ofMarkup h
  unfold showMarkup
  generalize Segment.ofMarkup html = segments at hsegments
  induction segments with
  | nil => exact .nil
  | cons s rest ih =>
    rw [List.forall_mem_cons] at hsegments
    exact (styled_showSegment hstyle hreset hsegments.1).append (ih hsegments.2)

/-- **Width of marked-up text.** A style of complete sequences changes nothing about the width of a
text, however many marks it has and wherever they stand. Without a style every character counts. -/
theorem visibleLength_showMarkup (html : List Char) (parts : List (List Char))
    (h : escapeChar ∉ decodeEntities html) (hparts : ∀ s ∈ parts, IsSequence s) :
    visibleLength (showMarkup html (some parts.flatten)) = visibleLength (showMarkup html none) ∧
      visibleLength (showMarkup html none) = (showMarkup html none).length := by
  have hhtml : escapeChar ∉ html := fun hc => h (escapeChar_mem_decodeEntities_iff.2 hc)
  have hbare : Styled IsSequence (showMarkup html none) (showMarkup html none) :=
    .self (escapeChar_not_mem_showMarkup hhtml)
  have hstyled := styled_showMarkup_some (.of_flatten hparts) (.one isStyle_reset.sequence) hhtml
  have hwidth := hbare.visibleLength_of_isSequence
  exact ⟨hstyled.visibleLength_of_isSequence.trans hwidth.symm, hwidth⟩

/-- Marks that follow each other, of which one is empty and one is never closed, in a text with the
letter that ends a sequence and with a reference to it. -/
theorem visibleLength_showMarkup_unclosed :
    let html := "m<mark>&#109;</mark><mark></mark>x<mark>mm".toList
    let parts := [bold, "\x1b[3; 4m".toList]
    escapeChar ∉ decodeEntities html ∧ (∀ s ∈ parts, IsSequence s) ∧
      visibleLength (showMarkup html (some parts.flatten)) = 5 := by
  intro html parts
  have h : escapeChar ∉ decodeEntities html := by decide
  have hparts : ∀ s ∈ parts, IsSequence s := by
    rw [List.forall_mem_cons, List.forall_mem_singleton]
    exact ⟨isStyle_bold.sequence, "[3; 4".toList, by decide, by decide, by decide⟩
  obtain ⟨hstyled, hbare⟩ := visibleLength_showMarkup html parts h hparts
  refine ⟨h, hparts, (hstyled.trans hbare).trans ?_⟩
  decide +kernel

/-! ## Sequences of a display -/

/-- The escape sequences that a display's reports are made with. -/
inductive Display.Uses (d : Display) : List Char → Prop
  | border : d.Uses d.border
  | reset : d.Uses reset
  | bold (h : d.colors = true) : d.Uses bold
  | underline (h : d.colors = true) : d.Uses underline
  | color (h : d.colors = true) (c : Color) : d.Uses (c.code d.theme)

variable {d : Display}

theorem Display.Uses.isStyle {s : List Char} (h : d.Uses s) : IsStyle s := by
  cases h with
  | border => exact isStyle_code d.theme .gray
  | reset => exact isStyle_reset
  | bold => exact isStyle_bold
  | underline => exact isStyle_underline
  | color _ c => exact isStyle_code d.theme c

theorem styled_highlight {style : List Char} (h : d.highlight = some style) :
    Styled d.Uses style [] := by
  unfold Display.highlight at h
  by_cases hd : d.colors = true
  · rw [if_pos hd] at h
    rw [← Option.some.inj h]
    exact (Styled.one (.bold hd)).append (.one (.color hd .yellow))
  · rw [if_neg hd] at h
    cases h

/-- Marked-up text in colors is the same text without them, with sequences put in. -/
theorem styled_showMarkup (d : Display) (h : escapeChar ∉ html) :
    Styled d.Uses (showMarkup html d.highlight) (showMarkup html none) := by
  cases hstyle : d.highlight with
  | none => exact .self (escapeChar_not_mem_showMarkup h)
  | some style => exact styled_showMarkup_some (styled_highlight hstyle) (.one .reset) h

end Terminal

end SearchPanel
