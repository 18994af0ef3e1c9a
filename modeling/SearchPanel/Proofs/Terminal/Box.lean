import SearchPanel.Proofs.Terminal.Markup
import SearchPanel.Proofs.Terminal.Wrap
import SearchPanel.Proofs.Text.Printable

/-!
# Boxes

The lines of a report, for texts without the escape character.

* `styled_row`, `styled_boxTop`, `styled_boxBottom`: the lines of a box with the sequences left out.
* `results_rectangular_iff`: no line of the results is narrower than the box. All of them have its
  width exactly when the label, the titles, the links and the words of the bodies fit; nothing is
  cut off, and the rest is not padded.
-/

namespace SearchPanel.Terminal

variable {d : Display} {allowed : List Char → Prop} {content plain label text l : List Char}
  {n : Nat}

/-! ## Lines of a box -/

theorem Styled.border (d : Display) : Styled d.Uses d.border [] := .one .border

theorem Styled.reset (d : Display) : Styled d.Uses reset [] := .one .reset

theorem styled_replicate {c : Char} (n : Nat) (hc : c ≠ escapeChar) :
    Styled allowed (List.replicate n c) (List.replicate n c) :=
  .self fun h => hc (List.eq_of_mem_replicate h).symm

theorem Styled.width_eq (h : Styled d.Uses text plain) : visibleLength text = plain.length :=
  (h.mono fun _ => Display.Uses.isStyle).visibleLength_eq

/-- A painted text is the text itself, with sequences put in. -/
theorem styled_paint {modifiers : List Char} (color : Color)
    (hm : d.colors = true → Styled d.Uses modifiers []) (h : Styled d.Uses text plain) :
    Styled d.Uses (d.paint color modifiers text) plain := by
  unfold Display.paint
  by_cases hd : d.colors = true
  · rw [if_pos hd]
    simpa using (((hm hd).append (.one (.color hd color))).append h).append (.reset d)
  · rwa [if_neg hd]

theorem styled_row (h : Styled d.Uses content plain) :
    Styled d.Uses (d.row content)
      ('│' :: (plain ++ List.replicate (boxWidth - plain.length) ' ' ++ ['│'])) := by
  have hbar : '│' ≠ escapeChar := by decide
  have hpad : Styled d.Uses (padding boxWidth content)
      (List.replicate (boxWidth - plain.length) ' ') := by
    rw [padding, h.width_eq]
    exact styled_replicate _ (by decide)
  have hright := (Styled.border d).append (.char hbar (Styled.reset d))
  have hleft := (Styled.border d).append (.char hbar ((Styled.reset d).append (h.append hpad)))
  simpa [Display.row] using hleft.append hright

theorem visibleLength_row (h : Styled d.Uses content plain) :
    visibleLength (d.row content) = max boxWidth plain.length + 2 := by
  rw [(styled_row h).width_eq]
  simp only [List.length_cons, List.length_append, List.length_replicate, List.length_nil]
  omega

theorem styled_boxTop (h : escapeChar ∉ label) :
    Styled d.Uses (d.boxTop label)
      ('┌' :: ("─ ".toList ++ label ++ [' '] ++
        List.replicate (boxWidth - (label.length + 3)) '─' ++ ['┐'])) := by
  have hpart : Styled d.Uses ("─ ".toList ++ d.paint .cyan bold label ++ [' '])
      ("─ ".toList ++ label ++ [' ']) :=
    ((Styled.self (by decide)).append
      (styled_paint .cyan (fun hd => .one (.bold hd)) (.self h))).append (.self (by decide))
  have hlength : ("─ ".toList ++ label ++ [' ']).length = label.length + 3 := by
    simp only [List.length_append, List.length_cons, List.length_nil]
    have : "─ ".toList.length = 2 := rfl
    omega
  have hleft := (Styled.border d).append (.char (by decide : '┌' ≠ escapeChar) (.reset d))
  have hline : Styled d.Uses (List.replicate (boxWidth - (label.length + 3)) '─')
      (List.replicate (boxWidth - (label.length + 3)) '─') := styled_replicate _ (by decide)
  have hright := hline.append (.char (by decide : '┐' ≠ escapeChar) (Styled.reset d))
  have hall := ((hleft.append hpart).append (.border d)).append hright
  rw [← hlength, ← hpart.width_eq] at hall ⊢
  simp only [List.append_assoc, List.cons_append, List.nil_append] at hall
  simpa only [Display.boxTop, List.append_assoc, List.cons_append, List.nil_append] using hall

theorem visibleLength_boxTop (h : escapeChar ∉ label) :
    visibleLength (d.boxTop label) = max boxWidth (label.length + 3) + 2 := by
  have hlead : "─ ".toList.length = 2 := rfl
  rw [(styled_boxTop h).width_eq]
  generalize "─ ".toList = lead at hlead
  simp only [List.length_cons, List.length_append, List.length_replicate, List.length_nil]
  omega

theorem styled_boxBottom (d : Display) :
    Styled d.Uses d.boxBottom ('└' :: (List.replicate boxWidth '─' ++ ['┘'])) := by
  have hright := (styled_replicate boxWidth (by decide : '─' ≠ escapeChar)).append
    (.char (by decide : '┘' ≠ escapeChar) (Styled.reset d))
  have hall := (Styled.border d).append (.char (by decide : '└' ≠ escapeChar) hright)
  simpa only [Display.boxBottom, List.append_assoc, List.cons_append, List.nil_append] using hall

theorem visibleLength_boxBottom (d : Display) : visibleLength d.boxBottom = boxWidth + 2 := by
  refine (styled_boxBottom d).width_eq.trans ?_
  simp only [List.length_cons, List.length_append, List.length_replicate, List.length_nil]

/-! ## The results -/

/-- None of the fragment's texts holds the escape character. -/
structure Escapeless (f : Fragment) : Prop where
  title : escapeChar ∉ f.titleHtml.toList
  body : escapeChar ∉ f.bodyHtml.toList
  link : escapeChar ∉ f.href.toList

/-- The parts of the result with the number `n` that are never broken fit into the box. -/
structure FitsBox (n : Nat) (f : Fragment) : Prop where
  title : (toString n).length + 3 + (showMarkup f.titleHtml.toList none).length ≤ boxWidth
  body : ∀ w ∈ Text.words (showMarkup f.bodyHtml.toList none), 4 + w.length ≤ boxWidth
  link : 4 + f.href.length ≤ boxWidth

namespace Display

/-- The numbered title of a result, as it stands between the borders. -/
def titleLine (d : Display) (n : Nat) (f : Fragment) : List Char :=
  ' ' :: (toString n).toList ++ ". ".toList ++
    d.paint .blue bold (showMarkup f.titleHtml.toList d.highlight)

/-- The lines of a result's body. -/
def bodyLines (d : Display) (f : Fragment) : List (List Char) :=
  (wrap (showMarkup f.bodyHtml.toList d.highlight) bodyWidth).map ("    ".toList ++ ·)

/-- The link of a result. -/
def linkLine (d : Display) (f : Fragment) : List Char :=
  "    ".toList ++ d.paint .gray underline f.href.toList

/-- The label of a box with `n` results. -/
def resultsLabel (query : String) (n : Nat) : List Char :=
  (toString n).toList ++ " result(s) for \"".toList ++ query.toList ++ ['"']

end Display

variable {f : Fragment} {query : String} {fs : List Fragment} {P : List Char → Prop}

theorem forall_mem_resultRows : (∀ l ∈ d.resultRows n f, P l) ↔
    P (d.row (d.titleLine n f)) ∧ (∀ l ∈ d.bodyLines f, P (d.row l)) ∧
      P (d.row (d.linkLine f)) := by
  unfold Display.resultRows Display.bodyLines
  rw [List.forall_mem_append, List.forall_mem_cons, List.forall_mem_map, List.forall_mem_map,
    List.forall_mem_singleton, and_assoc]
  rfl

/-- The lines of results are those of each of them, with an empty line between two. -/
theorem resultsRows_eq (d : Display) (n : Nat) (fs : List Fragment) : d.resultsRows n fs =
    [d.row []].intercalate ((fs.zipIdx n).map fun r => d.resultRows r.2 r.1) := by
  fun_induction Display.resultsRows d n fs with
  | case1 n => rfl
  | case2 n f => simp
  | case3 n f rest hne ih =>
    obtain ⟨g, rest, rfl⟩ := List.exists_cons_of_ne_nil hne
    rw [ih]
    simp only [List.zipIdx_cons, List.map_cons, List.intercalate_cons_cons, List.append_assoc,
      List.singleton_append]

theorem forall_mem_resultsRows (hempty : P (d.row [])) : (∀ l ∈ d.resultsRows n fs, P l) ↔
    ∀ r ∈ fs.zipIdx n, ∀ l ∈ d.resultRows r.2 r.1, P l := by
  fun_induction Display.resultsRows d n fs with
  | case1 => simp
  | case2 n f => simp
  | case3 n f rest hne ih =>
    rw [List.zipIdx_cons, List.forall_mem_cons, List.forall_mem_append, List.forall_mem_cons, ih]
    simp [hempty]

/-- The box of some results. -/
theorem results_eq (d : Display) (query : String) (fs : List Fragment) : d.results query fs =
    d.boxTop (Display.resultsLabel query fs.length) :: d.resultsRows 1 fs ++ [d.boxBottom] := by
  have hlabel : (toString fs.length ++ " result(s) for \"" ++ query ++ "\"").toList =
      Display.resultsLabel query fs.length := by
    simp only [Display.resultsLabel, String.toList_append]
    rfl
  rw [Display.results, hlabel]

/-- What holds of every line of the results, told by the lines of each of them. -/
theorem forall_mem_results (hempty : P (d.row [])) : (∀ l ∈ d.results query fs, P l) ↔
    P (d.boxTop (Display.resultsLabel query fs.length)) ∧
      (∀ r ∈ fs.zipIdx 1, P (d.row (d.titleLine r.2 r.1)) ∧
        (∀ l ∈ d.bodyLines r.1, P (d.row l)) ∧ P (d.row (d.linkLine r.1))) ∧
      P d.boxBottom := by
  rw [results_eq, List.forall_mem_append, List.forall_mem_cons, forall_mem_resultsRows hempty,
    List.forall_mem_singleton, and_assoc]
  simp only [forall_mem_resultRows]

/-! ### What the lines show -/

theorem escapeChar_not_mem_toString (n : Nat) : escapeChar ∉ (toString n).toList :=
  (Text.printable_toString n).not_mem (by decide)

theorem styled_titleLine (d : Display) (n : Nat) (hf : Escapeless f) :
    Styled d.Uses (d.titleLine n f)
      (' ' :: (toString n).toList ++ ". ".toList ++ showMarkup f.titleHtml.toList none) := by
  have hnumber : Styled d.Uses (' ' :: (toString n).toList) (' ' :: (toString n).toList) :=
    .char (by decide) (.self (escapeChar_not_mem_toString n))
  exact (hnumber.append (.self (by decide))).append
    (styled_paint .blue (fun hd => .one (.bold hd)) (styled_showMarkup d hf.title))

theorem exists_styled_of_mem_bodyLines (hf : Escapeless f) (hl : l ∈ d.bodyLines f) :
    ∃ p, Styled d.Uses l p := by
  obtain ⟨line, hline, rfl⟩ := List.mem_map.1 hl
  obtain ⟨p, hp⟩ := exists_styled_of_mem_wrap (fun _ hs => hs.isStyle)
    (styled_showMarkup d hf.body) hline
  exact ⟨_, (Styled.self (by decide)).append hp⟩

theorem styled_linkLine (d : Display) (hf : Escapeless f) :
    Styled d.Uses (d.linkLine f) ("    ".toList ++ f.href.toList) :=
  (Styled.self (by decide)).append
    (styled_paint .gray (fun hd => .one (.underline hd)) (.self hf.link))

theorem escapeChar_not_mem_resultsLabel (hquery : escapeChar ∉ query.toList) (n : Nat) :
    escapeChar ∉ Display.resultsLabel query n := by
  have hbefore : escapeChar ∉ " result(s) for \"".toList := by decide
  have hquote : escapeChar ≠ '"' := by decide
  simp only [Display.resultsLabel, List.mem_append, List.mem_singleton, not_or]
  exact ⟨⟨⟨escapeChar_not_mem_toString n, hbefore⟩, hquery⟩, hquote⟩

/-- Every line of the results is text with sequences of the display put in. -/
theorem exists_styled_of_mem_results (hquery : escapeChar ∉ query.toList)
    (hfs : ∀ f ∈ fs, Escapeless f) (hl : l ∈ d.results query fs) : ∃ p, Styled d.Uses l p := by
  have hall : ∀ l ∈ d.results query fs, ∃ p, Styled d.Uses l p := by
    rw [forall_mem_results ⟨_, styled_row .nil⟩]
    refine ⟨⟨_, styled_boxTop (escapeChar_not_mem_resultsLabel hquery _)⟩, fun r hr => ?_,
      ⟨_, styled_boxBottom d⟩⟩
    have hf := hfs r.1 (List.fst_mem_of_mem_zipIdx hr)
    refine ⟨⟨_, styled_row (styled_titleLine d _ hf)⟩, fun l hl => ?_,
      ⟨_, styled_row (styled_linkLine d hf)⟩⟩
    obtain ⟨p, hp⟩ := exists_styled_of_mem_bodyLines hf hl
    exact ⟨_, styled_row hp⟩
  exact hall l hl

/-! ### Their width -/

theorem le_visibleLength_row (h : Styled d.Uses content plain) :
    boxWidth + 2 ≤ visibleLength (d.row content) := by
  rw [visibleLength_row h]
  omega

/-- A line of the box has its width exactly when its content fits. -/
theorem visibleLength_row_eq_iff (h : Styled d.Uses content plain) :
    visibleLength (d.row content) = boxWidth + 2 ↔ plain.length ≤ boxWidth := by
  rw [visibleLength_row h]
  omega

theorem bodyLines_width_iff (d : Display) (hf : Escapeless f) :
    (∀ l ∈ d.bodyLines f, visibleLength (d.row l) = boxWidth + 2) ↔
      ∀ w ∈ Text.words (showMarkup f.bodyHtml.toList none), 4 + w.length ≤ boxWidth := by
  have hbody := styled_showMarkup d hf.body
  have hwords : (∀ l ∈ wrap (showMarkup f.bodyHtml.toList d.highlight) bodyWidth,
      visibleLength l ≤ boxWidth - 4) ↔
      ∀ w ∈ Text.words (showMarkup f.bodyHtml.toList none), w.length ≤ boxWidth - 4 :=
    forall_wrap_le_iff (hbody.mono fun _ => Display.Uses.isStyle) (by decide)
  have hroom : 4 ≤ boxWidth := by decide
  unfold Display.bodyLines
  rw [List.forall_mem_map]
  constructor
  · intro hall w hw
    have hw' := hwords.1 (fun l hl => ?_) w hw
    · omega
    obtain ⟨p, hp⟩ := exists_styled_of_mem_wrap (fun _ hs => hs.isStyle) hbody hl
    have hrow := hall l hl
    rw [visibleLength_row_eq_iff ((Styled.self (by decide)).append hp), List.length_append] at hrow
    have hindent : "    ".toList.length = 4 := rfl
    rw [hp.width_eq]
    omega
  · intro hall l hl
    have hl' := hwords.2 (fun w hw => by have := hall w hw; omega) l hl
    obtain ⟨p, hp⟩ := exists_styled_of_mem_wrap (fun _ hs => hs.isStyle) hbody hl
    rw [visibleLength_row_eq_iff ((Styled.self (by decide)).append hp), List.length_append]
    have hindent : "    ".toList.length = 4 := rfl
    rw [hp.width_eq] at hl'
    omega

theorem titleLine_width_iff (d : Display) (n : Nat) (hf : Escapeless f) :
    visibleLength (d.row (d.titleLine n f)) = boxWidth + 2 ↔
      (toString n).length + 3 + (showMarkup f.titleHtml.toList none).length ≤ boxWidth := by
  have hdot : ". ".toList.length = 2 := rfl
  rw [visibleLength_row_eq_iff (styled_titleLine d n hf)]
  simp only [List.length_append, List.length_cons, hdot, String.length_toList]

theorem linkLine_width_iff (d : Display) (hf : Escapeless f) :
    visibleLength (d.row (d.linkLine f)) = boxWidth + 2 ↔ 4 + f.href.length ≤ boxWidth := by
  have hindent : "    ".toList.length = 4 := rfl
  rw [visibleLength_row_eq_iff (styled_linkLine d hf), List.length_append, hindent,
    String.length_toList]

theorem le_visibleLength_of_mem_results (d : Display) (hquery : escapeChar ∉ query.toList)
    (hfs : ∀ f ∈ fs, Escapeless f) :
    ∀ l ∈ d.results query fs, boxWidth + 2 ≤ visibleLength l := by
  rw [forall_mem_results (P := fun l => boxWidth + 2 ≤ visibleLength l) (le_visibleLength_row .nil)]
  refine ⟨?_, fun r hr => ?_, Nat.le_of_eq (visibleLength_boxBottom d).symm⟩
  · rw [visibleLength_boxTop (escapeChar_not_mem_resultsLabel hquery _)]
    omega
  · have hf := hfs r.1 (List.fst_mem_of_mem_zipIdx hr)
    refine ⟨le_visibleLength_row (styled_titleLine d _ hf), fun l hl => ?_,
      le_visibleLength_row (styled_linkLine d hf)⟩
    obtain ⟨p, hp⟩ := exists_styled_of_mem_bodyLines hf hl
    exact le_visibleLength_row hp

theorem results_width_iff (d : Display) (hquery : escapeChar ∉ query.toList)
    (hfs : ∀ f ∈ fs, Escapeless f) :
    (∀ l ∈ d.results query fs, visibleLength l = boxWidth + 2) ↔
      (Display.resultsLabel query fs.length).length + 3 ≤ boxWidth ∧
        ∀ r ∈ fs.zipIdx 1, FitsBox r.2 r.1 := by
  have hempty : visibleLength (d.row []) = boxWidth + 2 :=
    (visibleLength_row_eq_iff .nil).2 (Nat.zero_le _)
  have hlabel : visibleLength (d.boxTop (Display.resultsLabel query fs.length)) = boxWidth + 2 ↔
      (Display.resultsLabel query fs.length).length + 3 ≤ boxWidth := by
    rw [visibleLength_boxTop (escapeChar_not_mem_resultsLabel hquery _)]
    omega
  have hresult : ∀ r ∈ fs.zipIdx 1, (visibleLength (d.row (d.titleLine r.2 r.1)) = boxWidth + 2 ∧
      (∀ l ∈ d.bodyLines r.1, visibleLength (d.row l) = boxWidth + 2) ∧
      visibleLength (d.row (d.linkLine r.1)) = boxWidth + 2) ↔ FitsBox r.2 r.1 := by
    intro r hr
    have hf := hfs r.1 (List.fst_mem_of_mem_zipIdx hr)
    rw [titleLine_width_iff d r.2 hf, bodyLines_width_iff d hf, linkLine_width_iff d hf]
    exact ⟨fun ⟨ht, hb, hl⟩ => ⟨ht, hb, hl⟩, fun h => ⟨h.title, h.body, h.link⟩⟩
  rw [forall_mem_results (P := fun l => visibleLength l = boxWidth + 2) hempty, hlabel,
    forall₂_congr hresult]
  exact and_congr_right fun _ => and_iff_left (visibleLength_boxBottom d)

/-! ### Line feeds -/

theorem lineFeed_mem_row_iff (h : Styled d.Uses content plain) :
    '\n' ∈ d.row content ↔ '\n' ∈ plain := by
  rw [(styled_row h).blank_mem_iff (fun _ hs => hs.isStyle) (by decide)]
  simp [List.mem_replicate]

theorem lineFeed_not_mem_bodyLine (hf : Escapeless f) (hl : l ∈ d.bodyLines f) :
    '\n' ∉ d.row l := by
  obtain ⟨p, hp⟩ := exists_styled_of_mem_bodyLines hf hl
  rw [lineFeed_mem_row_iff hp, ← hp.blank_mem_iff (fun _ hs => hs.isStyle) (by decide)]
  obtain ⟨line, hline, rfl⟩ := List.mem_map.1 hl
  have hindent : '\n' ∉ "    ".toList := by decide
  rw [List.mem_append, not_or]
  exact ⟨hindent, ne_lineFeed_of_mem_wrap hline⟩

theorem lineFeed_not_mem_toString (n : Nat) : '\n' ∉ (toString n).toList :=
  (Text.printable_toString n).not_mem (by decide)

theorem lineFeed_mem_resultsLabel_iff (query : String) (n : Nat) :
    '\n' ∈ Display.resultsLabel query n ↔ '\n' ∈ query.toList := by
  have hbefore : '\n' ∉ " result(s) for \"".toList := by decide
  have hquote : '\n' ≠ '"' := by decide
  simp only [Display.resultsLabel, List.mem_append, List.mem_singleton, hbefore, hquote,
    lineFeed_not_mem_toString, false_or, or_false]

theorem lineFeed_mem_titleLine_iff (d : Display) (n : Nat) (hf : Escapeless f) :
    '\n' ∈ d.row (d.titleLine n f) ↔ '\n' ∈ showMarkup f.titleHtml.toList none := by
  have hdot : '\n' ∉ ". ".toList := by decide
  have hspace : '\n' ≠ ' ' := by decide
  rw [lineFeed_mem_row_iff (styled_titleLine d n hf)]
  simp only [List.mem_append, List.mem_cons, hdot, hspace, lineFeed_not_mem_toString, false_or]

theorem lineFeed_mem_linkLine_iff (d : Display) (hf : Escapeless f) :
    '\n' ∈ d.row (d.linkLine f) ↔ '\n' ∈ f.href.toList := by
  have hindent : '\n' ∉ "    ".toList := by decide
  rw [lineFeed_mem_row_iff (styled_linkLine d hf), List.mem_append, or_iff_right hindent]

theorem lineFeed_mem_boxTop_iff (h : escapeChar ∉ label) :
    '\n' ∈ d.boxTop label ↔ '\n' ∈ label := by
  rw [(styled_boxTop h).blank_mem_iff (fun _ hs => hs.isStyle) (by decide)]
  simp [List.mem_replicate]

theorem lineFeed_not_mem_boxBottom (d : Display) : '\n' ∉ d.boxBottom := by
  rw [(styled_boxBottom d).blank_mem_iff (fun _ hs => hs.isStyle) (by decide)]
  simp [List.mem_replicate]

/-- A line of the results is broken by a line feed of the query, of a title as it is shown, or of a
link. -/
theorem results_lineFeed_iff (d : Display) (hquery : escapeChar ∉ query.toList)
    (hfs : ∀ f ∈ fs, Escapeless f) :
    (∀ l ∈ d.results query fs, '\n' ∉ l) ↔ '\n' ∉ query.toList ∧
      ∀ f ∈ fs, '\n' ∉ showMarkup f.titleHtml.toList none ∧ '\n' ∉ f.href.toList := by
  have hempty : '\n' ∉ d.row [] := by simp [lineFeed_mem_row_iff Styled.nil]
  have hresult : ∀ r ∈ fs.zipIdx 1, ('\n' ∉ d.row (d.titleLine r.2 r.1) ∧
      (∀ l ∈ d.bodyLines r.1, '\n' ∉ d.row l) ∧ '\n' ∉ d.row (d.linkLine r.1)) ↔
      '\n' ∉ showMarkup r.1.titleHtml.toList none ∧ '\n' ∉ r.1.href.toList := by
    intro r hr
    have hf := hfs r.1 (List.fst_mem_of_mem_zipIdx hr)
    rw [lineFeed_mem_titleLine_iff d r.2 hf, lineFeed_mem_linkLine_iff d hf]
    exact and_congr_right fun _ => and_iff_right fun l => lineFeed_not_mem_bodyLine hf
  rw [forall_mem_results (P := ('\n' ∉ ·)) hempty, forall₂_congr hresult,
    lineFeed_mem_boxTop_iff (escapeChar_not_mem_resultsLabel hquery _),
    lineFeed_mem_resultsLabel_iff]
  refine and_congr_right fun _ => (and_iff_left (lineFeed_not_mem_boxBottom d)).trans ?_
  have hfst := List.zipIdx_map_fst 1 fs
  rw [← hfst, List.forall_mem_map, hfst]

/-! ### Rectangular or not -/

/-- No line of the results is narrower than the box, with or without colors. All lines have its
width exactly when the label and every result fit into it. They are the lines that are seen when
neither the query nor a link nor a title, as it is shown, holds a line feed. -/
theorem results_rectangular_iff (d : Display) (hquery : escapeChar ∉ query.toList)
    (hfs : ∀ f ∈ fs, Escapeless f) :
    (∀ l ∈ d.results query fs, boxWidth + 2 ≤ visibleLength l) ∧
    ((∀ l ∈ d.results query fs, visibleLength l = boxWidth + 2) ↔
      (Display.resultsLabel query fs.length).length + 3 ≤ boxWidth ∧
        ∀ r ∈ fs.zipIdx 1, FitsBox r.2 r.1) ∧
    ((∀ l ∈ d.results query fs, '\n' ∉ l) ↔ '\n' ∉ query.toList ∧
      ∀ f ∈ fs, '\n' ∉ showMarkup f.titleHtml.toList none ∧ '\n' ∉ f.href.toList) :=
  ⟨le_visibleLength_of_mem_results d hquery hfs, results_width_iff d hquery hfs,
    results_lineFeed_iff d hquery hfs⟩

/-- A result whose link is as wide as the box. -/
def longLink : Fragment :=
  { titleHtml := "<mark>a</mark>"
    bodyHtml := "<mark>a</mark> b"
    href := "/posts/a-post-whose-title-is-too-long-for-the-link-to-it-to-fit-into-a-terminal/" }

/-- With a short link the result fits, and the box is rectangular. -/
theorem results_rectangular_iff_short :
    let f := { longLink with href := "/posts/a/" }
    FitsBox 1 f ∧ ∀ l ∈ ({ colors := true } : Display).results "a" [f],
      visibleLength l = boxWidth + 2 := by
  intro f
  have hfs : ∀ g ∈ [f], Escapeless g := by
    rw [List.forall_mem_singleton]
    exact ⟨by decide, by decide, by decide⟩
  have hfits : FitsBox 1 f := ⟨by decide +kernel, by decide +kernel, by decide⟩
  have hall : ∀ r ∈ [f].zipIdx 1, FitsBox r.2 r.1 := by
    rwa [List.zipIdx_singleton, List.forall_mem_singleton]
  exact ⟨hfits, (results_rectangular_iff { colors := true } (by decide) hfs).2.1.2
    ⟨by decide, hall⟩⟩

/-- The link stands behind an indent of four columns, so the border on its right moves by four. -/
theorem results_beyond_box : Escapeless longLink ∧
    ¬ ∀ l ∈ ({} : Display).results "a" [longLink], visibleLength l = boxWidth + 2 :=
  ⟨⟨by decide, by decide, by decide⟩, by decide +kernel⟩

end SearchPanel.Terminal
