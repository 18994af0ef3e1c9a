import SearchPanel.Command.Answer
import SearchPanel.Proofs.Search.Answers
import SearchPanel.Proofs.Terminal.Pen

/-!
# Marks on a terminal

How the marks of a snippet are drawn where there are colors, for fields without the escape character
and without tags of their own.

* `shownSegments`: the segments of a snippet, as they are shown.
* `drawn_titleLine`: in a title the style of the title ends with the first mark.
* `rows_drawn`: in a body the style of a mark ends with the row it began on.
* `marks_drawn`: so a title is drawn as it is marked exactly when nothing but marks follows its
  first mark, and a body exactly when no mark goes on behind the end of a row.
-/

namespace SearchPanel

/-- The segment with its text changed. -/
def Segment.mapText (f : List Char → List Char) : Segment → Segment
  | .plain t => .plain (f t)
  | .marked t => .marked (f t)

namespace Terminal

/-- The segments of a snippet as they are shown: with the ellipses, and with references replaced. -/
def shownSegments (field query : String) (length : Nat) : List Segment :=
  (excerpt field.toList query.toList length).pieces.map (Segment.mapText decodeEntities)

/-- The pen of titles. -/
def titlePen (d : Display) : Pen := { bold := true, color := some (Color.blue.rgb d.theme) }

/-- The pen of marks. -/
def highlightPen (d : Display) : Pen := { bold := true, color := some (Color.yellow.rgb d.theme) }

/-- The style of marks. -/
def highlightStyle (d : Display) : List Char := bold ++ Color.code d.theme .yellow

/-- A shown segment with marks in a style. -/
def styledSegment (style : List Char) : Segment → List Char
  | .plain t => t
  | .marked t => style ++ t ++ reset

/-- A segment drawn as it is marked: with the pen `inside` in marks, and else with `outside`. -/
def segmentCells (outside inside : Pen) : Segment → List Cell
  | .plain t => t.map (·, outside)
  | .marked t => t.map (·, inside)

variable {d : Display} {pen inside outside : Pen} {segs printed : List Segment} {s : Segment}
  {field query : String} {length n : Nat} {f : Fragment} {laid text l : List Char}
  {ls : List (List Char)}

/-! ## Marked-up text in colors -/

theorem showMarkup_snippet (hd : d.colors = true) (hfield : Untagged field.toList)
    (query : String) (length : Nat) :
    showMarkup (snippet field query length).toList d.highlight =
      (shownSegments field query length).flatMap (styledSegment (highlightStyle d)) := by
  have hstyle : d.highlight = some (highlightStyle d) := if_pos hd
  have hsegment : ∀ s : Segment, showSegment (some (highlightStyle d)) s =
      styledSegment (highlightStyle d) (s.mapText decodeEntities) := fun s => by cases s <;> rfl
  rw [showMarkup, hstyle, ofMarkup_snippet hfield, shownSegments, List.flatMap_map,
    funext hsegment]

theorem escapeChar_not_mem_shownSegments (hfield : Untagged field.toList)
    (hesc : escapeChar ∉ field.toList) (query : String) (length : Nat) :
    ∀ s ∈ shownSegments field query length, escapeChar ∉ s.text := by
  intro s hs
  obtain ⟨r, hr, rfl⟩ := List.mem_map.1 hs
  rw [← ofMarkup_snippet hfield] at hr
  have htext : (r.mapText decodeEntities).text = decodeEntities r.text := by cases r <;> rfl
  rw [htext]
  exact escapeChar_not_mem_of_mem_ofMarkup (escapeChar_not_mem_snippet hesc query length) hr

theorem draw_highlightStyle (d : Display) (cursor : Cursor) :
    cursor.draw (highlightStyle d) = [] ∧
      cursor.after (highlightStyle d) = { pen := { cursor.pen with
        bold := true, color := (highlightPen d).color } } := by
  constructor
  · rw [highlightStyle, draw_append, draw_of_isSequence isStyle_bold.sequence,
      draw_of_isSequence (isStyle_code d.theme .yellow).sequence]
    rfl
  · rw [highlightStyle, after_append, after_bold, after_code]
    rfl

/-! ## Titles -/

/-- Segments in a row, the first of them drawn with `outside`: behind a mark nothing is styled. -/
def styledCells (inside : Pen) : Pen → List Segment → List Cell
  | _, [] => []
  | outside, .plain t :: rest => t.map (·, outside) ++ styledCells inside outside rest
  | _, .marked t :: rest => t.map (·, inside) ++ styledCells inside {} rest

/-- Something that is not marked stands behind a mark. -/
def PlainBehindMark (segs : List Segment) : Prop :=
  ∃ before t after u, segs = before ++ .marked t :: after ∧ .plain u ∈ after ∧ u ≠ []

theorem draw_marked (d : Display) (hu : pen.underline = false) {t : List Char}
    (ht : escapeChar ∉ t) :
    Cursor.draw { pen } (styledSegment (highlightStyle d) (.marked t)) = t.map (·, highlightPen d) ∧
      Cursor.after { pen } (styledSegment (highlightStyle d) (.marked t)) = {} := by
  have hpen : ({ pen with bold := true, color := (highlightPen d).color } : Pen) =
      highlightPen d := by
    simp [highlightPen, hu]
  obtain ⟨hdraw, hafter⟩ := draw_highlightStyle d { pen }
  simp only [hpen] at hafter
  obtain ⟨hdraw', hafter'⟩ := draw_self (highlightPen d) ht
  constructor
  · rw [styledSegment, draw_append, draw_append, hdraw, hafter, hdraw',
      draw_of_isSequence isStyle_reset.sequence, List.append_nil, List.nil_append]
  · rw [styledSegment, after_append, after_reset]

theorem draw_styledSegments (d : Display) (pen : Pen) (hu : pen.underline = false)
    (hsegs : ∀ s ∈ segs, escapeChar ∉ s.text) :
    Cursor.draw { pen } (segs.flatMap (styledSegment (highlightStyle d))) =
      styledCells (highlightPen d) pen segs := by
  induction segs generalizing pen with
  | nil => rfl
  | cons s rest ih =>
    have hrest : ∀ r ∈ rest, escapeChar ∉ r.text := fun r hr => hsegs r (by simp [hr])
    have hs : escapeChar ∉ s.text := hsegs s (by simp)
    rw [List.flatMap_cons, draw_append]
    cases s with
    | plain t =>
      have ht : escapeChar ∉ t := hs
      obtain ⟨hdraw, hafter⟩ := draw_self pen ht
      rw [styledSegment, hdraw, hafter, ih pen hu hrest, styledCells]
    | marked t =>
      obtain ⟨hdraw, hafter⟩ := draw_marked d hu (t := t) hs
      rw [hdraw, hafter, ih {} rfl hrest, styledCells]

/-- Behind a mark everything that is not marked is drawn without a style. -/
theorem styledCells_plain (inside : Pen) (segs : List Segment) :
    styledCells inside {} segs = segs.flatMap (segmentCells {} inside) := by
  induction segs with
  | nil => rfl
  | cons s rest ih => cases s <;> simp [styledCells, segmentCells, ih]

theorem append_eq_append_iff_of_length {α : Type} {a a' b b' : List α}
    (h : a.length = a'.length) : a ++ b = a' ++ b' ↔ a = a' ∧ b = b' :=
  ⟨fun heq => List.append_inj heq h, fun ⟨ha, hb⟩ => ha ▸ hb ▸ rfl⟩

theorem map_pen_eq_iff {p q : Pen} (hne : p ≠ q) {t : List Char} :
    t.map (·, p) = t.map (·, q) ↔ t = [] := by
  cases t with
  | nil => simp
  | cons c t => simp [hne]

theorem cells_eq_iff (hne : outside ≠ {}) : segs.flatMap (segmentCells {} inside) =
    segs.flatMap (segmentCells outside inside) ↔ ∀ u, .plain u ∈ segs → u = [] := by
  induction segs with
  | nil => simp
  | cons s rest ih =>
    rw [List.flatMap_cons, List.flatMap_cons]
    cases s with
    | plain t =>
      rw [segmentCells, segmentCells, append_eq_append_iff_of_length (by simp),
        map_pen_eq_iff hne.symm, ih]
      simp
    | marked t =>
      rw [segmentCells, segmentCells, List.append_cancel_left_eq, ih]
      simp

theorem plainBehindMark_cons_plain {t : List Char} :
    PlainBehindMark (.plain t :: segs) ↔ PlainBehindMark segs := by
  constructor
  · rintro ⟨before, t', after, u, heq, hu⟩
    cases before with
    | nil => cases heq
    | cons s before => exact ⟨before, t', after, u, (List.cons.inj heq).2, hu⟩
  · rintro ⟨before, t', after, u, rfl, hu⟩
    exact ⟨.plain t :: before, t', after, u, rfl, hu⟩

theorem plainBehindMark_cons_marked {t : List Char} :
    PlainBehindMark (.marked t :: segs) ↔ ∃ u, .plain u ∈ segs ∧ u ≠ [] := by
  constructor
  · rintro ⟨before, t', after, u, heq, hmem, hu⟩
    cases before with
    | nil => exact ⟨u, (List.cons.inj heq).2 ▸ hmem, hu⟩
    | cons s before =>
      refine ⟨u, ?_, hu⟩
      rw [(List.cons.inj heq).2]
      simp [hmem]
  · rintro ⟨u, hmem, hu⟩
    exact ⟨[], t, segs, u, rfl, hmem, hu⟩

/-- Segments are drawn as they are marked exactly when nothing but marks follows the first one. -/
theorem styledCells_eq_iff (hne : outside ≠ {}) : styledCells inside outside segs =
    segs.flatMap (segmentCells outside inside) ↔ ¬ PlainBehindMark segs := by
  induction segs with
  | nil => simp [styledCells, PlainBehindMark]
  | cons s rest ih =>
    rw [List.flatMap_cons]
    cases s with
    | plain t =>
      rw [styledCells, segmentCells, List.append_cancel_left_eq, ih, plainBehindMark_cons_plain]
    | marked t =>
      rw [styledCells, segmentCells, List.append_cancel_left_eq, styledCells_plain,
        cells_eq_iff hne, plainBehindMark_cons_marked]
      simp

theorem drawn_titleLine (hd : d.colors = true) (hfield : Untagged field.toList)
    (hesc : escapeChar ∉ field.toList) (hf : f.titleHtml = snippet field query length) (n : Nat) :
    drawn (d.titleLine n f) = plainCells (' ' :: (toString n).toList ++ ". ".toList) ++
        styledCells (highlightPen d) (titlePen d) (shownSegments field query length) ∧
      Cursor.after {} (d.titleLine n f) = {} := by
  have hnumber : escapeChar ∉ ' ' :: (toString n).toList ++ ". ".toList := by
    have hspace : escapeChar ≠ ' ' := by decide
    have hdot : escapeChar ∉ ". ".toList := by decide
    simp only [List.cons_append, List.mem_cons, List.mem_append, hspace,
      escapeChar_not_mem_toString, hdot, or_self, not_false_eq_true]
  have hline : d.titleLine n f = ' ' :: (toString n).toList ++ ". ".toList ++
      (bold ++ (Color.code d.theme .blue ++
        ((shownSegments field query length).flatMap (styledSegment (highlightStyle d)) ++
          reset))) := by
    rw [Display.titleLine, hf, showMarkup_snippet hd hfield, Display.paint, if_pos hd]
    simp only [List.append_assoc, Color.code]
  have hsegments := draw_styledSegments d (titlePen d) rfl
    (escapeChar_not_mem_shownSegments hfield hesc query length)
  obtain ⟨hdraw, hafter⟩ := draw_self {} hnumber
  have hbold := draw_of_isSequence isStyle_bold.sequence
  have hcode := draw_of_isSequence (isStyle_code d.theme .blue).sequence
  have hreset := draw_of_isSequence isStyle_reset.sequence
  have hpen : ({ bold := true, color := some (Color.blue.rgb d.theme) } : Pen) = titlePen d := rfl
  rw [drawn, hline]
  simp only [draw_append, after_append, hdraw, hafter, hbold, hcode, hreset, after_bold,
    after_code, after_reset, hpen, hsegments, List.nil_append, List.append_nil]
  exact ⟨rfl, trivial⟩

/-! ## Bodies -/

/-- The segment with its white space laid out anew. -/
inductive LaidSegment : Segment → Segment → Prop
  | plain {t laid : List Char} (h : Laid t laid) : LaidSegment (.plain t) (.plain laid)
  | marked {t laid : List Char} (h : Laid t laid) : LaidSegment (.marked t) (.marked laid)

/-- A segment drawn row by row: the style of a mark ends with the row it began on. -/
def rowCells (inside : Pen) : Segment → List Cell
  | .plain t => plainCells t
  | .marked t =>
    (t.takeWhile (· ≠ '\n')).map (·, inside) ++ plainCells (t.dropWhile (· ≠ '\n'))

/-- A mark goes on behind the end of a row. -/
def BrokenMark (printed : List Segment) : Prop :=
  ∃ t, .marked t ∈ printed ∧ ∃ c ∈ t.dropWhile (· ≠ '\n'), c ≠ '\n'

/-- The cells but for the ends of rows. -/
def withoutLineFeeds (cells : List Cell) : List Cell := cells.filter (·.1 ≠ '\n')

/-- Laying out anew goes segment by segment, and leaves the style of marks alone. -/
theorem exists_laidSegments {style : List Char} (hstyle : ∀ c ∈ style, Text.isBlank c = false)
    (h : Laid (segs.flatMap (styledSegment style)) laid) :
    ∃ printed, List.Forall₂ LaidSegment segs printed ∧
      laid = printed.flatMap (styledSegment style) := by
  induction segs generalizing laid with
  | nil =>
    cases h
    exact ⟨[], .nil, rfl⟩
  | cons s rest ih =>
    rw [List.flatMap_cons] at h
    obtain ⟨u, v, rfl, hu, hv⟩ := h.append_inv
    obtain ⟨printed, hprinted, rfl⟩ := ih hv
    cases s with
    | plain t => exact ⟨.plain u :: printed, .cons (.plain hu) hprinted, rfl⟩
    | marked t =>
      obtain ⟨uv, w, rfl, huv, hw⟩ := hu.append_inv
      obtain ⟨x, y, rfl, hx, hy⟩ := huv.append_inv
      obtain rfl := hx.eq_of_unbroken hstyle
      obtain rfl := hw.eq_of_unbroken isStyle_reset.unbroken
      exact ⟨.marked y :: printed, .cons (.marked hy) hprinted, rfl⟩

namespace Cursor

/-- The characters that are drawn for rows: each row is drawn by itself. -/
def drawRows (cursor : Cursor) : List Char → List Cell
  | [] => []
  | c :: text =>
    if c = '\n' then lineFeed :: drawRows {} text
    else cursor.cells c ++ (cursor.move c).drawRows text

end Cursor

theorem drawRows_append {a : List Char} (h : '\n' ∉ a) (cursor : Cursor) (b : List Char) :
    cursor.drawRows (a ++ b) = cursor.draw a ++ (cursor.after a).drawRows b := by
  induction a generalizing cursor with
  | nil => rfl
  | cons c a ih =>
    rw [List.mem_cons, not_or] at h
    rw [List.cons_append, Cursor.drawRows, if_neg (Ne.symm h.1), ih h.2, Cursor.draw,
      List.append_assoc]
    rfl

theorem drawRows_eq_draw (h : '\n' ∉ l) (cursor : Cursor) : cursor.drawRows l = cursor.draw l := by
  have happend := drawRows_append h cursor []
  rwa [List.append_nil, Cursor.drawRows, List.append_nil] at happend

theorem drawRows_joinWith (h : ∀ l ∈ ls, '\n' ∉ l) :
    Cursor.drawRows {} (Text.joinWith '\n' ls) = [lineFeed].intercalate (ls.map drawn) := by
  induction ls with
  | nil => rfl
  | cons l ls ih =>
    have hl : '\n' ∉ l := h l (by simp)
    cases ls with
    | nil =>
      rw [Text.joinWith, drawRows_eq_draw hl]
      simp [drawn]
    | cons l' ls =>
      have hrest := ih fun m hm => h m (by simp [hm])
      have hjoin : Text.joinWith '\n' (l :: l' :: ls) =
          l ++ '\n' :: Text.joinWith '\n' (l' :: ls) := rfl
      rw [hjoin, drawRows_append hl, Cursor.drawRows, if_pos rfl, hrest]
      simp only [List.map_cons, List.intercalate_cons_cons, List.append_assoc]
      rfl

theorem takeWhile_dropWhile_cells (t : List Char) :
    (t.takeWhile (· ≠ '\n')).map (·, ({} : Pen)) ++ plainCells (t.dropWhile (· ≠ '\n')) =
      plainCells t := by
  rw [plainCells, ← List.map_append, List.takeWhile_append_dropWhile, plainCells]

/-- Text without sequences is drawn with the pen that is set up to the end of the row, and without a
style on the following ones. -/
theorem drawRows_self {t : List Char} (ht : escapeChar ∉ t) (pen : Pen) :
    ∃ q, (q = pen ∨ q = {}) ∧ ∀ b, Cursor.drawRows { pen } (t ++ b) =
      (t.takeWhile (· ≠ '\n')).map (·, pen) ++ plainCells (t.dropWhile (· ≠ '\n')) ++
        Cursor.drawRows { pen := q } b := by
  induction t generalizing pen with
  | nil => exact ⟨pen, .inl rfl, fun b => rfl⟩
  | cons c t ih =>
    rw [List.mem_cons, not_or] at ht
    by_cases hc : c = '\n'
    · obtain ⟨q, hq, hdraw⟩ := ih ht.2 {}
      refine ⟨q, .inr (or_self_iff.1 hq), fun b => ?_⟩
      rw [List.cons_append, Cursor.drawRows, if_pos hc, hdraw, takeWhile_dropWhile_cells,
        List.takeWhile_cons_of_neg (by simpa using hc),
        List.dropWhile_cons_of_neg (by simpa using hc), hc]
      rfl
    · have hne : c ≠ escapeChar := Ne.symm ht.1
      obtain ⟨q, hq, hdraw⟩ := ih ht.2 pen
      refine ⟨q, hq, fun b => ?_⟩
      rw [List.cons_append, Cursor.drawRows, if_neg hc, cells_of_ne pen hne, move_of_ne pen hne,
        hdraw, List.takeWhile_cons_of_pos (by simpa using hc),
        List.dropWhile_cons_of_pos (by simpa using hc)]
      rfl

theorem drawRows_styledSegment (d : Display) (hs : escapeChar ∉ s.text) (b : List Char) :
    Cursor.drawRows {} (styledSegment (highlightStyle d) s ++ b) =
      rowCells (highlightPen d) s ++ Cursor.drawRows {} b := by
  have hunbroken : ∀ {u : List Char}, IsStyle u → '\n' ∉ u := fun h hc =>
    absurd (h.unbroken _ hc) (by decide)
  cases s with
  | plain t =>
    obtain ⟨q, hq, hdraw⟩ := drawRows_self (t := t) hs {}
    obtain rfl := or_self_iff.1 hq
    exact (hdraw b).trans (congrArg (· ++ _) (takeWhile_dropWhile_cells t))
  | marked t =>
    have hstyle : '\n' ∉ highlightStyle d := by
      rw [highlightStyle, List.mem_append, not_or]
      exact ⟨hunbroken isStyle_bold, hunbroken (isStyle_code d.theme .yellow)⟩
    obtain ⟨hdraw, hafter⟩ := draw_highlightStyle d {}
    have hpen : Cursor.after {} (highlightStyle d) = { pen := highlightPen d } := hafter
    obtain ⟨q, -, hself⟩ := drawRows_self (t := t) hs (highlightPen d)
    rw [styledSegment, List.append_assoc, List.append_assoc, drawRows_append hstyle, hdraw, hpen,
      hself, drawRows_append (hunbroken isStyle_reset), after_reset,
      draw_of_isSequence isStyle_reset.sequence]
    rfl

theorem drawRows_styledSegments (d : Display) (hs : ∀ s ∈ printed, escapeChar ∉ s.text) :
    Cursor.drawRows {} (printed.flatMap (styledSegment (highlightStyle d))) =
      printed.flatMap (rowCells (highlightPen d)) := by
  induction printed with
  | nil => rfl
  | cons s rest ih =>
    rw [List.flatMap_cons, List.flatMap_cons, drawRows_styledSegment d (hs s (by simp)),
      ih fun r hr => hs r (by simp [hr])]

theorem escapeChar_not_mem_laidSegments (h : List.Forall₂ LaidSegment segs printed)
    (hs : ∀ s ∈ segs, escapeChar ∉ s.text) : ∀ s ∈ printed, escapeChar ∉ s.text := by
  have hlaid : ∀ {t laid : List Char}, Laid t laid → escapeChar ∉ t → escapeChar ∉ laid := by
    intro t laid h ht hc
    rcases h.mem_of_mem hc with hc | hc | hc
    · exact ht hc
    · exact absurd hc (by decide)
    · exact absurd hc (by decide)
  induction h with
  | nil => simp
  | cons hsegment _ ih =>
    rw [List.forall_mem_cons] at hs ⊢
    refine ⟨?_, ih hs.2⟩
    cases hsegment with
    | plain h => exact hlaid h hs.1
    | marked h => exact hlaid h hs.1

/-- The rows of a body are its segments laid out anew, drawn row by row. -/
theorem rows_drawn (hd : d.colors = true) (hfield : Untagged field.toList)
    (hesc : escapeChar ∉ field.toList) (hf : f.bodyHtml = snippet field query length) :
    ∃ printed, List.Forall₂ LaidSegment (shownSegments field query length) printed ∧
      [lineFeed].intercalate
          ((wrap (showMarkup f.bodyHtml.toList d.highlight) bodyWidth).map drawn) =
        printed.flatMap (rowCells (highlightPen d)) := by
  have hstyle : ∀ c ∈ highlightStyle d, Text.isBlank c = false := by
    intro c hc
    rcases List.mem_append.1 hc with hc | hc
    · exact isStyle_bold.unbroken c hc
    · exact (isStyle_code d.theme .yellow).unbroken c hc
  have hlaid := laid_wrap (showMarkup f.bodyHtml.toList d.highlight) bodyWidth
  rw [← drawRows_joinWith fun l hl => ne_lineFeed_of_mem_wrap hl]
  rw [hf, showMarkup_snippet hd hfield] at hlaid ⊢
  obtain ⟨printed, hprinted, heq⟩ := exists_laidSegments hstyle hlaid
  refine ⟨printed, hprinted, ?_⟩
  rw [heq, drawRows_styledSegments d]
  exact escapeChar_not_mem_laidSegments hprinted
    (escapeChar_not_mem_shownSegments hfield hesc query length)

theorem withoutLineFeeds_append (a b : List Cell) :
    withoutLineFeeds (a ++ b) = withoutLineFeeds a ++ withoutLineFeeds b := List.filter_append ..

theorem withoutLineFeeds_map (t : List Char) (pen : Pen) :
    withoutLineFeeds (t.map (·, pen)) = (t.filter (· ≠ '\n')).map (·, pen) := List.filter_map

/-- The characters of a mark on the row it began on, and those behind. -/
theorem withoutLineFeeds_split (t : List Char) (pen : Pen) :
    withoutLineFeeds (t.map (·, pen)) =
      withoutLineFeeds ((t.takeWhile (· ≠ '\n')).map (·, pen)) ++
        withoutLineFeeds ((t.dropWhile (· ≠ '\n')).map (·, pen)) := by
  rw [← withoutLineFeeds_append, ← List.map_append, List.takeWhile_append_dropWhile]

/-- A mark is drawn as it is marked exactly when it does not go on behind the end of a row. -/
theorem rowCells_marked_eq_iff (hne : inside ≠ {}) {t : List Char} :
    withoutLineFeeds (rowCells inside (.marked t)) =
      withoutLineFeeds (segmentCells {} inside (.marked t)) ↔
      ∀ c ∈ t.dropWhile (· ≠ '\n'), c = '\n' := by
  rw [rowCells, segmentCells, withoutLineFeeds_split, withoutLineFeeds_append,
    List.append_cancel_left_eq, plainCells, withoutLineFeeds_map, withoutLineFeeds_map,
    map_pen_eq_iff hne.symm, List.filter_eq_nil_iff]
  simp

theorem length_rowCells_marked (inside : Pen) (t : List Char) :
    (withoutLineFeeds (rowCells inside (.marked t))).length =
      (withoutLineFeeds (segmentCells {} inside (.marked t))).length := by
  rw [rowCells, segmentCells, withoutLineFeeds_split, withoutLineFeeds_append, plainCells]
  simp only [withoutLineFeeds_map, List.length_append, List.length_map]

/-- Rows are drawn as they are marked exactly when no mark goes on behind the end of one. -/
theorem rowCells_eq_iff (hne : inside ≠ {}) :
    withoutLineFeeds (printed.flatMap (rowCells inside)) =
      withoutLineFeeds (printed.flatMap (segmentCells {} inside)) ↔ ¬ BrokenMark printed := by
  induction printed with
  | nil => simp [BrokenMark]
  | cons s rest ih =>
    rw [List.flatMap_cons, List.flatMap_cons, withoutLineFeeds_append, withoutLineFeeds_append]
    cases s with
    | plain t =>
      rw [rowCells, segmentCells, plainCells, List.append_cancel_left_eq, ih]
      simp [BrokenMark]
    | marked t =>
      rw [append_eq_append_iff_of_length (length_rowCells_marked inside t),
        rowCells_marked_eq_iff hne, ih]
      simp only [BrokenMark, List.mem_cons, Segment.marked.injEq, not_exists, not_and, not_not]
      constructor
      · rintro ⟨ht, hrest⟩ u (rfl | hu)
        · exact ht
        · exact hrest u hu
      · exact fun hall => ⟨hall t (.inl rfl), fun u hu => hall u (.inr hu)⟩

/-! ## Results -/

/-- A text of an index without the escape character and without tags of marks. -/
structure PlainText (text : String) : Prop where
  escapeless : escapeChar ∉ text.toList
  untagged : Untagged text.toList

/-- How the result with the number `n` is drawn whose title and body show these segments. -/
structure Draws (d : Display) (n : Nat) (f : Fragment) (titleSegs bodySegs : List Segment) :
    Prop where
  rows_eq : d.resultRows n f = d.row (d.titleLine n f) ::
    (wrap (showMarkup f.bodyHtml.toList d.highlight) bodyWidth).map
      (fun l => d.row ("    ".toList ++ l)) ++ [d.row (d.linkLine f)]
  /-- The title is drawn in its style up to the first mark. -/
  title : drawn (d.row (d.titleLine n f)) = ('│', borderPen d) ::
    (plainCells (' ' :: (toString n).toList ++ ". ".toList) ++
      styledCells (highlightPen d) (titlePen d) titleSegs ++
        plainCells (padding boxWidth (d.titleLine n f)) ++ [('│', borderPen d)])
  title_iff : styledCells (highlightPen d) (titlePen d) titleSegs =
    titleSegs.flatMap (segmentCells (titlePen d) (highlightPen d)) ↔ ¬ PlainBehindMark titleSegs
  /-- A row of the body stands between borders, behind an indent. -/
  row : ∀ l ∈ wrap (showMarkup f.bodyHtml.toList d.highlight) bodyWidth,
    ∃ edge, drawn (d.row ("    ".toList ++ l)) =
        ('│', borderPen d) :: (plainCells "    ".toList ++ drawn l ++ edge) ∧
      ∀ cell ∈ edge, cell.1 = ' ' ∨ cell.1 = '│'
  /-- The rows are the segments laid out anew, and each mark is drawn in its style up to the end of
  the row. -/
  body : ∃ printed, List.Forall₂ LaidSegment bodySegs printed ∧
    [lineFeed].intercalate
        ((wrap (showMarkup f.bodyHtml.toList d.highlight) bodyWidth).map drawn) =
      printed.flatMap (rowCells (highlightPen d)) ∧
    (withoutLineFeeds (printed.flatMap (rowCells (highlightPen d))) =
      withoutLineFeeds (printed.flatMap (segmentCells {} (highlightPen d))) ↔
        ¬ BrokenMark printed)

theorem drawn_body_row (d : Display) (hesc : escapeChar ∉ f.bodyHtml.toList)
    (hl : l ∈ wrap (showMarkup f.bodyHtml.toList d.highlight) bodyWidth) :
    ∃ edge, drawn (d.row ("    ".toList ++ l)) =
        ('│', borderPen d) :: (plainCells "    ".toList ++ drawn l ++ edge) ∧
      ∀ cell ∈ edge, cell.1 = ' ' ∨ cell.1 = '│' := by
  have hindent : escapeChar ∉ "    ".toList := by decide
  obtain ⟨p, hp⟩ := exists_styled_of_mem_wrap (fun _ hs => hs.isStyle)
    (styled_showMarkup d hesc) hl
  obtain ⟨q, hafter⟩ := exists_after
    (((Styled.self hindent).append hp).mono fun _ => Display.Uses.isStyle) {}
  obtain ⟨hdraw, hafter'⟩ := draw_self {} hindent
  have hline : drawn ("    ".toList ++ l) = plainCells "    ".toList ++ drawn l := by
    rw [drawn, draw_append, hdraw, hafter']
    rfl
  refine ⟨(padding boxWidth ("    ".toList ++ l)).map (·, q) ++
    [('│', { q with color := (borderPen d).color })], ?_, fun cell hcell => ?_⟩
  · rw [drawn_row d hafter, hline, List.append_assoc]
  · rcases List.mem_append.1 hcell with hcell | hcell
    · obtain ⟨c, hc, rfl⟩ := List.mem_map.1 hcell
      exact .inl (List.eq_of_mem_replicate hc)
    · rw [List.mem_singleton.1 hcell]
      exact .inr rfl

theorem draws_fragment (hd : d.colors = true) {doc : Document} (htitle : PlainText doc.title)
    (hcontent : PlainText doc.content) (n : Nat) :
    Draws d n (doc.fragment query length) (shownSegments doc.title query length)
      (shownSegments doc.content query length) := by
  obtain ⟨hdrawn, hafter⟩ := drawn_titleLine (f := doc.fragment query length) hd htitle.untagged
    htitle.escapeless rfl n
  obtain ⟨printed, hprinted, hrows⟩ := rows_drawn (f := doc.fragment query length) hd
    hcontent.untagged hcontent.escapeless rfl
  have htitlePen : titlePen d ≠ {} := by simp [titlePen]
  have hinside : highlightPen d ≠ {} := by simp [highlightPen]
  refine ⟨rfl, ?_, styledCells_eq_iff htitlePen, fun l hl => drawn_body_row d ?_ hl, printed,
    hprinted, hrows, rowCells_eq_iff hinside⟩
  · rw [drawn_row d hafter, hdrawn]
    rfl
  · exact escapeChar_not_mem_snippet hcontent.escapeless query length

/-- **Marks on a terminal.** Between the borders of their box stand the lines of each result, with
an empty line between two results. With colors the lines are drawn one by one, each from a pen
without a style. In a title the marks are drawn in their style and the text up to the first mark in
that of titles; what follows a mark has none. In a body each mark is drawn in its style up to the
end of the row, and nothing else is styled.

So a title is drawn as it is marked exactly when nothing but marks follows its first mark, and a
body exactly when no mark goes on behind the end of a row. -/
theorem marks_drawn (d : Display) (hd : d.colors = true) (query : String) (length : Nat)
    (found : List Document) (h : ∀ doc ∈ found, PlainText doc.title ∧ PlainText doc.content) :
    let fs := found.map (·.fragment query length)
    d.results query fs = d.boxTop (Display.resultsLabel query fs.length) ::
        [d.row []].intercalate ((found.zipIdx 1).map fun r =>
          d.resultRows r.2 (r.1.fragment query length)) ++ [d.boxBottom] ∧
      drawn (Command.lines (d.results query fs)).toList =
        (d.results query fs).flatMap (fun l => drawn l ++ [lineFeed]) ∧
      ∀ r ∈ found.zipIdx 1, Draws d r.2 (r.1.fragment query length)
        (shownSegments r.1.title query length) (shownSegments r.1.content query length) := by
  intro fs
  refine ⟨?_, ?_, ?_⟩
  · rw [results_eq, resultsRows_eq, List.zipIdx_map, List.map_map]
    rfl
  · rw [Command.lines, String.toList_ofList]
    exact drawn_lines (reset_suffix_of_mem_results d)
  · intro r hr
    obtain ⟨htitle, hcontent⟩ := h r.1 (List.fst_mem_of_mem_zipIdx hr)
    exact draws_fragment hd htitle hcontent r.2

/-- A document whose title ends with its mark. -/
def guide : Document := { title := "My guide", content := "A guide" }

theorem shownSegments_guide : shownSegments guide.title "guide" 140 =
    [.plain "My ".toList, .marked "guide".toList, .plain []] := by decide +kernel

/-- A title that ends with its mark is drawn as it is marked. -/
theorem marks_drawn_guide :
    styledCells (highlightPen { colors := true }) (titlePen { colors := true })
        (shownSegments guide.title "guide" 140) =
      (shownSegments guide.title "guide" 140).flatMap
        (segmentCells (titlePen { colors := true }) (highlightPen { colors := true })) := by
  have hplain : ∀ doc ∈ [guide], PlainText doc.title ∧ PlainText doc.content := by
    rw [List.forall_mem_singleton]
    exact ⟨⟨by decide +kernel, by decide +kernel⟩, ⟨by decide +kernel, by decide +kernel⟩⟩
  obtain ⟨-, -, hdraws⟩ := marks_drawn { colors := true } rfl "guide" 140 [guide] hplain
  rw [List.zipIdx_singleton, List.forall_mem_singleton] at hdraws
  rw [hdraws.title_iff, shownSegments_guide, plainBehindMark_cons_plain,
    plainBehindMark_cons_marked]
  simp

/-- A title loses its style behind a mark: its last letter is drawn like text without one. -/
theorem title_unstyled_behind_mark :
    let d : Display := { colors := true }
    let doc : Document := { title := "xay", content := "a" }
    PlainText doc.title ∧ PlainText doc.content ∧
      shownSegments doc.title "a" 140 = [.plain ['x'], .marked ['a'], .plain ['y']] ∧
      ('y', {}) ∈ drawn (d.titleLine 1 (doc.fragment "a" 140)) := by
  intro d doc
  have htitle : PlainText doc.title := ⟨by decide, by decide⟩
  have hsegs : shownSegments doc.title "a" 140 = [.plain ['x'], .marked ['a'], .plain ['y']] := by
    decide +kernel
  refine ⟨htitle, ⟨by decide, by decide⟩, hsegs, ?_⟩
  rw [(drawn_titleLine rfl htitle.untagged htitle.escapeless rfl 1).1, hsegs]
  simp [styledCells]

end Terminal

end SearchPanel
