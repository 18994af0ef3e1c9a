import SearchPanel.Proofs.Terminal.Box
import SearchPanel.Text.Split

/-!
# What a terminal draws

A terminal reads a text from the left. A sequence changes its pen, every other character is drawn
with the pen that is set.

* `Cursor.draw`: the characters that are drawn, each with its pen, as many as are visible
  (`length_draw`). A text is drawn part by part (`draw_append`), and so are lines (`drawn_lines`).
* `draw_sequence`, `after_reset`, `after_bold`, `after_code`: what the sequences of the reports do.
* `drawn_row`: the line of a box is drawn as its content, between gray borders.
-/

namespace SearchPanel.Terminal

/-- How a terminal draws characters. -/
structure Pen where
  bold : Bool := false
  underline : Bool := false
  color : Option (Nat × Nat × Nat) := none
deriving DecidableEq

/-- The pen after the parameters of a sequence. -/
def Pen.select (pen : Pen) : List Nat → Pen
  | [] => pen
  | 0 :: rest => select {} rest
  | 1 :: rest => select { pen with bold := true } rest
  | 4 :: rest => select { pen with underline := true } rest
  | 38 :: 2 :: r :: g :: b :: rest => select { pen with color := some (r, g, b) } rest
  | _ :: rest => select pen rest

/-- The parameters of a sequence, from what stands between its first character and the `m`. One
that is no number counts as zero. -/
def parameters : List Char → List Nat
  | '[' :: text => (Text.splitAt ';' text).map fun p => (Text.numeral? 10 p).getD 0
  | _ => []

/-- A character that is drawn, with the pen that draws it. -/
abbrev Cell := Char × Pen

/-- A text drawn without a style. -/
def plainCells (text : List Char) : List Cell := text.map (·, {})

/-- The end of a line, where nothing is styled. -/
def lineFeed : Cell := ('\n', {})

/-- Where a terminal has come to in a text. -/
structure Cursor where
  pen : Pen := {}
  /-- What has been read of a sequence, last character first. -/
  pending : Option (List Char) := none

namespace Cursor

/-- The cursor behind a character. -/
def move (cursor : Cursor) (c : Char) : Cursor :=
  if c = escapeChar then { cursor with pending := some [] }
  else
    match cursor.pending with
    | none => cursor
    | some read =>
      if c = 'm' then { pen := cursor.pen.select (parameters read.reverse) }
      else { cursor with pending := some (c :: read) }

/-- What a character shows: itself, unless it belongs to a sequence. -/
def cells (cursor : Cursor) (c : Char) : List Cell :=
  if c = escapeChar ∨ cursor.pending.isSome then [] else [(c, cursor.pen)]

/-- The cursor behind a text. -/
def after (cursor : Cursor) (text : List Char) : Cursor := text.foldl move cursor

/-- The characters that are drawn for a text. -/
def draw (cursor : Cursor) : List Char → List Cell
  | [] => []
  | c :: text => cursor.cells c ++ (cursor.move c).draw text

end Cursor

/-- The characters that a terminal draws for a text, with the pen that it begins with. -/
def drawn (text : List Char) : List Cell := Cursor.draw {} text

variable {cursor : Cursor} {pen : Pen} {a b body text plain content s : List Char} {d : Display}
  {ls : List (List Char)}

/-! ## Part by part -/

theorem after_append (cursor : Cursor) (a b : List Char) :
    cursor.after (a ++ b) = (cursor.after a).after b := List.foldl_append

theorem draw_append (cursor : Cursor) (a b : List Char) :
    cursor.draw (a ++ b) = cursor.draw a ++ (cursor.after a).draw b := by
  induction a generalizing cursor with
  | nil => rfl
  | cons c a ih =>
    rw [List.cons_append, Cursor.draw, Cursor.draw, ih, List.append_assoc]
    rfl

/-- As many characters are drawn as are visible. -/
theorem length_draw (cursor : Cursor) (text : List Char) :
    (cursor.draw text).length = visibleFrom cursor.pending.isSome text := by
  induction text generalizing cursor with
  | nil => rfl
  | cons c text ih =>
    obtain ⟨pen, pending⟩ := cursor
    rw [Cursor.draw, List.length_append, ih, visibleFrom]
    by_cases hc : c = escapeChar
    · simp [Cursor.cells, Cursor.move, hc]
    · have hm : 'm' ≠ escapeChar := by decide
      cases pending with
      | none => simp [Cursor.cells, Cursor.move, hc, Nat.add_comm]
      | some read => by_cases hcm : c = 'm' <;> simp [Cursor.cells, Cursor.move, hc, hm, hcm]

theorem cells_of_ne (pen : Pen) {c : Char} (hc : c ≠ escapeChar) :
    Cursor.cells { pen } c = [(c, pen)] := by simp [Cursor.cells, hc]

theorem move_of_ne (pen : Pen) {c : Char} (hc : c ≠ escapeChar) :
    Cursor.move { pen } c = { pen } := by simp [Cursor.move, hc]

/-- Text without sequences is drawn with the pen that is set, and leaves it. -/
theorem draw_self (pen : Pen) (h : escapeChar ∉ text) :
    Cursor.draw { pen } text = text.map (·, pen) ∧ Cursor.after { pen } text = { pen } := by
  induction text with
  | nil => exact ⟨rfl, rfl⟩
  | cons c text ih =>
    rw [List.mem_cons, not_or] at h
    have hc : c ≠ escapeChar := Ne.symm h.1
    obtain ⟨hdraw, hafter⟩ := ih h.2
    constructor
    · rw [Cursor.draw, cells_of_ne pen hc, move_of_ne pen hc, hdraw]
      rfl
    · rw [Cursor.after, List.foldl_cons, move_of_ne pen hc]
      exact hafter

/-! ## Sequences -/

theorem draw_body (pen : Pen) (read : List Char) (he : escapeChar ∉ body) (hm : 'm' ∉ body) :
    Cursor.draw { pen, pending := some read } (body ++ ['m']) = [] ∧
      Cursor.after { pen, pending := some read } (body ++ ['m']) =
        { pen := pen.select (parameters (read.reverse ++ body)) } := by
  induction body generalizing read with
  | nil =>
    have hne : 'm' ≠ escapeChar := by decide
    simp [Cursor.draw, Cursor.after, Cursor.cells, Cursor.move, hne]
  | cons c body ih =>
    rw [List.mem_cons, not_or] at he hm
    have hcells : Cursor.cells { pen, pending := some read } c = [] := by simp [Cursor.cells]
    have hmove : Cursor.move { pen, pending := some read } c =
        { pen, pending := some (c :: read) } := by
      simp [Cursor.move, Ne.symm he.1, Ne.symm hm.1]
    obtain ⟨hdraw, hafter⟩ := ih (c :: read) he.2 hm.2
    constructor
    · rw [List.cons_append, Cursor.draw, hcells, hmove, hdraw]
      rfl
    · rw [List.cons_append, Cursor.after, List.foldl_cons, hmove]
      refine hafter.trans ?_
      simp

/-- A sequence draws nothing and changes the pen, also where another one was open. -/
theorem draw_sequence (he : escapeChar ∉ body) (hm : 'm' ∉ body) (cursor : Cursor) :
    cursor.draw (escapeChar :: (body ++ ['m'])) = [] ∧
      cursor.after (escapeChar :: (body ++ ['m'])) =
        { pen := cursor.pen.select (parameters body) } := by
  have hcells : cursor.cells escapeChar = [] := by simp [Cursor.cells]
  have hmove : cursor.move escapeChar = { cursor with pending := some [] } := by
    simp [Cursor.move]
  obtain ⟨hdraw, hafter⟩ := draw_body cursor.pen [] he hm
  constructor
  · rw [Cursor.draw, hcells, hmove, hdraw]
    rfl
  · rw [Cursor.after, List.foldl_cons, hmove]
    exact hafter

theorem draw_of_isSequence (h : IsSequence s) (cursor : Cursor) : cursor.draw s = [] := by
  obtain ⟨body, rfl, he, hm⟩ := h
  exact (draw_sequence he hm cursor).1

/-- The end of a style is the end of every style. -/
theorem after_reset (cursor : Cursor) : cursor.after reset = {} := by
  have he : escapeChar ∉ "[0".toList := by decide
  exact (draw_sequence he (by decide) cursor).2

theorem after_bold (cursor : Cursor) :
    cursor.after bold = { pen := { cursor.pen with bold := true } } := by
  have he : escapeChar ∉ "[1".toList := by decide
  exact (draw_sequence he (by decide) cursor).2

theorem exists_code_eq (theme : Theme) (color : Color) :
    ∃ body, color.code theme = escapeChar :: (body ++ ['m']) ∧
      escapeChar ∉ body ∧ 'm' ∉ body ∧
      parameters body =
        [38, 2, (color.rgb theme).1, (color.rgb theme).2.1, (color.rgb theme).2.2] := by
  refine ⟨((color.code theme).drop 1).dropLast, ?_⟩
  cases theme <;> cases color <;> decide +kernel

theorem after_code (theme : Theme) (color : Color) (cursor : Cursor) :
    cursor.after (color.code theme) =
      { pen := { cursor.pen with color := some (color.rgb theme) } } := by
  obtain ⟨body, hcode, he, hm, hparameters⟩ := exists_code_eq theme color
  rw [hcode, (draw_sequence he hm cursor).2, hparameters]
  rfl

/-- Behind a text whose sequences are complete none is open. -/
theorem exists_after (h : Styled IsStyle text plain) (pen : Pen) :
    ∃ q, Cursor.after { pen } text = { pen := q } := by
  induction h generalizing pen with
  | nil => exact ⟨pen, rfl⟩
  | @char c text plain hc _ ih =>
    rw [Cursor.after, List.foldl_cons, move_of_ne pen hc]
    exact ih pen
  | @sequence s text plain hs _ ih =>
    obtain ⟨body, rfl, he, hm⟩ := hs.sequence
    rw [after_append, (draw_sequence he hm _).2]
    exact ih _

/-! ## Lines -/

/-- The pen of the borders. -/
def borderPen (d : Display) : Pen := { color := some (Color.gray.rgb d.theme) }

theorem draw_border (d : Display) (cursor : Cursor) :
    cursor.draw d.border = [] ∧
      cursor.after d.border = { pen := { cursor.pen with color := (borderPen d).color } } :=
  ⟨draw_of_isSequence (isStyle_code d.theme .gray).sequence cursor, after_code d.theme .gray cursor⟩

theorem escapeChar_not_mem_padding (width : Nat) (text : List Char) :
    escapeChar ∉ padding width text := fun h =>
  absurd (List.eq_of_mem_replicate h) (by decide)

/-- The line of a box is drawn as its content between gray borders. The pen that the content leaves
fills the line up, and its weight goes over to the border on the right. -/
theorem drawn_row (d : Display) (h : Cursor.after {} content = { pen }) :
    drawn (d.row content) = ('│', borderPen d) :: (drawn content ++
      (padding boxWidth content).map (·, pen) ++
        [('│', { pen with color := (borderPen d).color })]) := by
  have hbar : escapeChar ∉ ['│'] := by decide
  obtain ⟨hpad, hpad'⟩ := draw_self pen (escapeChar_not_mem_padding boxWidth content)
  have hleft : ∀ cursor : Cursor, cursor.draw (d.border ++ ['│']) =
      [('│', { cursor.pen with color := (borderPen d).color })] := by
    intro cursor
    obtain ⟨hdraw, hafter⟩ := draw_border d cursor
    rw [draw_append, hdraw, hafter, (draw_self _ hbar).1]
    rfl
  have hrow : d.row content = d.border ++ ['│'] ++ reset ++ content ++ padding boxWidth content ++
      (d.border ++ ['│'] ++ reset) := by
    simp [Display.row]
  have hreset := draw_of_isSequence isStyle_reset.sequence
  rw [drawn, hrow]
  simp only [draw_append, hleft, hreset, after_append, after_reset, h, hpad, hpad', List.append_nil]
  rfl

/-- Lines that each end every style are drawn one by one. -/
theorem drawn_lines (h : ∀ l ∈ ls, reset <:+ l) :
    drawn (ls.flatMap (· ++ ['\n'])) = ls.flatMap fun l => drawn l ++ [lineFeed] := by
  induction ls with
  | nil => rfl
  | cons l ls ih =>
    have hfeed : escapeChar ∉ ['\n'] := by decide
    obtain ⟨hdraw, hafter⟩ := draw_self {} hfeed
    rw [List.flatMap_cons, List.flatMap_cons, ← ih fun m hm => h m (by simp [hm])]
    have hl : Cursor.after {} l = {} := by
      obtain ⟨text, rfl⟩ := h l (by simp)
      rw [after_append, after_reset]
    rw [drawn, draw_append, draw_append, after_append, hl, hdraw, hafter]
    rfl

/-- Every line of the results ends every style. -/
theorem reset_suffix_of_mem_results {query : String} {fs : List Fragment} (d : Display) :
    ∀ l ∈ d.results query fs, reset <:+ l := by
  have hrow : ∀ content, reset <:+ d.row content := fun _ =>
    (List.suffix_cons _ _).trans (List.suffix_append _ _)
  have htop : ∀ label, reset <:+ d.boxTop label := fun _ =>
    (List.suffix_cons _ _).trans (List.suffix_append _ _)
  have hbottom : reset <:+ d.boxBottom := (List.suffix_cons _ _).trans (List.suffix_append _ _)
  rw [forall_mem_results (P := (reset <:+ ·)) (hrow [])]
  exact ⟨htop _, fun r _ => ⟨hrow _, fun l _ => hrow l, hrow _⟩, hbottom⟩

end SearchPanel.Terminal
