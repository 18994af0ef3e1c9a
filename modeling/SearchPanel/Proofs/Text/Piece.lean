import SearchPanel.Text.Lowercase

/-!
# Lowering a piece of a text

A piece can have another lower-case form by itself than in its text, for the form of a capital
sigma depends on what stands around it.

* `piecesBetween before piece after`: the forms of the characters of `piece` where it stands
  between `before` and `after`. The forms of a text are those of its pieces
  (`piecesAfter_append`).
* `KeepsEndings before piece after`: every capital sigma of the piece ends a word of the piece
  exactly if it ends one of the text. This is when the piece has the same form by itself
  (`keepsEndings_iff`).
* Whether a sigma ends a word is told by the nearest characters that are not case-ignorable
  (`meetsCased_append`). So a piece keeps its endings when these stand in the piece, or when
  nothing cased is cut off next to it (`keepsEndings_of_forall`).
-/

namespace SearchPanel.Text

variable {before before' piece after after' left right : List Char}

/-- The lower-case forms of the characters of a piece that stands between `before`, read backwards,
and `after`. -/
def piecesBetween (before : List Char) : (piece after : List Char) → List (List Char)
  | [], _ => []
  | c :: rest, after =>
    lowerBetween before c (rest ++ after) :: piecesBetween (c :: before) rest after

/-- Every capital sigma of `piece` ends a word of the piece exactly if it ends one of the text
`before ++ piece ++ after`. -/
def KeepsEndings (before piece after : List Char) : Prop :=
  ∀ left right, piece = left ++ 'Σ' :: right →
    endsWord left.reverse right = endsWord (before ++ left).reverse (right ++ after)

/-! ## The forms of a piece -/

theorem piecesAfter_append (before piece after : List Char) :
    piecesAfter before (piece ++ after) =
      piecesBetween before piece after ++ piecesAfter (piece.reverse ++ before) after := by
  induction piece generalizing before with
  | nil => rfl
  | cons c rest ih =>
    rw [List.cons_append, piecesAfter, ih, piecesBetween, List.cons_append, List.reverse_cons,
      List.append_assoc, List.singleton_append]

theorem piecesBetween_nil (before piece : List Char) :
    piecesBetween before piece [] = piecesAfter before piece := by
  rw [← List.append_nil (piecesBetween before piece []), ← List.append_nil piece,
    piecesAfter_append]
  simp [piecesAfter]

theorem length_piecesBetween (before piece after : List Char) :
    (piecesBetween before piece after).length = piece.length := by
  induction piece generalizing before with
  | nil => rfl
  | cons c rest ih => rw [piecesBetween, List.length_cons, List.length_cons, ih]

/-- What stands around a character does not change how long its form is. -/
theorem length_lowerBetween (before before' after after' : List Char) (c : Char) :
    (lowerBetween before c after).length = (lowerBetween before' c after').length := by
  unfold lowerBetween
  split <;> rfl

/-- What stands around a character changes its form only if it is a sigma. -/
theorem lowerBetween_eq_iff {c : Char} :
    lowerBetween before c after = lowerBetween before' c after' ↔
      (c = 'Σ' → endsWord before after = endsWord before' after') := by
  unfold lowerBetween
  split
  · next hc =>
    rw [forall_prop_of_true hc]
    cases endsWord before after <;> cases endsWord before' after' <;> decide
  · next hc => exact iff_of_true rfl fun h => absurd h hc

/-- A piece reads the same between two surroundings exactly if each of its sigmas does. -/
theorem flatten_piecesBetween_eq_iff :
    (piecesBetween before piece after).flatten = (piecesBetween before' piece after').flatten ↔
      ∀ left right, piece = left ++ 'Σ' :: right →
        endsWord (left.reverse ++ before) (right ++ after) =
          endsWord (left.reverse ++ before') (right ++ after') := by
  induction piece generalizing before before' with
  | nil => simp [piecesBetween]
  | cons c rest ih =>
    have hsplit : (piecesBetween before (c :: rest) after).flatten =
          (piecesBetween before' (c :: rest) after').flatten ↔
        lowerBetween before c (rest ++ after) = lowerBetween before' c (rest ++ after') ∧
          (piecesBetween (c :: before) rest after).flatten =
            (piecesBetween (c :: before') rest after').flatten := by
      rw [piecesBetween, piecesBetween, List.flatten_cons, List.flatten_cons]
      constructor
      · exact fun h => List.append_inj h (length_lowerBetween ..)
      · rintro ⟨hhead, hrest⟩
        rw [hhead, hrest]
    rw [hsplit, lowerBetween_eq_iff, ih]
    constructor
    · rintro ⟨hhead, hrest⟩ left right he
      rcases List.cons_eq_append_iff.1 he with ⟨rfl, he⟩ | ⟨left', rfl, hrest'⟩
      · obtain ⟨rfl, rfl⟩ := List.cons.inj he
        exact hhead rfl
      · simpa using hrest left' right hrest'
    · intro h
      refine ⟨?_, fun left right he => ?_⟩
      · rintro rfl
        exact h [] rest rfl
      · simpa using h (c :: left) right (by rw [he, List.cons_append])

theorem keepsEndings_iff : KeepsEndings before piece after ↔
    (piecesBetween before.reverse piece after).flatten = lowerChars piece := by
  rw [lowerChars, pieces, ← piecesBetween_nil, eq_comm, flatten_piecesBetween_eq_iff]
  simp only [KeepsEndings, List.append_nil, List.reverse_append]

/-- What stands around a piece does not change how long its form is. -/
theorem length_flatten_piecesBetween (before before' piece after after' : List Char) :
    (piecesBetween before piece after).flatten.length =
      (piecesBetween before' piece after').flatten.length := by
  induction piece generalizing before before' with
  | nil => rfl
  | cons c rest ih =>
    rw [piecesBetween, piecesBetween, List.flatten_cons, List.flatten_cons, List.length_append,
      List.length_append, ih (c :: before) (c :: before')]
    exact congrArg (· + _) (length_lowerBetween ..)

/-! ## Pieces that keep their endings -/

/-- The nearest character that is not case-ignorable tells whether a text meets a cased one. -/
theorem meetsCased_append (left right : List Char) : meetsCased (left ++ right) =
    if left.all isCaseIgnorable then meetsCased right else meetsCased left := by
  induction left with
  | nil => rfl
  | cons c rest ih =>
    rw [List.cons_append, meetsCased, meetsCased, ih, List.all_cons]
    cases isCaseIgnorable c <;> rfl

theorem meetsCased_eq_false (h : left.all isCaseIgnorable = true) : meetsCased left = false := by
  rw [← List.append_nil left, meetsCased_append, if_pos h, meetsCased]

/-- What is added to a text is not met if the text has a character that is not case-ignorable, or if
the addition meets nothing cased itself. -/
theorem meetsCased_append_eq_self
    (h : left.all isCaseIgnorable = false ∨ meetsCased right = false) :
    meetsCased (left ++ right) = meetsCased left := by
  rw [meetsCased_append]
  split
  · next hall =>
    rw [hall] at h
    rw [meetsCased_eq_false hall]
    exact h.resolve_left Bool.noConfusion
  · rfl

/-- A piece keeps its endings if each of its sigmas has on either side a character of the piece that
is not case-ignorable, or nothing cased is met behind the end of the piece there. -/
theorem keepsEndings_of_forall (h : ∀ left right, piece = left ++ 'Σ' :: right →
      (left.all isCaseIgnorable = false ∨ meetsCased before.reverse = false) ∧
        (right.all isCaseIgnorable = false ∨ meetsCased after = false)) :
    KeepsEndings before piece after := by
  intro left right he
  obtain ⟨hleft, hright⟩ := h left right he
  rw [endsWord, endsWord, List.reverse_append, meetsCased_append_eq_self hright,
    meetsCased_append_eq_self (by rwa [List.all_reverse])]

end SearchPanel.Text
