/-!
# Cutting a text at a character

`splitAt c` gives the pieces of a text between its characters `c`; there is always one piece more
than there are such characters. `joinWith c` puts the character back, so that no other text has the
same pieces (`joinWith_splitAt`).
-/

namespace SearchPanel.Text

/-- The pieces of a text between its characters `c`. -/
def splitAt (c : Char) : List Char → List (List Char)
  | [] => [[]]
  | d :: rest =>
    if d = c then [] :: splitAt c rest
    else match splitAt c rest with
      | [] => [[d]]
      | piece :: pieces => (d :: piece) :: pieces

/-- The pieces in one text, with `c` between two of them. -/
def joinWith (c : Char) : List (List Char) → List Char
  | [] => []
  | [piece] => piece
  | piece :: pieces => piece ++ c :: joinWith c pieces

theorem splitAt_ne_nil (c : Char) (text : List Char) : splitAt c text ≠ [] := by
  cases text with
  | nil => simp [splitAt]
  | cons d rest =>
    unfold splitAt
    split
    · simp
    · split <;> simp

/-- Nothing is lost between the pieces. -/
theorem joinWith_splitAt (c : Char) (text : List Char) : joinWith c (splitAt c text) = text := by
  induction text with
  | nil => rfl
  | cons d rest ih =>
    unfold splitAt
    split
    · next h =>
      obtain ⟨piece, pieces, hp⟩ := List.exists_cons_of_ne_nil (splitAt_ne_nil c rest)
      rw [hp] at ih ⊢
      simp [joinWith, ih, h]
    · split
      · next h => exact absurd h (splitAt_ne_nil c rest)
      · next piece pieces hp =>
        rw [hp] at ih
        cases pieces with
        | nil => simp_all [joinWith]
        | cons => simp_all [joinWith]

end SearchPanel.Text
