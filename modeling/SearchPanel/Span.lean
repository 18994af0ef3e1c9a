/-!
# Spans

A stretch of a text, counted in characters: from position `first` up to, and without, position
`stop`. `slice` reads the characters there, as far as the text has them.
-/

namespace SearchPanel

/-- The positions `first ≤ k < stop` of a text. -/
structure Span where
  first : Nat
  stop : Nat
deriving DecidableEq, Repr, Inhabited

/-- The characters of `text` at the positions `first ≤ k < stop` that exist. -/
def slice (text : List Char) (first stop : Nat) : List Char := (text.drop first).take (stop - first)

/-- Reading up to `b` and then from `b` is reading in one go. -/
theorem slice_append_slice {a b c : Nat} (text : List Char) (hab : a ≤ b) (hbc : b ≤ c) :
    slice text a b ++ slice text b c = slice text a c := by
  have h : text.drop b = (text.drop a).drop (b - a) := by
    rw [List.drop_drop, Nat.add_sub_cancel' hab]
  have hc : c - a = (b - a) + (c - b) := by omega
  rw [slice, slice, slice, h, hc, List.take_add]

theorem slice_eq_nil_of_le {a b : Nat} (text : List Char) (h : b ≤ a) : slice text a b = [] := by
  simp [slice, Nat.sub_eq_zero_of_le h]

end SearchPanel
