import SearchPanel.Proofs.Text.Bytes
import SearchPanel.Span

/-!
# Cuts asked for in characters

A slice is asked for by positions of characters and cut out at places in bytes. Both places are
read from one row, which holds each place where the text can be cut.

* `boundaries`: the places where the characters of a text begin, and the one where it ends.
  A position within the text has its place there (`getElem?_boundaries`), and behind the end of the
  row the text ends (`getD_boundaries`).
* `cutPlaces`: the first place is read behind `start` others, the second from what the first has
  left of the row. They are where the beginnings of the text with `start` and with
  `max start stop` characters end (`cutPlaces_eq`), so no cut falls inside of a character
  (`isValid_byteLength_take`).
* `cutOut?`: the text between these places. There always is one, the slice (`cutOut?_eq`).
-/

namespace SearchPanel.Text

variable {text : List Char} {a b k place : Nat}

/-! ## The row of places -/

/-- The places where the characters of a text begin, the first one at `place`. -/
def charPlaces (place : Nat) : List Char → List Nat
  | [] => []
  | c :: text => place :: charPlaces (place + c.utf8Size) text

/-- The places where a text can be cut: where its characters begin, and where it ends. -/
def boundaries (text : List Char) : List Nat := charPlaces 0 text ++ [byteLength text]

/-- Passes over `n` entries of a row and reads the next one, with what is left behind it. A row that
is read to its end stays at its end. -/
def readNth : (n : Nat) → (row : List Nat) → Option Nat × List Nat
  | _, [] => (none, [])
  | 0, place :: row => (some place, row)
  | n + 1, _ :: row => readNth n row

/-- The places between which the characters `start ≤ k < stop` stand. The second is read from what
the first has left of the row; a place that the row does not have is the end of the text. -/
def cutPlaces (text : List Char) (start stop : Nat) : Nat × Nat :=
  let (low?, rest) := readNth start (boundaries text)
  let low := low?.getD (byteLength text)
  let high :=
    if start < stop then (readNth (stop - start - 1) rest).1.getD (byteLength text) else low
  (low, high)

/-- The text between these places, unless one of them lies inside of a character or behind the end,
or they stand in the wrong order. -/
def cutOut? (text : List Char) (start stop : Nat) : Option (List Char) :=
  byteSlice? text (cutPlaces text start stop).1 (cutPlaces text start stop).2

@[simp]
theorem length_charPlaces (place : Nat) (text : List Char) :
    (charPlaces place text).length = text.length := by
  induction text generalizing place with
  | nil => rfl
  | cons c text ih => rw [charPlaces, List.length_cons, ih, List.length_cons]

theorem getElem?_charPlaces (hk : k < text.length) :
    (charPlaces place text)[k]? = some (place + byteLength (text.take k)) := by
  induction text generalizing place k with
  | nil => cases hk
  | cons c text ih =>
    cases k with
    | zero => rfl
    | succ k =>
      rw [charPlaces, List.getElem?_cons_succ, ih (Nat.lt_of_succ_lt_succ hk), List.take_succ_cons,
        byteLength_cons, Nat.add_assoc]

/-- A position within the text, or at its end, has its place in the row. -/
theorem getElem?_boundaries (hk : k ≤ text.length) :
    (boundaries text)[k]? = some (byteLength (text.take k)) := by
  rcases Nat.lt_or_eq_of_le hk with hlt | rfl
  · rw [boundaries, List.getElem?_append_left (by rwa [length_charPlaces]),
      getElem?_charPlaces hlt, Nat.zero_add]
  · rw [boundaries, List.getElem?_append_right (Nat.le_of_eq (length_charPlaces _ _)),
      length_charPlaces, Nat.sub_self, List.take_length]
    rfl

/-- Behind the end of the row the text ends. -/
theorem getD_boundaries (text : List Char) (k : Nat) :
    (boundaries text)[k]?.getD (byteLength text) = byteLength (text.take k) := by
  rcases Nat.lt_or_ge text.length k with hlt | hle
  · have hrow : (boundaries text).length ≤ k := by
      rw [boundaries, List.length_append, length_charPlaces]
      exact hlt
    rw [List.getElem?_eq_none hrow, Option.getD_none, List.take_of_length_le (Nat.le_of_lt hlt)]
  · rw [getElem?_boundaries hle, Option.getD_some]

theorem readNth_eq (n : Nat) (row : List Nat) : readNth n row = (row[n]?, row.drop (n + 1)) := by
  fun_induction readNth n row with
  | case1 => rfl
  | case2 => rfl
  | case3 n place row ih => rw [ih, List.getElem?_cons_succ, List.drop_succ_cons]

/-! ## The places of a cut -/

theorem cutPlaces_eq (text : List Char) (a b : Nat) :
    cutPlaces text a b = (byteLength (text.take a), byteLength (text.take (max a b))) := by
  simp only [cutPlaces, readNth_eq, getD_boundaries, List.getElem?_drop]
  split
  · next h =>
    -- the row has been read up to the place of `a`, that one included
    have hnext : a + 1 + (b - a - 1) = b := by omega
    rw [hnext, Nat.max_eq_right (Nat.le_of_lt h)]
  · next h => rw [Nat.max_eq_left (Nat.le_of_not_lt h)]

/-- A text can be cut where one of its beginnings ends. -/
theorem isValid_byteLength_take (text : List Char) (k : Nat) :
    (String.Pos.Raw.mk (byteLength (text.take k))).IsValid (String.ofList text) := by
  rw [String.Pos.Raw.isValid_iff_exists_append]
  refine ⟨String.ofList (text.take k), String.ofList (text.drop k), ?_, ?_⟩
  · rw [← String.ofList_append, List.take_append_drop]
  · rw [← utf8ByteSize_ofList]
    rfl

/-! ## The text of a cut -/

theorem take_append_slice (text : List Char) (a b : Nat) :
    text.take a ++ slice text a b = text.take (max a b) := by
  rcases Nat.lt_or_ge a b with hlt | hge
  · have hsum : a + (b - a) = b := by omega
    rw [slice, ← List.take_add, hsum, Nat.max_eq_right (Nat.le_of_lt hlt)]
  · rw [slice_eq_nil_of_le text hge, List.append_nil, Nat.max_eq_left hge]

/-- A cut never fails, and cuts out the slice. -/
theorem cutOut?_eq (text : List Char) (a b : Nat) : cutOut? text a b = some (slice text a b) := by
  have hcut := byteSlice?_append (text.take a) (slice text a b) (text.drop (max a b))
  rw [take_append_slice, List.take_append_drop] at hcut
  rw [cutOut?, cutPlaces_eq, hcut]

/-- Two bytes for the second character, and a position behind the end. -/
example : cutPlaces "héllo".toList 1 3 = (1, 4) ∧ cutPlaces "héllo".toList 4 9 = (5, 6) := by decide

end SearchPanel.Text
