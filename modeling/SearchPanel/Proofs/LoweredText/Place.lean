import SearchPanel.LoweredText
import SearchPanel.Proofs.Occurrence

/-!
# Places of a lowered text and the source characters that hold them

* `startOf t k`: the place where the form of source character `k` begins. `Holds t k o`: source
  character `k` holds the lowered character at place `o`.
* `Covers t s o n`: the source span `s` runs from the holder of the first to the holder of the last
  of the `n` lowered characters from place `o` on. `FirstHit t needle s`: `s` covers the leftmost
  occurrence of `needle`.
* `owned` lists the lowered characters in order (`map_fst_owned`), each beside its holder
  (`holds_of_owned`). The holders never decrease (`pairwise_owned`), and a window of source
  characters is a stretch of the list (`owned_append`).
* A span that covers some lowered characters is the least one whose forms hold them
  (`Covers.encloses`, `Covers.least`). It has at most as many source characters if no form is empty
  (`Covers.stop_le`).
-/

namespace SearchPanel.LoweredText

variable {t : LoweredText} {needle : List Char} {s : Span} {k l o n : Nat}

/-- The place in the lowered text where source character `k` begins. -/
def startOf (t : LoweredText) (k : Nat) : Nat := (t.pieces.take k).flatten.length

/-- Source character `k` holds the lowered character at place `o`. -/
def Holds (t : LoweredText) (k o : Nat) : Prop := t.startOf k ≤ o ∧ o < t.startOf (k + 1)

/-- `s` is the source span of the `n` lowered characters from place `o` on. -/
structure Covers (t : LoweredText) (s : Span) (o n : Nat) : Prop where
  first : t.Holds s.first o
  last : ∃ k, t.Holds k (o + n - 1) ∧ s.stop = k + 1

/-- `s` is the source span of the leftmost occurrence of `needle`. -/
def FirstHit (t : LoweredText) (needle : List Char) (s : Span) : Prop :=
  ∃ o, Text.Leftmost needle t.chars o ∧ t.Covers s o needle.length

/-! ## Starts of the source characters -/

theorem chars_ofChars (text : List Char) : (ofChars text).chars = Text.lowerChars text := rfl

theorem charCount_ofChars (text : List Char) : (ofChars text).charCount = text.length :=
  Text.length_pieces text

theorem startOf_mono (h : k ≤ l) : t.startOf k ≤ t.startOf l := by
  obtain ⟨d, rfl⟩ := Nat.exists_eq_add_of_le h
  rw [startOf, startOf, List.take_add, List.flatten_append, List.length_append]
  exact Nat.le_add_right _ _

/-- Source characters without empty forms among them begin at different places. -/
theorem startOf_add_le (hp : ∀ piece ∈ t.pieces, piece ≠ []) (h : l ≤ t.charCount) (hk : k ≤ l) :
    t.startOf k + (l - k) ≤ t.startOf l := by
  obtain ⟨d, rfl⟩ := Nat.exists_eq_add_of_le hk
  rw [startOf, startOf, List.take_add, List.flatten_append, List.length_append]
  have hd : ((t.pieces.drop k).take d).length = d := by
    rw [List.length_take, List.length_drop]
    rw [charCount] at h
    omega
  have hne : ∀ piece ∈ (t.pieces.drop k).take d, piece ≠ [] := fun piece hm =>
    hp piece (List.mem_of_mem_drop (List.mem_of_mem_take hm))
  have hl := Text.length_le_length_flatten hne
  omega

/-- A lowered character has one holder. -/
theorem Holds.unique (hk : t.Holds k o) (hl : t.Holds l o) : k = l := by
  obtain ⟨hk₁, hk₂⟩ := hk
  obtain ⟨hl₁, hl₂⟩ := hl
  rcases Nat.lt_trichotomy k l with h | h | h
  · have := startOf_mono (t := t) (show k + 1 ≤ l from h)
    omega
  · exact h
  · have := startOf_mono (t := t) (show l + 1 ≤ k from h)
    omega

/-- A holder is a source character. -/
theorem Holds.lt_charCount (h : t.Holds k o) : k < t.charCount := by
  rcases Nat.lt_or_ge k t.charCount with hk | hk
  · exact hk
  · obtain ⟨h₁, h₂⟩ := h
    rw [charCount] at hk
    rw [startOf, List.take_of_length_le hk] at h₁
    rw [startOf, List.take_of_length_le (by omega)] at h₂
    omega

/-- The forms of a span hold what it covers. -/
theorem Covers.encloses (hc : t.Covers s o n) (hn : 0 < n) :
    t.startOf s.first ≤ o ∧ o + n ≤ t.startOf s.stop := by
  obtain ⟨⟨hf, -⟩, k, ⟨-, hk⟩, he⟩ := hc
  rw [he]
  exact ⟨hf, by omega⟩

/-- No smaller span holds what a span covers. -/
theorem Covers.least {r : Span} (hc : t.Covers s o n) (hn : 0 < n) (hf : t.startOf r.first ≤ o)
    (hl : o + n ≤ t.startOf r.stop) : r.first ≤ s.first ∧ s.stop ≤ r.stop := by
  obtain ⟨⟨-, hs⟩, k, ⟨hk, -⟩, he⟩ := hc
  constructor
  · refine Nat.le_of_not_lt fun hlt => ?_
    have := startOf_mono (t := t) (show s.first + 1 ≤ r.first from hlt)
    omega
  · refine Nat.le_of_not_lt fun hlt => ?_
    have := startOf_mono (t := t) (show r.stop ≤ k by omega)
    omega

/-- Without empty forms a span has at most as many source characters as the lowered ones it
covers. -/
theorem Covers.stop_le (hp : ∀ piece ∈ t.pieces, piece ≠ []) (hc : t.Covers s o n) (hn : 0 < n) :
    s.stop ≤ s.first + n := by
  obtain ⟨⟨-, hf⟩, k, hk, he⟩ := hc
  rcases Nat.lt_or_ge s.first k with hlt | hge
  · have hs := startOf_add_le hp (Nat.le_of_lt hk.lt_charCount) (show s.first + 1 ≤ k from hlt)
    have := hk.1
    omega
  · omega

/-! ## The lowered characters beside their holders -/

theorem map_fst_owned (k : Nat) (pieces : List (List Char)) :
    (owned k pieces).map Prod.fst = pieces.flatten := by
  induction pieces generalizing k with
  | nil => rfl
  | cons piece rest ih =>
    rw [owned, List.map_append, ih, List.map_map, List.flatten_cons]
    simp [Function.comp_def]

theorem length_owned (k : Nat) (pieces : List (List Char)) :
    (owned k pieces).length = pieces.flatten.length := by
  rw [← map_fst_owned k pieces, List.length_map]

theorem owned_append (k : Nat) (before after : List (List Char)) :
    owned k (before ++ after) = owned k before ++ owned (k + before.length) after := by
  induction before generalizing k with
  | nil => rfl
  | cons piece rest ih =>
    have hk : k + (piece :: rest).length = k + 1 + rest.length := by simp; omega
    rw [List.cons_append, owned, owned, ih, List.append_assoc, hk]

theorem owned_take_drop (k n : Nat) (pieces : List (List Char)) : owned k pieces =
    owned k (pieces.take n) ++ owned (k + (pieces.take n).length) (pieces.drop n) := by
  rw [← owned_append, List.take_append_drop]

/-- The holders of a stretch that begins with source character `k`. -/
theorem mem_owned {pieces : List (List Char)} {x : Char × Nat} (h : x ∈ owned k pieces) :
    k ≤ x.2 ∧ x.2 < k + pieces.length := by
  induction pieces generalizing k with
  | nil => cases h
  | cons piece rest ih =>
    rw [owned, List.mem_append] at h
    rw [List.length_cons]
    rcases h with h | h
    · obtain ⟨c, -, rfl⟩ := List.mem_map.1 h
      simp
    · have := ih h
      omega

theorem pairwise_owned (k : Nat) (pieces : List (List Char)) :
    (owned k pieces).Pairwise (·.2 ≤ ·.2) := by
  induction pieces generalizing k with
  | nil => exact List.Pairwise.nil
  | cons piece rest ih =>
    rw [owned, List.pairwise_append]
    refine ⟨?_, ih (k + 1), fun x hx y hy => ?_⟩
    · rw [List.pairwise_map]
      exact List.pairwise_of_forall fun _ _ => Nat.le_refl k
    · obtain ⟨c, -, rfl⟩ := List.mem_map.1 hx
      have := (mem_owned hy).1
      simp only
      omega

/-- The holder beside a character of a stretch, as a position in it. -/
theorem getElem?_owned {pieces : List (List Char)} {c : Char} {j : Nat}
    (h : (owned k pieces)[o]? = some (c, j)) :
    ∃ i, j = k + i ∧ (pieces.take i).flatten.length ≤ o ∧
      o < (pieces.take (i + 1)).flatten.length := by
  induction pieces generalizing k o with
  | nil => cases h
  | cons piece rest ih =>
    rw [owned] at h
    rcases Nat.lt_or_ge o piece.length with hlt | hge
    · rw [List.getElem?_append_left (by simpa using hlt), List.getElem?_map,
        List.getElem?_eq_getElem hlt] at h
      obtain ⟨-, rfl⟩ := by simpa using h
      exact ⟨0, rfl, by simp, by simpa using hlt⟩
    · rw [List.getElem?_append_right (by simpa using hge), List.length_map] at h
      obtain ⟨i, rfl, h₁, h₂⟩ := ih h
      refine ⟨i + 1, by omega, ?_, ?_⟩
      · rw [List.take_succ_cons, List.flatten_cons, List.length_append]
        omega
      · rw [List.take_succ_cons, List.flatten_cons, List.length_append]
        omega

/-- The holder that `owned` writes beside a lowered character. -/
theorem holds_of_owned {c : Char} (h : (owned 0 t.pieces)[o]? = some (c, k)) : t.Holds k o := by
  obtain ⟨i, rfl, h₁, h₂⟩ := getElem?_owned h
  rw [Nat.zero_add]
  exact ⟨h₁, h₂⟩

/-- Each place of the lowered text has a holder. -/
theorem exists_owned (h : o < t.chars.length) :
    ∃ c k, (owned 0 t.pieces)[o]? = some (c, k) ∧ t.Holds k o := by
  rw [chars, ← length_owned 0] at h
  have hget := List.getElem?_eq_getElem h
  exact ⟨_, _, hget, holds_of_owned hget⟩

/-- The lowered text up to source character `k`, and from there on. -/
theorem owned_split (hk : k ≤ t.charCount) :
    owned 0 t.pieces = owned 0 (t.pieces.take k) ++ owned k (t.pieces.drop k) := by
  rw [owned_take_drop 0 k, List.length_take_of_le hk, Nat.zero_add]

end SearchPanel.LoweredText
