import SearchPanel.Text.Lowercase
import SearchPanel.Text.Substring

/-!
# Places of a needle in a text

* `StandsAt needle text o`: `needle` stands at place `o` of `text`. It stands somewhere exactly when
  it is a piece of the text (`infix_iff_exists_standsAt`). What stands at two places that are closer
  than its length overlaps itself (`StandsAt.overlap`).
* `Leftmost needle text o`: `o` is the first such place. A needle that stands somewhere has exactly
  one (`exists_leftmost`, `Leftmost.unique`).
* A text has at least as many characters in lower case as before (`length_le_lowerChars`), so
  lowering never empties one.
-/

namespace SearchPanel.Text

variable {needle text : List Char} {o p : Nat}

/-- `needle` stands at place `o` of `text`. -/
def StandsAt (needle text : List Char) (o : Nat) : Prop := needle <+: text.drop o

instance : Decidable (StandsAt needle text o) :=
  inferInstanceAs (Decidable (needle <+: text.drop o))

/-- `o` is the first place of `text` where `needle` stands. -/
structure Leftmost (needle text : List Char) (o : Nat) : Prop where
  stands : StandsAt needle text o
  least : ∀ p < o, ¬ StandsAt needle text p

/-- A needle ends inside of the text that it stands in. -/
theorem StandsAt.add_length_le (h : StandsAt needle text o) (hn : needle ≠ []) :
    o + needle.length ≤ text.length := by
  have hl := h.length_le
  have hpos := List.length_pos_iff.2 hn
  rw [List.length_drop] at hl
  omega

/-- The characters of a needle in the text that it stands in. -/
theorem StandsAt.getElem? (h : StandsAt needle text o) {i : Nat} (hi : i < needle.length) :
    text[o + i]? = needle[i]? := by
  obtain ⟨rest, hrest⟩ := h
  rw [← List.getElem?_drop, ← hrest, List.getElem?_append_left hi]

/-- Two places of a needle that are closer than its length. -/
theorem StandsAt.overlap (ho : StandsAt needle text o) (hp : StandsAt needle text p) (hle : o ≤ p) :
    needle.drop (p - o) <+: needle := by
  obtain ⟨rest, hrest⟩ := ho
  rw [StandsAt, ← Nat.add_sub_cancel' hle, ← List.drop_drop, ← hrest] at hp
  rcases Nat.le_total (p - o) needle.length with hlt | hge
  · rw [List.drop_append_of_le_length hlt] at hp
    refine List.prefix_of_prefix_length_le (List.prefix_append _ rest) hp ?_
    rw [List.length_drop]
    exact Nat.sub_le _ _
  · rw [List.drop_eq_nil_of_le hge]
    exact List.nil_prefix

theorem Leftmost.unique (ho : Leftmost needle text o) (hp : Leftmost needle text p) : o = p := by
  rcases Nat.lt_trichotomy o p with h | h | h
  · exact absurd ho.stands (hp.least o h)
  · exact h
  · exact absurd hp.stands (ho.least p h)

theorem infix_iff_exists_standsAt : needle <:+: text ↔ ∃ o, StandsAt needle text o := by
  constructor
  · rintro ⟨before, after, rfl⟩
    refine ⟨before.length, after, ?_⟩
    rw [List.append_assoc, List.drop_left]
  · rintro ⟨o, h⟩
    exact h.isInfix.trans (List.drop_suffix o text).isInfix

/-- Among the places where a needle stands there is a first one. -/
theorem exists_leftmost (h : needle <:+: text) : ∃ o, Leftmost needle text o := by
  obtain ⟨o, ho⟩ := infix_iff_exists_standsAt.1 h
  induction o using Nat.strongRecOn with
  | ind o ih =>
    by_cases hp : ∃ p < o, StandsAt needle text p
    · obtain ⟨p, hlt, hs⟩ := hp
      exact ih p hlt hs
    · exact ⟨o, ho, fun p hlt hs => hp ⟨p, hlt, hs⟩⟩

/-! ## Lowering does not shorten a text -/

/-- No piece of a text is empty. -/
theorem ne_nil_of_mem_pieces {piece : List Char} (h : piece ∈ pieces text) : piece ≠ [] := by
  suffices H : ∀ before, piece ∈ piecesAfter before text → piece ≠ [] from H [] h
  clear h
  induction text with
  | nil => intro before h; cases h
  | cons c rest ih =>
    intro before h
    rcases List.mem_cons.1 h with rfl | h
    · exact lowerBetween_ne_nil before c rest
    · exact ih (c :: before) h

/-- Texts without empty ones among them are at most as many as their characters. -/
theorem length_le_length_flatten {texts : List (List Char)} (h : ∀ t ∈ texts, t ≠ []) :
    texts.length ≤ texts.flatten.length := by
  induction texts with
  | nil => exact Nat.le_refl 0
  | cons t rest ih =>
    have ht := List.length_pos_iff.2 (h t (by simp))
    have hr := ih fun u hu => h u (by simp [hu])
    rw [List.flatten_cons, List.length_append, List.length_cons]
    omega

theorem length_le_lowerChars (text : List Char) : text.length ≤ (lowerChars text).length := by
  have h : (pieces text).length ≤ (pieces text).flatten.length :=
    length_le_length_flatten fun _ => ne_nil_of_mem_pieces
  rwa [length_pieces] at h

theorem lowerChars_ne_nil (h : text ≠ []) : lowerChars text ≠ [] := by
  have hl := length_le_lowerChars text
  have hpos := List.length_pos_iff.2 h
  exact List.length_pos_iff.1 (by omega)

end SearchPanel.Text
