/-!
# Substrings

`occursIn needle text` decides whether `needle` stands somewhere in `text`, character by character;
the empty needle stands in every text. `cut? pattern text` splits a text at the first place where
`pattern` stands (`eq_of_cut?`).
-/

namespace SearchPanel.Text

/-- Whether `needle` stands somewhere in `text`. -/
def occursIn (needle : List Char) : List Char → Bool
  | [] => needle.isEmpty
  | c :: rest => needle.isPrefixOf (c :: rest) || occursIn needle rest

/-- The text before the first `pattern`, and the text behind it. -/
def cut? (pattern : List Char) : List Char → Option (List Char × List Char)
  | [] => if pattern.isEmpty then some ([], []) else none
  | c :: rest =>
    if pattern.isPrefixOf (c :: rest) then some ([], (c :: rest).drop pattern.length)
    else (cut? pattern rest).map fun (before, after) => (c :: before, after)

theorem occursIn_iff {needle text : List Char} :
    occursIn needle text = true ↔ needle <:+: text := by
  induction text with
  | nil => simp [occursIn]
  | cons c rest ih =>
    rw [occursIn, Bool.or_eq_true, List.isPrefixOf_iff_prefix, ih, List.infix_cons_iff]

/-- A cut loses nothing but the pattern. -/
theorem eq_of_cut? {pattern text before after : List Char}
    (h : cut? pattern text = some (before, after)) : text = before ++ pattern ++ after := by
  induction text generalizing before with
  | nil =>
    simp only [cut?, List.isEmpty_iff] at h
    split at h <;> simp_all
  | cons c rest ih =>
    rw [cut?] at h
    split at h
    · next hp =>
      obtain ⟨t, ht⟩ := List.isPrefixOf_iff_prefix.1 hp
      obtain ⟨rfl, rfl⟩ := by simpa using h
      rw [← ht]
      simp
    · obtain ⟨⟨b, a⟩, hb, he⟩ := Option.map_eq_some_iff.1 h
      obtain ⟨rfl, rfl⟩ := by simpa using he
      rw [ih hb]
      rfl

/-- What stands behind a pattern is shorter than the text. -/
theorem length_after_cut? {pattern text before after : List Char}
    (h : cut? pattern text = some (before, after)) :
    after.length + pattern.length ≤ text.length := by
  rw [eq_of_cut? h]
  simp
  omega

end SearchPanel.Text
