import SearchPanel.Proofs.Terminal.Wrap

/-!
# Greedy lines

Words go on a line as long as they fit. They are measured one by one, and a word may leave a
sequence open that hides characters of the following ones, so the width of a line is not the sum of
theirs.

* `visibleLength_append_le`: still it is never more than that.
* `mem_or_fits_of_mem_fillLines`, `isChain_fillLines`: a line that is wider than it should be is a
  single word, and a line is ended by a word that does not fit on it.
* `wrap_greedy`: what wrapping does to a text.
-/

namespace SearchPanel.Terminal

variable {a b text line word l : List Char} {words : List (List Char)} {width : Nat}

/-- The line `l` has no room for the first word of the line `m`. -/
def NoRoom (width : Nat) (l m : List Char) : Prop :=
  ∃ word rest, Text.words m = word :: rest ∧ width < visibleLength l + 1 + visibleLength word

/-! ## Widths -/

/-- An open sequence hides characters and shows none. -/
theorem visibleFrom_true_le (text : List Char) :
    visibleFrom true text ≤ visibleFrom false text := by
  induction text with
  | nil => exact Nat.le_refl 0
  | cons c text ih =>
    by_cases hc : c = escapeChar
    · simp [visibleFrom, hc]
    · have hopen : visibleFrom true (c :: text) = visibleFrom (c ≠ 'm') text := by
        simp [visibleFrom, hc]
      have hclosed : visibleFrom false (c :: text) = visibleFrom false text + 1 := by
        simp [visibleFrom, hc]
      have hle : visibleFrom (c ≠ 'm') text ≤ visibleFrom false text := by
        by_cases hm : c = 'm'
        · simp [hm]
        · simpa [hm] using ih
      omega

theorem visibleFrom_append_le (inside : Bool) (a b : List Char) :
    visibleFrom inside (a ++ b) ≤ visibleFrom inside a + visibleFrom false b := by
  induction a generalizing inside with
  | nil =>
    rw [List.nil_append, visibleFrom, Nat.zero_add]
    cases inside
    · exact Nat.le_refl _
    · exact visibleFrom_true_le b
  | cons c a ih =>
    rw [List.cons_append, visibleFrom, visibleFrom]
    split
    · exact ih true
    · split
      · exact ih _
      · have := ih false
        omega

/-- A text is no wider than its parts together. -/
theorem visibleLength_append_le (a b : List Char) :
    visibleLength (a ++ b) ≤ visibleLength a + visibleLength b := visibleFrom_append_le false a b

theorem visibleLength_join_le (line word : List Char) :
    visibleLength (line ++ ' ' :: word) ≤ visibleLength line + 1 + visibleLength word := by
  have hspace : ' ' ≠ escapeChar := by decide
  have hword : visibleLength (' ' :: word) = visibleLength word + 1 := by
    simp [visibleLength, visibleFrom, hspace]
  have happend := visibleLength_append_le line (' ' :: word)
  omega

/-! ## Lines -/

theorem joinWith_merge (line word : List Char) (words : List (List Char)) :
    Text.joinWith ' ' ((line ++ ' ' :: word) :: words) =
      Text.joinWith ' ' (line :: word :: words) := by
  cases words <;> simp [Text.joinWith]

/-- With spaces for the ends of lines, the lines are the words with spaces between them. -/
theorem joinWith_fillLines (width : Nat) (line : List Char) (words : List (List Char)) :
    Text.joinWith ' ' (fillLines width line words) = Text.joinWith ' ' (line :: words) := by
  fun_induction fillLines width line words with
  | case1 line => rfl
  | case2 line word rest hwide ih =>
    obtain ⟨l, ls, hfill⟩ := List.exists_cons_of_ne_nil (fillLines_ne_nil width word rest)
    have hcons : ∀ m ms, Text.joinWith ' ' (line :: m :: ms) =
        line ++ ' ' :: Text.joinWith ' ' (m :: ms) := fun _ _ => rfl
    rw [hfill] at ih ⊢
    rw [hcons, hcons, ih]
  | case3 line word rest hfits ih => rw [ih, joinWith_merge]

theorem words_fillLines (width : Nat) (line : List Char) (words : List (List Char)) :
    (fillLines width line words).flatMap Text.words =
      Text.words line ++ words.flatMap Text.words := by
  have hspace : Text.isBlank ' ' = true := by decide
  fun_induction fillLines width line words with
  | case1 line => simp
  | case2 line word rest hwide ih => rw [List.flatMap_cons, ih, List.flatMap_cons]
  | case3 line word rest hfits ih =>
    rw [ih, Text.words_append_blank hspace, List.flatMap_cons, List.append_assoc]

/-- Only a line to which nothing was added may be too wide. -/
theorem mem_or_fits_of_mem_fillLines (hl : l ∈ fillLines width line words) :
    l ∈ line :: words ∨ visibleLength l ≤ width := by
  fun_induction fillLines width line words with
  | case1 line => exact .inl hl
  | case2 line word rest hwide ih =>
    rcases List.mem_cons.1 hl with rfl | hl
    · exact .inl List.mem_cons_self
    · exact (ih hl).imp_left (List.mem_cons_of_mem _)
  | case3 line word rest hfits ih =>
    rcases ih hl with hmem | hle
    · rcases List.mem_cons.1 hmem with rfl | hmem
      · exact .inr (Nat.le_trans (visibleLength_join_le line word) (Nat.le_of_not_lt hfits))
      · exact .inl (List.mem_cons_of_mem _ (List.mem_cons_of_mem _ hmem))
    · exact .inr hle

/-- The first line begins with the words that were on it before. -/
theorem words_prefix_of_fillLines (width : Nat) (line : List Char) (words : List (List Char)) :
    ∃ l ls, fillLines width line words = l :: ls ∧ Text.words line <+: Text.words l := by
  have hspace : Text.isBlank ' ' = true := by decide
  fun_induction fillLines width line words with
  | case1 line => exact ⟨line, [], rfl, List.prefix_refl _⟩
  | case2 line word rest hwide ih => exact ⟨line, _, rfl, List.prefix_refl _⟩
  | case3 line word rest hfits ih =>
    obtain ⟨l, ls, hfill, hprefix⟩ := ih
    rw [Text.words_append_blank hspace] at hprefix
    exact ⟨l, ls, hfill, (List.prefix_append _ _).trans hprefix⟩

/-- A line is ended by the word that the next one begins with, and this did not fit on it. -/
theorem isChain_fillLines (hwords : ∀ w ∈ words, Text.words w = [w]) :
    (fillLines width line words).IsChain (NoRoom width) := by
  fun_induction fillLines width line words with
  | case1 line => exact .singleton line
  | case2 line word rest hwide ih =>
    rw [List.forall_mem_cons] at hwords
    have hrest := ih hwords.2
    obtain ⟨l, ls, hfill, hprefix⟩ := words_prefix_of_fillLines width word rest
    rw [hwords.1] at hprefix
    obtain ⟨more, hmore⟩ := hprefix
    rw [hfill] at hrest ⊢
    exact .cons_cons ⟨word, more, hmore.symm, hwide⟩ hrest
  | case3 line word rest hfits ih =>
    rw [List.forall_mem_cons] at hwords
    exact ih hwords.2

/-! ## Main result -/

theorem ne_nil_of_mem_wrap (hl : l ∈ wrap text width) : l ≠ [] :=
  forall_mem_wrap (P := (· ≠ [])) (fun _ _ _ _ => by simp) (fun _ hw => (Text.of_mem_words hw).1)
    l hl

/-- **Greedy wrapping.** Whatever the text and the width, also where sequences are open: the words
of the text stand on the lines one after the other with single spaces between them, and nothing else
does. No line is empty, a line that is wider than it should be is a single word, and no line has
room for the first word of the next one. -/
theorem wrap_greedy (text : List Char) (width : Nat) :
    Text.joinWith ' ' (wrap text width) = Text.joinWith ' ' (Text.words text) ∧
    (wrap text width).flatMap Text.words = Text.words text ∧
    (∀ l ∈ wrap text width, l ≠ [] ∧ (l ∈ Text.words text ∨ visibleLength l ≤ width)) ∧
    (wrap text width).IsChain (NoRoom width) := by
  have hwords : ∀ w ∈ Text.words text, Text.words w = [w] := fun w => Text.words_of_mem_words
  have hflat := Text.flatMap_words_words text
  have hne : ∀ l ∈ wrap text width, l ≠ [] := fun l => ne_nil_of_mem_wrap
  unfold wrap at hne ⊢
  generalize Text.words text = words at hwords hflat hne ⊢
  cases words with
  | nil => simp
  | cons word rest =>
    rw [List.forall_mem_cons] at hwords
    rw [List.flatMap_cons] at hflat
    exact ⟨joinWith_fillLines width word rest, (words_fillLines width word rest).trans hflat,
      fun l hl => ⟨hne l hl, mem_or_fits_of_mem_fillLines hl⟩, isChain_fillLines hwords.2⟩

end SearchPanel.Terminal
