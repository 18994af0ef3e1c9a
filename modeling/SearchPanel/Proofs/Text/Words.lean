import Mathlib.Data.List.Basic
import SearchPanel.Text.Blank

/-!
# The words of a text

* `words_eq`: the words are the pieces between the white space that are not empty. So a word is not
  empty and holds no white space (`of_mem_words`), and what holds of the empty text holds of the
  words exactly when it holds of the pieces (`forall_mem_words_iff`).
* `splitOnP_append_of_forall`: text without white space extends the first piece behind it.
* `words_append_blank`: white space parts the words in front of it from those behind it, and a text
  without white space is one word (`words_of_unbroken`).
-/

namespace SearchPanel.Text

variable {text front word : List Char} {c d : Char}

theorem words_eq (text : List Char) : words text = (text.splitOnP isBlank).filter (· ≠ []) := by
  fun_induction words text with
  | case1 => simp
  | case2 c hc => simp [List.splitOnP_cons_eq_if_modifyHead, hc]
  | case3 c hc => simp [List.splitOnP_cons_eq_if_modifyHead, hc]
  | case4 c d rest hc ih =>
    rw [List.splitOnP_cons_eq_if_modifyHead, if_pos hc, ih]
    simp
  | case5 c d rest hc hd ih =>
    rw [List.splitOnP_cons_eq_if_modifyHead, if_neg hc, ih,
      List.splitOnP_cons_eq_if_modifyHead d, if_pos hd]
    simp
  | case6 c d rest hc hd ih =>
    obtain ⟨w, ws, hw⟩ := List.exists_cons_of_ne_nil (List.splitOnP_ne_nil isBlank rest)
    rw [List.splitOnP_cons_eq_if_modifyHead, if_neg hc, ih,
      List.splitOnP_cons_eq_if_modifyHead d, if_neg hd, hw]
    simp [extendFirst]

/-- No piece between the white space holds white space. -/
theorem not_isBlank_of_mem_splitOnP (h : word ∈ text.splitOnP isBlank) (hc : c ∈ word) :
    isBlank c = false := by
  induction text generalizing word with
  | nil =>
    obtain rfl : word = [] := by simpa using h
    simp at hc
  | cons d rest ih =>
    rw [List.splitOnP_cons_eq_if_modifyHead] at h
    by_cases hd : isBlank d = true
    · rw [if_pos hd, List.mem_cons] at h
      rcases h with rfl | h
      · simp at hc
      · exact ih h hc
    · obtain ⟨w, ws, hw⟩ := List.exists_cons_of_ne_nil (List.splitOnP_ne_nil isBlank rest)
      rw [if_neg hd, hw, List.modifyHead_cons, List.mem_cons] at h
      rcases h with rfl | h
      · rcases List.mem_cons.1 hc with rfl | hc
        · simpa using hd
        · exact ih (by simp [hw]) hc
      · exact ih (by simp [hw, h]) hc

/-- A word is not empty and holds no white space. -/
theorem of_mem_words (h : word ∈ words text) : word ≠ [] ∧ ∀ c ∈ word, isBlank c = false := by
  rw [words_eq, List.mem_filter] at h
  exact ⟨by simpa using h.2, fun c => not_isBlank_of_mem_splitOnP h.1⟩

/-- Empty pieces are no words, so of them there is nothing to say. -/
theorem forall_mem_words_iff {P : List Char → Prop} (hnil : P []) :
    (∀ w ∈ words text, P w) ↔ ∀ w ∈ text.splitOnP isBlank, P w := by
  rw [words_eq]
  constructor
  · intro h w hw
    by_cases hne : w = []
    · rwa [hne]
    · exact h w (List.mem_filter.2 ⟨hw, by simpa using hne⟩)
  · exact fun h w hw => h w (List.mem_filter.1 hw).1

/-- Text without white space extends the first piece behind it. -/
theorem splitOnP_append_of_forall (h : ∀ c ∈ front, isBlank c = false) (text : List Char) :
    (front ++ text).splitOnP isBlank = (text.splitOnP isBlank).modifyHead (front ++ ·) := by
  induction front with
  | nil =>
    obtain ⟨w, ws, hw⟩ := List.exists_cons_of_ne_nil (List.splitOnP_ne_nil isBlank text)
    simp [hw]
  | cons c front ih =>
    obtain ⟨w, ws, hw⟩ := List.exists_cons_of_ne_nil (List.splitOnP_ne_nil isBlank text)
    have hc : isBlank c = false := h c (by simp)
    rw [List.cons_append, List.splitOnP_cons_eq_if_modifyHead, hc,
      ih fun d hd => h d (by simp [hd]), hw]
    simp

/-- White space parts the words in front of it from those behind it. -/
theorem words_append_blank (hc : isBlank c = true) (front text : List Char) :
    words (front ++ c :: text) = words front ++ words text := by
  rw [words_eq, words_eq, words_eq, List.splitOnP_append_cons front text hc, List.filter_append]

theorem words_of_unbroken (hne : text ≠ []) (h : ∀ c ∈ text, isBlank c = false) :
    words text = [text] := by
  rw [words_eq, List.splitOnP_eq_singleton h]
  simp [hne]

/-- Every word is its own only word. -/
theorem words_of_mem_words (h : word ∈ words text) : words word = [word] :=
  words_of_unbroken (of_mem_words h).1 (of_mem_words h).2

theorem flatMap_words_words (text : List Char) : (words text).flatMap words = words text := by
  have hword : ∀ w ∈ words text, words w = [w] := fun w => words_of_mem_words
  rw [List.flatMap_congr hword, List.flatMap_singleton']

end SearchPanel.Text
