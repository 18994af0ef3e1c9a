import SearchPanel.Proofs.Terminal.Styled
import SearchPanel.Text.Split

/-!
# Wrapped text

* `forall_mem_wrap`: what holds of words holds of wrapped lines. So wrapping cuts no sequence
  (`exists_styled_of_mem_wrap`).
* `forall_wrap_le_iff`: wrapped text is as wide as its widest word, if that is wider than the lines.
* `Laid text laid`: `laid` is `text` with its white space laid out anew. It is laid out part by part
  (`Laid.append_inv`), and wrapping does nothing else (`laid_wrap`).
-/

namespace SearchPanel.Terminal

variable {allowed : List Char → Prop} {plain text line l laid a b s : List Char} {c d : Char}
  {words : List (List Char)} {width n : Nat}

/-! ## Words on lines -/

/-- A line is made of words by putting a space between them. -/
theorem forall_mem_fillLines {P : List Char → Prop} (hjoin : ∀ a b, P a → P b → P (a ++ ' ' :: b))
    (hline : P line) (hwords : ∀ w ∈ words, P w) : ∀ l ∈ fillLines width line words, P l := by
  fun_induction fillLines width line words with
  | case1 line => exact List.forall_mem_singleton.2 hline
  | case2 line word rest hwide ih =>
    rw [List.forall_mem_cons] at hwords ⊢
    exact ⟨hline, ih hwords.1 hwords.2⟩
  | case3 line word rest hfits ih =>
    rw [List.forall_mem_cons] at hwords
    exact ih (hjoin _ _ hline hwords.1) hwords.2

/-- What holds of words, and of words with a space between them, holds of wrapped lines. -/
theorem forall_mem_wrap {P : List Char → Prop} (hjoin : ∀ a b, P a → P b → P (a ++ ' ' :: b))
    (hwords : ∀ w ∈ Text.words text, P w) : ∀ l ∈ wrap text width, P l := by
  unfold wrap
  generalize Text.words text = words at hwords
  cases words with
  | nil => simp
  | cons word rest =>
    rw [List.forall_mem_cons] at hwords
    exact forall_mem_fillLines hjoin hwords.1 hwords.2

theorem ne_lineFeed_of_mem_wrap (hl : l ∈ wrap text width) : '\n' ∉ l := by
  have hspace : '\n' ≠ ' ' := by decide
  refine forall_mem_wrap (P := ('\n' ∉ ·)) (fun a b ha hb => ?_) (fun w hw hc => ?_) l hl
  · simp [ha, hb, hspace]
  · exact absurd ((Text.of_mem_words hw).2 _ hc) (by decide)

/-- Wrapping cuts no sequence. -/
theorem exists_styled_of_mem_wrap (hallowed : ∀ s, allowed s → IsStyle s)
    (h : Styled allowed text plain) (hl : l ∈ wrap text width) : ∃ p, Styled allowed l p := by
  have hspace : ' ' ≠ escapeChar := by decide
  refine forall_mem_wrap (P := fun l => ∃ p, Styled allowed l p) ?_
    (fun w => h.exists_of_mem_words hallowed) l hl
  rintro a b ⟨p, hp⟩ ⟨q, hq⟩
  exact ⟨_, hp.append (.char hspace hq)⟩

/-- Lines get wider than their width by words alone. -/
theorem forall_fillLines_le_iff (hline : ∃ p, Styled IsStyle line p)
    (hwords : ∀ w ∈ words, ∃ p, Styled IsStyle w p) (hn : width ≤ n) :
    (∀ l ∈ fillLines width line words, visibleLength l ≤ n) ↔
      visibleLength line ≤ n ∧ ∀ w ∈ words, visibleLength w ≤ n := by
  have hspace : ' ' ≠ escapeChar := by decide
  fun_induction fillLines width line words with
  | case1 line => simp
  | case2 line word rest hwide ih =>
    rw [List.forall_mem_cons, List.forall_mem_cons]
    exact and_congr_right fun _ => ih (hwords word (by simp)) fun w hw => hwords w (by simp [hw])
  | case3 line word rest hfits ih =>
    obtain ⟨p, hp⟩ := hline
    obtain ⟨q, hq⟩ := hwords word (by simp)
    have hjoined := hp.append (Styled.char hspace hq)
    have hlength : visibleLength (line ++ ' ' :: word) =
        visibleLength line + 1 + visibleLength word := by
      rw [hjoined.visibleLength_eq, hp.visibleLength_eq, hq.visibleLength_eq]
      simp only [List.length_append, List.length_cons]
      omega
    refine (ih ⟨_, hjoined⟩ fun w hw => hwords w (by simp [hw])).trans ?_
    rw [List.forall_mem_cons, hlength]
    -- the line with the word on it fits, so both parts of it do
    constructor
    · rintro ⟨-, hall⟩
      exact ⟨by omega, by omega, hall⟩
    · rintro ⟨-, -, hall⟩
      exact ⟨by omega, hall⟩

theorem forall_wrap_le_iff (h : Styled IsStyle text plain) (hn : width ≤ n) :
    (∀ l ∈ wrap text width, visibleLength l ≤ n) ↔ ∀ w ∈ Text.words plain, w.length ≤ n := by
  rw [← h.words_le_iff]
  have hwords : ∀ w ∈ Text.words text, ∃ p, Styled IsStyle w p := fun w hw =>
    h.exists_of_mem_words (fun _ hs => hs) hw
  unfold wrap
  generalize Text.words text = words at hwords
  cases words with
  | nil => simp
  | cons word rest =>
    rw [List.forall_mem_cons]
    exact forall_fillLines_le_iff (hwords word (by simp)) (fun w hw => hwords w (by simp [hw])) hn

/-! ## White space laid out anew -/

/-- The text with each of its blanks left out, or replaced by a space or a line feed. -/
inductive Laid : List Char → List Char → Prop
  | nil : Laid [] []
  | char {c : Char} {text laid : List Char} (hc : Text.isBlank c = false) (h : Laid text laid) :
    Laid (c :: text) (c :: laid)
  | dropped {c : Char} {text laid : List Char} (hc : Text.isBlank c = true) (h : Laid text laid) :
    Laid (c :: text) laid
  | spaced {c d : Char} {text laid : List Char} (hc : Text.isBlank c = true)
    (hd : d = ' ' ∨ d = '\n') (h : Laid text laid) : Laid (c :: text) (d :: laid)

namespace Laid

theorem append_inv (h : Laid (a ++ b) laid) : ∃ u v, laid = u ++ v ∧ Laid a u ∧ Laid b v := by
  induction a generalizing laid with
  | nil => exact ⟨[], laid, rfl, .nil, h⟩
  | cons c a ih =>
    cases h with
    | char hc h =>
      obtain ⟨u, v, rfl, hu, hv⟩ := ih h
      exact ⟨c :: u, v, rfl, .char hc hu, hv⟩
    | dropped hc h =>
      obtain ⟨u, v, rfl, hu, hv⟩ := ih h
      exact ⟨u, v, rfl, .dropped hc hu, hv⟩
    | @spaced _ d _ _ hc hd h =>
      obtain ⟨u, v, rfl, hu, hv⟩ := ih h
      exact ⟨d :: u, v, rfl, .spaced hc hd hu, hv⟩

/-- Text without white space stays as it is. -/
theorem eq_of_unbroken (hs : ∀ c ∈ s, Text.isBlank c = false) (h : Laid s laid) : laid = s := by
  induction h with
  | nil => rfl
  | char _ _ ih => rw [ih fun c hc => hs c (by simp [hc])]
  | dropped hc _ _ | spaced hc _ _ _ => simp [hs _ List.mem_cons_self] at hc

theorem mem_of_mem (h : Laid text laid) (hc : c ∈ laid) : c ∈ text ∨ c = ' ' ∨ c = '\n' := by
  induction h with
  | nil => cases hc
  | char _ _ ih =>
    rcases List.mem_cons.1 hc with rfl | hc
    · simp
    · exact (ih hc).imp_left fun h => by simp [h]
  | dropped _ _ ih => exact (ih hc).imp_left fun h => by simp [h]
  | spaced _ hd _ ih =>
    rcases List.mem_cons.1 hc with rfl | hc
    · exact .inr hd
    · exact (ih hc).imp_left fun h => by simp [h]

/-- What begins without white space does not need the blank in front of it. -/
theorem behind_blank (hd : Text.isBlank d = true) (hl : ∀ c ∈ laid.head?, Text.isBlank c = false)
    (h : Laid (d :: text) laid) : Laid text laid := by
  cases h with
  | char hc _ => simp [hd] at hc
  | dropped _ h => exact h
  | spaced _ he _ =>
    have := hl _ rfl
    rcases he with rfl | rfl <;> exact absurd this (by decide)

end Laid

/-- The words with a space or a line feed between two of them. -/
inductive Joined : List (List Char) → List Char → Prop
  | nil : Joined [] []
  | one (word : List Char) : Joined [word] word
  | cons {word : List Char} {words : List (List Char)} {text : List Char} {c : Char}
    (hc : c = ' ' ∨ c = '\n') (hw : words ≠ []) (h : Joined words text) :
    Joined (word :: words) (word ++ c :: text)

theorem Joined.split {word : List Char} (h : Joined ((line ++ ' ' :: word) :: words) text) :
    Joined (line :: word :: words) text := by
  cases h with
  | one => exact .cons (.inl rfl) (by simp) (.one word)
  | cons hc hw h =>
    rw [List.append_assoc]
    exact .cons (.inl rfl) (by simp) (.cons hc hw h)

theorem fillLines_ne_nil (width : Nat) (line : List Char) (words : List (List Char)) :
    fillLines width line words ≠ [] := by
  fun_induction fillLines width line words with
  | case1 | case2 => simp
  | case3 _ _ _ _ ih => exact ih

theorem joined_fillLines (width : Nat) (line : List Char) (words : List (List Char)) :
    Joined (line :: words) (Text.joinWith '\n' (fillLines width line words)) := by
  fun_induction fillLines width line words with
  | case1 line => exact .one line
  | case2 line word rest hwide ih =>
    obtain ⟨l, ls, hfill⟩ := List.exists_cons_of_ne_nil (fillLines_ne_nil width word rest)
    rw [hfill] at ih ⊢
    exact .cons (.inr rfl) (by simp) ih
  | case3 line word rest hfits ih => exact ih.split

theorem joined_wrap (text : List Char) (width : Nat) :
    Joined (Text.words text) (Text.joinWith '\n' (wrap text width)) := by
  unfold wrap
  cases Text.words text with
  | nil => exact .nil
  | cons word rest => exact joined_fillLines width word rest

/-- Words begin without white space, and so does what they are joined to. -/
theorem Joined.not_isBlank_of_head (h : Joined words text)
    (hwords : ∀ w ∈ words, w ≠ [] ∧ ∀ c ∈ w, Text.isBlank c = false) :
    ∀ c ∈ text.head?, Text.isBlank c = false := by
  cases h with
  | nil => simp
  | one word => exact fun c hc => (hwords _ (by simp)).2 c (List.mem_of_mem_head? hc)
  | @cons word words text c hc hw h =>
    obtain ⟨hne, hblank⟩ := hwords word (by simp)
    obtain ⟨x, word, rfl⟩ := List.exists_cons_of_ne_nil hne
    intro d hd
    obtain rfl : x = d := Option.some.inj hd
    exact hblank x (by simp)

/-- The words of a text with white space between them are the text laid out anew. -/
theorem Laid.of_joined (h : Joined (Text.words text) laid) : Laid text laid := by
  fun_induction Text.words text generalizing laid with
  | case1 =>
    cases h
    exact .nil
  | case2 c hc =>
    cases h
    exact .dropped hc .nil
  | case3 c hc =>
    cases h with
    | one => exact .char (by simpa using hc) .nil
    | cons _ hw _ => exact absurd rfl hw
  | case4 c d rest hc ih => exact .dropped hc (ih h)
  | case5 c d rest hc hd ih =>
    have hc : Text.isBlank c = false := by simpa using hc
    generalize hwords : Text.words (d :: rest) = words at h ih
    cases h with
    | one => exact .char hc (ih .nil)
    | @cons word words text s hs hw h =>
      -- the separator stands for the blank `d`, what follows it is laid out behind that
      have hhead := h.not_isBlank_of_head fun w hw => Text.of_mem_words (hwords ▸ hw)
      exact .char hc (.spaced hd hs ((ih h).behind_blank hd hhead))
  | case6 c d rest hc hd ih =>
    have hc : Text.isBlank c = false := by simpa using hc
    generalize Text.words (d :: rest) = words at h ih
    cases words with
    | nil =>
      cases h with
      | one => exact .char hc (ih .nil)
      | cons _ hw _ => exact absurd rfl hw
    | cons word words =>
      cases h with
      | one => exact .char hc (ih (.one word))
      | cons hs hw h => exact .char hc (ih (.cons hs hw h))

/-- Wrapping lays out the white space of a text anew, and does nothing else. -/
theorem laid_wrap (text : List Char) (width : Nat) :
    Laid text (Text.joinWith '\n' (wrap text width)) := .of_joined (joined_wrap text width)

end SearchPanel.Terminal
