import SearchPanel.Proofs.LoweredText.Table

/-!
# Markup in a text

* `IsReference piece`, `IsTag piece`: the piece is a character reference, or a tag.
* `isReferenceChar c`: `c` can stand in a character reference. Lowering leads from such characters
  to such characters, so a reference holds nothing else in the lowered text
  (`isReferenceChar_of_holds`).
-/

namespace SearchPanel.Text

variable {piece text : List Char} {a k o : Nat} {c : Char}

/-- The letters and digits of names and numbers. -/
def isNameChar (c : Char) : Bool :=
  let n := c.toNat
  (0x30 ≤ n && n ≤ 0x39) || (0x41 ≤ n && n ≤ 0x5A) || (0x61 ≤ n && n ≤ 0x7A)

/-- The characters of character references. -/
def isReferenceChar (c : Char) : Bool := isNameChar c || c = '&' || c = '#' || c = ';'

/-- A character reference, by name or by number; a number is decimal or, behind an `x`,
hexadecimal. -/
inductive IsReference : List Char → Prop
  | named (name : List Char) (hne : name ≠ []) (h : name.all isNameChar = true) :
    IsReference ('&' :: (name ++ [';']))
  | numbered (digits : List Char) (hne : digits ≠ []) (h : digits.all isNameChar = true) :
    IsReference ('&' :: '#' :: (digits ++ [';']))

/-- A tag: all from a `<` to the next `>`. -/
inductive IsTag : List Char → Prop
  | intro (inside : List Char) (h : '>' ∉ inside) : IsTag ('<' :: (inside ++ ['>']))

/-! ## The characters of a reference -/

theorem IsReference.all (h : IsReference piece) : piece.all isReferenceChar = true := by
  have hname : ∀ name : List Char, name.all isNameChar = true →
      name.all isReferenceChar = true := by
    intro name hall
    rw [List.all_eq_true] at hall ⊢
    intro c hc
    rw [isReferenceChar, hall c hc]
    rfl
  cases h with
  | named name hne hall =>
    rw [List.all_cons, List.all_append, hname name hall]
    decide
  | numbered digits hne hall =>
    rw [List.all_cons, List.all_cons, List.all_append, hname digits hall]
    decide

theorem lt_of_isReferenceChar (h : isReferenceChar c = true) : c.toNat < 128 := by
  simp only [isReferenceChar, isNameChar, Bool.or_eq_true, Bool.and_eq_true,
    decide_eq_true_eq] at h
  rcases h with ((h | rfl) | rfl) | rfl
  · omega
  · decide
  · decide
  · decide

theorem all_lowerChar_ascii : ((List.range 128).all fun n =>
    !isReferenceChar (Char.ofNat n) || (lowerChar (Char.ofNat n)).all isReferenceChar) = true := by
  decide +kernel

/-- Lowering leads from such a character to such a character. -/
theorem isReferenceChar_of_mem_lowerChar {d : Char} (hc : isReferenceChar c = true)
    (hd : d ∈ lowerChar c) : isReferenceChar d = true := by
  have hchar := List.all_eq_true.1 all_lowerChar_ascii c.toNat
    (List.mem_range.2 (lt_of_isReferenceChar hc))
  rw [Char.ofNat_toNat, hc] at hchar
  exact List.all_eq_true.1 hchar d hd

/-- What the characters of a reference hold in the lowered text are such characters too. -/
theorem isReferenceChar_of_holds (href : IsReference piece) (hp : StandsAt piece text a)
    (ha : a ≤ k) (hk : k < a + piece.length) (h : (LoweredText.ofChars text).Holds k o) :
    ∃ d, (lowerChars text)[o]? = some d ∧ isReferenceChar d = true := by
  obtain ⟨j, rfl⟩ := Nat.exists_eq_add_of_le ha
  have hj : j < piece.length := by omega
  have hc : text[a + j]? = some piece[j] := by
    rw [hp.getElem? hj, List.getElem?_eq_getElem hj]
  have hchar := List.all_eq_true.1 href.all piece[j] (List.getElem_mem hj)
  obtain ⟨form, hform, hcases⟩ := getElem?_pieces hc
  have hform' : (LoweredText.ofChars text).pieces[a + j]? = some form := hform
  obtain ⟨i, hi, -, hget⟩ := h.exists_getElem? hform'
  refine ⟨form[i], hget.trans (List.getElem?_eq_getElem hi), ?_⟩
  rcases hcases with rfl | ⟨hsigma, -⟩
  · exact isReferenceChar_of_mem_lowerChar hchar (List.getElem_mem hi)
  · rw [hsigma] at hchar
    exact absurd hchar (by decide)

end SearchPanel.Text
