import SearchPanel.Proofs.Snippet.Matching
import SearchPanel.Proofs.Text.Piece

/-!
# Queries copied from a document

A query that is a piece of a document's field finds the document if lowering the piece gives what
stands at its place in the lowered field (`standsAt_lowerChars_iff`). This fails for a piece that is
cut next to a capital sigma: by itself the piece ends there, and its last sigma takes the final
form, while the word goes on in the field (`matching_cut_word`). `mem_matching_of_copied` says when
it holds.
-/

namespace SearchPanel

open Text

variable {query field : String} {docs : List Document} {d : Document} {limit i : Nat}

/-! ## The place of a piece -/

/-- A piece by itself stands at its place in the lowered text exactly if it keeps its endings. -/
theorem standsAt_lowerChars_iff (before piece after : List Char) :
    StandsAt (lowerChars piece) (lowerChars (before ++ piece ++ after))
        ((LoweredText.ofChars (before ++ piece ++ after)).startOf before.length) ↔
      KeepsEndings before piece after := by
  have hpieces : pieces (before ++ piece ++ after) =
      piecesBetween [] before (piece ++ after) ++
        (piecesBetween before.reverse piece after ++
          piecesAfter (piece.reverse ++ before.reverse) after) := by
    rw [pieces, List.append_assoc, piecesAfter_append, List.append_nil, piecesAfter_append]
  have hplace : (LoweredText.ofChars (before ++ piece ++ after)).startOf before.length =
      (piecesBetween [] before (piece ++ after)).flatten.length := by
    rw [LoweredText.startOf, LoweredText.ofChars, hpieces,
      List.take_left' (length_piecesBetween [] before (piece ++ after))]
  have hlength : (piecesBetween before.reverse piece after).flatten.length =
      (lowerChars piece).length := by
    rw [lowerChars, pieces, ← piecesBetween_nil, length_flatten_piecesBetween]
  have htext : (lowerChars (before ++ piece ++ after)).drop
        ((LoweredText.ofChars (before ++ piece ++ after)).startOf before.length) =
      (piecesBetween before.reverse piece after).flatten ++
        (piecesAfter (piece.reverse ++ before.reverse) after).flatten := by
    rw [hplace, lowerChars, hpieces, List.flatten_append, List.drop_left, List.flatten_append]
  rw [keepsEndings_iff, StandsAt, htext, List.prefix_iff_eq_take, List.take_left' hlength, eq_comm]

/-! ## The documents found -/

/-- A cap that is at least the number of documents cuts nothing off. -/
theorem mem_matching_iff (hl : docs.length ≤ limit) : ⟨i, d⟩ ∈ matching query docs limit ↔
    docs[i]? = some d ∧ d.mentions (lowerChars query.toList) = true := by
  have hlength : (docs.zipIdx.filter fun e => e.1.mentions (lowerChars query.toList)).length ≤
      limit := by
    refine Nat.le_trans (List.length_filter_le ..) ?_
    rwa [List.length_zipIdx]
  rw [matching, List.take_of_length_le hlength, List.mem_map]
  constructor
  · rintro ⟨⟨d', i'⟩, hmem, he⟩
    obtain ⟨rfl, rfl⟩ := Hit.mk.inj he
    obtain ⟨hzip, hmentions⟩ := List.mem_filter.1 hmem
    exact ⟨List.mem_zipIdx_iff_getElem?.1 hzip, hmentions⟩
  · rintro ⟨hi, hmentions⟩
    exact ⟨(d, i), List.mem_filter.2 ⟨List.mem_zipIdx_iff_getElem?.2 hi, hmentions⟩, rfl⟩

/-! ## Main result -/

/-- **Copied queries.** Let the query be the piece of a searchable field of `d` between `before` and
`after`. By itself it stands at its own place in the lowered field exactly if it keeps its endings:
every capital sigma of it ends a word of the query exactly if it ends one of the field. If so, every
list that holds `d`, under every cap that is at least its length, returns `d` at each of its
positions. A query keeps its endings if each of its sigmas has on either side a character of the
query that is not case-ignorable, or nothing cased is met in the field behind the end of the query
there; so does a query without a capital sigma. A query that does not keep them finds `d` exactly if
it stands elsewhere in the lowered fields. -/
theorem mem_matching_of_copied (hf : field ∈ d.searchableFields) {before after : List Char}
    (hq : field.toList = before ++ query.toList ++ after) :
    (StandsAt (lowerChars query.toList) (lowerChars field.toList)
        ((LoweredText.ofChars field.toList).startOf before.length) ↔
      KeepsEndings before query.toList after) ∧
    (KeepsEndings before query.toList after → ∀ (docs : List Document) limit, docs.length ≤ limit →
      ∀ i, docs[i]? = some d → ⟨i, d⟩ ∈ matching query docs limit) ∧
    ((∀ left right, query.toList = left ++ 'Σ' :: right →
        (left.all isCaseIgnorable = false ∨ meetsCased before.reverse = false) ∧
          (right.all isCaseIgnorable = false ∨ meetsCased after = false)) →
      KeepsEndings before query.toList after) ∧
    ∀ (docs : List Document) limit, docs.length ≤ limit → ∀ i, docs[i]? = some d →
      (⟨i, d⟩ ∈ matching query docs limit ↔
        ∃ other ∈ d.searchableFields, lowerChars query.toList <:+: lowerChars other.toList) := by
  have hstands : StandsAt (lowerChars query.toList) (lowerChars field.toList)
      ((LoweredText.ofChars field.toList).startOf before.length) ↔
        KeepsEndings before query.toList after := by
    rw [hq]
    exact standsAt_lowerChars_iff before query.toList after
  have hfound : ∀ (docs : List Document) limit, docs.length ≤ limit → ∀ i, docs[i]? = some d →
      (⟨i, d⟩ ∈ matching query docs limit ↔
        ∃ other ∈ d.searchableFields, lowerChars query.toList <:+: lowerChars other.toList) := by
    intro docs limit hl i hi
    rw [mem_matching_iff hl, and_iff_right hi, Document.mentions_iff]
  refine ⟨hstands, fun hkeeps docs limit hl i hi => ?_, keepsEndings_of_forall, hfound⟩
  exact (hfound docs limit hl i hi).2
    ⟨field, hf, infix_iff_exists_standsAt.2 ⟨_, hstands.2 hkeeps⟩⟩

/-- A query from the middle of a word to the middle of another one. Its sigma ends a word in it, and
in the title. -/
theorem mem_matching_of_copied_words :
    let d : Document := { title := "ΟΔΟΣ ΟΔΟΥ" }
    "ΟΔΟΣ ΟΔΟΥ" ∈ d.searchableFields ∧
      "ΟΔΟΣ ΟΔΟΥ".toList = ['Ο'] ++ "ΔΟΣ ΟΔ".toList ++ ['Ο', 'Υ'] ∧
      KeepsEndings ['Ο'] "ΔΟΣ ΟΔ".toList ['Ο', 'Υ'] ∧
      ⟨1, d⟩ ∈ matching "ΔΟΣ ΟΔ" [{}, d] 2 := by
  intro d
  have hf : "ΟΔΟΣ ΟΔΟΥ" ∈ d.searchableFields := by decide
  have hq : "ΟΔΟΣ ΟΔΟΥ".toList = ['Ο'] ++ "ΔΟΣ ΟΔ".toList ++ ['Ο', 'Υ'] := by decide
  obtain ⟨hstands, hfound, -, -⟩ := mem_matching_of_copied hf hq
  have hkeeps : KeepsEndings ['Ο'] "ΔΟΣ ΟΔ".toList ['Ο', 'Υ'] := hstands.1 (by decide +kernel)
  exact ⟨hf, hq, hkeeps, hfound hkeeps [{}, d] 2 (by decide) 1 rfl⟩

/-- A word without its last letter. Its sigma ends the query but not the word of the title, so the
query does not find the document that it is copied from. -/
theorem matching_cut_word :
    let d : Document := { title := "ΟΔΟΣΑ" }
    "ΟΔΟΣΑ" ∈ d.searchableFields ∧ "ΟΔΟΣΑ".toList = [] ++ "ΟΔΟΣ".toList ++ ['Α'] ∧
      ¬ KeepsEndings [] "ΟΔΟΣ".toList ['Α'] ∧ matching "ΟΔΟΣ" [d] 1 = [] := by
  intro d
  refine ⟨by decide, by decide, fun h => ?_, by decide +kernel⟩
  have hsigma : endsWord ['Ο', 'Δ', 'Ο'] [] = endsWord ['Ο', 'Δ', 'Ο'] ['Α'] :=
    h ['Ο', 'Δ', 'Ο'] [] rfl
  exact absurd hsigma (by decide +kernel)

end SearchPanel
