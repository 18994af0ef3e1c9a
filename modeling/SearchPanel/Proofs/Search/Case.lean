import SearchPanel.Proofs.Occurrence
import SearchPanel.Proofs.Text.Lowered
import SearchPanel.Search

/-!
# The case of a query

A search reads a query in lower case only. So queries with one lower-case form match the same
documents (`matching_congr`) and are shown in the same excerpts (`excerpt_congr`). A query and its
own lower-case form are such a pair, for lowering twice is lowering once:
`search_lower_query_eq`.
-/

namespace SearchPanel

open Text

variable {query query' : String} {text text' : List Char}

theorem toList_lower (query : String) : (lower query).toList = lowerChars query.toList :=
  String.toList_ofList

/-- A text is empty exactly if its lower-case form is. -/
theorem isEmpty_congr (h : lowerChars text = lowerChars text') : text.isEmpty = text'.isEmpty := by
  rw [Bool.eq_iff_iff, List.isEmpty_iff, List.isEmpty_iff]
  constructor
  · rintro rfl
    exact Classical.byContradiction fun hne => lowerChars_ne_nil hne h.symm
  · rintro rfl
    exact Classical.byContradiction fun hne => lowerChars_ne_nil hne h

/-! ## Queries with one lower-case form -/

theorem matching_congr (h : lowerChars query.toList = lowerChars query'.toList)
    (docs : List Document) (limit : Nat) : matching query docs limit = matching query' docs limit := by
  rw [matching, matching, h]

theorem excerpt_congr (h : lowerChars text = lowerChars text') (field : List Char) (length : Nat) :
    excerpt field text length = excerpt field text' length := by
  rw [excerpt, excerpt, h, isEmpty_congr h]

theorem snippet_congr (h : lowerChars query.toList = lowerChars query'.toList) (field : String)
    (length : Nat) : snippet field query length = snippet field query' length := by
  rw [snippet, snippet, excerpt_congr h]

theorem search_congr (h : lowerChars query.toList = lowerChars query'.toList)
    (docs : List Document) (config : Config) : search docs query config = search docs query' config := by
  rw [search, search, matching_congr h]
  refine List.map_congr_left fun hit _ => ?_
  rw [Hit.result, Hit.result, snippet_congr h, snippet_congr h]

/-! ## Main result -/

/-- **The case of a query.** A text in lower case is its own lower-case form. So a query and its
lower-case form match the same documents under every limit, and they give the same excerpts of every
field, marks and window included, the same snippets, and the same results under every
configuration. -/
theorem search_lower_query_eq (query : String) :
    (∀ text, lower (lower text) = lower text) ∧
    (∀ docs limit, matching (lower query) docs limit = matching query docs limit) ∧
    (∀ field length, excerpt field (lower query).toList length =
      excerpt field query.toList length) ∧
    (∀ field length, snippet field (lower query) length = snippet field query length) ∧
    ∀ docs config, search docs (lower query) config = search docs query config := by
  have hlower : ∀ text : String, lowerChars (lower text).toList = lowerChars text.toList :=
    fun text => by rw [toList_lower, lowerChars_lowerChars]
  refine ⟨fun text => ?_, matching_congr (hlower query), excerpt_congr (hlower query),
    snippet_congr (hlower query), search_congr (hlower query)⟩
  rw [lower, hlower text, lower]

end SearchPanel
