import SearchPanel.Document
import SearchPanel.Fragment
import SearchPanel.Snippet
import SearchPanel.Text.Substring

/-!
# Searching an index

A document matches a query when the lowered query stands in its lowered title, description or
content, each by itself. There is no score: results keep the order of the index, and the search
ends once the cap is reached. The empty query stands in every field.
-/

namespace SearchPanel

/-- A matching document and its position in the index. -/
structure Hit where
  position : Nat
  document : Document
deriving DecidableEq

/-- Whether `needle`, in lower case, stands in a searchable field of `d`. -/
def Document.mentions (d : Document) (needle : List Char) : Bool :=
  d.searchableFields.any fun field => Text.occursIn needle (Text.lowerChars field.toList)

/-- The first `limit` documents that match `query`, in index order. -/
def matching (query : String) (docs : List Document) (limit : Nat) : List Hit :=
  let needle := Text.lowerChars query.toList
  ((docs.zipIdx.filter fun d => d.1.mentions needle).take limit).map fun d => ⟨d.2, d.1⟩

/-- A matching document with the snippets of its title and content. -/
structure Result where
  hit : Hit
  title : String
  body : String

/-- A hit with its snippets for `query`. -/
def Hit.result (h : Hit) (query : String) (length : Nat) : Result :=
  { hit := h
    title := snippet h.document.title query length
    body := snippet h.document.content query length }

/-- The results of `query` under the cap and the window of `config`. -/
def search (docs : List Document) (query : String) (config : Config) : List Result :=
  (matching query docs config.maxResults).map (·.result query config.snippetLength)

/-- The display form of a result. -/
def Result.fragment (r : Result) : Fragment :=
  { titleHtml := r.title, bodyHtml := r.body, href := r.hit.document.permalink }

/-- One fragment for each result, in the same order. -/
def render (results : List Result) : List Fragment := results.map Result.fragment

/-- The fragments that a panel shows for `query`. -/
def answers (docs : List Document) (query : String) (config : Config) : List Fragment :=
  render (search docs query config)

@[simp] theorem answers_nil (query : String) (config : Config) : answers [] query config = [] := by
  simp [answers, render, search, matching]

end SearchPanel
