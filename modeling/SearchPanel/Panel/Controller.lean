import SearchPanel.Config
import SearchPanel.Panel.Loader
import SearchPanel.Panel.View
import SearchPanel.Search

/-!
# One search panel

A panel answers one query at a time. While a query waits for the index, further queries are
dropped, not queued. Every other query first empties what is shown; a short one ends there. Once the
documents are there the answers are shown, and the panel takes queries again.
-/

namespace SearchPanel

/-- One panel's settings and index, and whether a query of it waits. -/
structure Controller where
  config : Config := {}
  loader : Loader := {}
  inFlight : Bool := false

/-- How a query is received. -/
inductive Admission
  /-- Another query waits. -/
  | dropped
  /-- The query has too few characters. -/
  | tooShort
  /-- The documents are there already. -/
  | ready (docs : List Document)
  /-- The query waits for the index. -/
  | waiting

/-- Every query that is not dropped empties what is shown. -/
def Admission.calls {H : Type} : Admission → List (ViewCall H)
  | dropped => []
  | tooShort | ready _ | waiting => clearing

namespace Controller

/-- A query arrives. -/
def accept (c : Controller) (query : String) : Admission × Controller × List Notice :=
  if c.inFlight then (.dropped, c, [.queryDropped query])
  else if query.length < c.config.minChars then (.tooShort, c, [])
  else match c.loader.cache with
    | some docs => (.ready docs, c, [])
    | none =>
      (.waiting, { c with loader := c.loader.request.1, inFlight := true }, c.loader.request.2)

/-- The query that waits no longer does. -/
def settle (c : Controller) : Controller := { c with inFlight := false }

/-- The index arrives for the query that waits: the documents to search. -/
def deliver (c : Controller) (answer : Except LoadError (List Document)) :
    List Document × Controller × List Notice :=
  let (docs, loader, notices) := c.loader.receive answer
  (docs, { c with loader := loader, inFlight := false }, notices)

/-- The fragments that are shown for `query` once `docs` are there. -/
def fragments (c : Controller) (query : String) (docs : List Document) : List Fragment :=
  answers docs query c.config

end Controller

end SearchPanel
