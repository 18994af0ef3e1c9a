import SearchPanel.Document
import SearchPanel.Notice

/-!
# Loading the index

The index is asked for when it is first needed and kept once it has arrived with documents in it. A
failure and an empty index are told and give no documents; the next load asks again.
-/

namespace SearchPanel

/-- What has arrived of the index, and how often it was asked for. -/
structure Loader where
  cache : Option (List Document) := none
  fetches : Nat := 0

namespace Loader

/-- A loader that has `docs` already, if there are any. -/
def seeded (docs : List Document) : Loader := { cache := if docs.isEmpty then none else some docs }

/-- The index is asked for. -/
def request (l : Loader) : Loader × List Notice :=
  ({ l with fetches := l.fetches + 1 }, [.fetching (l.fetches + 1)])

/-- The answer to a request: the documents it gives, and what is kept. -/
def receive (l : Loader) : Except LoadError (List Document) → List Document × Loader × List Notice
  | .ok [] => ([], l, [.indexEmpty])
  | .ok docs => (docs, { l with cache := some docs }, [.indexLoaded docs.length])
  | .error e => ([], l, [.loadFailed e])

end Loader

end SearchPanel
