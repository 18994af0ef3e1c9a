import SearchPanel.StoredFile

/-!
# Sources of an index

Where a panel's documents come from: documents in memory, a list of answers that is used up one by
one, a gate that gives its documents when it is opened, or a file. All but the gate answer at once.

A gate is opened or given up at most once, and only the first request to it can wait for that.
-/

namespace SearchPanel

/-- The end of a gate that a request waits at. -/
inductive Receiver
  /-- No request has come yet. -/
  | free
  /-- A request waits. -/
  | waiting
  /-- The request was answered or given up. -/
  | gone
deriving DecidableEq, Repr

/-- A gate that can still be opened (`held`), and the documents behind it once it was. -/
structure Gate where
  held : Bool := true
  sent : Option (List Document) := none
  receiver : Receiver := .free

namespace Gate

/-- What the waiting request gets now; `none` if it has to wait on. -/
def answer? (g : Gate) : Option (Except LoadError (List Document)) :=
  match g.sent with
  | some docs => some (.ok docs)
  | none => if g.held then none else some (.error (.network "gate dropped"))

/-- The waiting request looks at the gate. -/
def poll (g : Gate) : Option (Except LoadError (List Document)) × Gate :=
  match g.answer? with
  | some answer => (some answer, { g with receiver := .gone })
  | none => (none, { g with receiver := .waiting })

/-- A request comes. -/
def fetch (g : Gate) : Option (Except LoadError (List Document)) × Gate :=
  match g.receiver with
  | .free => g.poll
  | .waiting | .gone => (some (.error (.network "gate already used")), g)

/-- The gate is opened. Whether the documents can still be taken; `none` if it was used before. -/
def release (g : Gate) (docs : List Document) : Option Bool × Gate :=
  if g.held then
    (some (g.receiver != .gone), { g with held := false, sent := some docs })
  else (none, g)

/-- The gate is given up. Whether it could have been opened. -/
def giveUp (g : Gate) : Bool × Gate := (g.held, { g with held := false })

/-- The waiting request is given up. -/
def abandon (g : Gate) : Gate := { g with receiver := .gone }

end Gate

/-- Where documents come from. -/
inductive Source
  | fixed (docs : List Document)
  | scripted (script : List (Except LoadError (List Document))) (calls : Nat)
  | gated (gate : Gate) (calls : Nat)
  | file (content : Option StoredFile)

namespace Source

/-- A request comes: its answer, or `none` if it waits. -/
def fetch : Source → Option (Except LoadError (List Document)) × Source
  | fixed docs => (some (.ok docs), fixed docs)
  | scripted [] calls => (some (.error (.network "script exhausted")), scripted [] (calls + 1))
  | scripted (answer :: rest) calls => (some answer, scripted rest (calls + 1))
  | gated g calls => (g.fetch.1, gated g.fetch.2 (calls + 1))
  | file content => (some (loadFile content), file content)

/-- The request that waits looks again. -/
def poll : Source → Option (Except LoadError (List Document)) × Source
  | gated g calls => (g.poll.1, gated g.poll.2 calls)
  | s => (none, s)

/-- The request that waits is given up. -/
def abandon : Source → Source
  | gated g calls => gated g.abandon calls
  | s => s

/-- A gate is opened. -/
def release (docs : List Document) : Source → Option Bool × Source
  | gated g calls => ((g.release docs).1, gated (g.release docs).2 calls)
  | s => (none, s)

/-- A gate is given up. -/
def giveUp : Source → Bool × Source
  | gated g calls => (g.giveUp.1, gated g.giveUp.2 calls)
  | s => (false, s)

/-- The file at a file source's path is replaced. -/
def replaceFile (content : Option StoredFile) : Source → Source
  | file _ => file content
  | s => s

/-- How many requests came, for the sources that count them. -/
def calls? : Source → Option Nat
  | scripted _ calls | gated _ calls => some calls
  | fixed _ | file _ => none

end Source

end SearchPanel
