import SearchPanel.Json.Index

/-!
# Why an index could not be loaded

Readers of a page never see these: a panel logs them and shows no results. The command line prints
them.
-/

namespace SearchPanel

/-- Why an index could not be loaded. -/
inductive LoadError
  /-- The file could not be read. -/
  | unreadable (reason : String)
  /-- There was no usable response. -/
  | network (reason : String)
  /-- The response was a refusal. -/
  | status (code : Nat)
  /-- The text is no index. -/
  | malformed (error : Json.Error)

/-- The wording of a load error. -/
def LoadError.message : LoadError → String
  | unreadable reason => "failed to read index: " ++ reason
  | network reason => "network error: " ++ reason
  | status code => "index request failed with HTTP " ++ toString code
  | malformed e => "malformed index: " ++ e.message

/-- What lies behind a load error and has a wording of its own. -/
def LoadError.source? : LoadError → Option String
  | unreadable reason => some reason
  | malformed e => some e.message
  | network _ | status _ => none

/-- The documents of the text of an index. -/
def loadText (text : String) : Except LoadError (List Document) :=
  (parseIndex text).mapError LoadError.malformed

end SearchPanel
