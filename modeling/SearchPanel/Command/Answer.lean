import SearchPanel.Command.Arguments
import SearchPanel.Session.Widget
import SearchPanel.Terminal.Report

/-!
# Answers on the command line

What the program writes for a request, given what it reads at the index's path and what it knows of
its terminal. A bad index is an error, never an empty result. A search is a query of one panel that
has the documents already; over an empty index the panel has none, and reads the file once more. A
short query is pointed out, also where markup is asked for.
-/

namespace SearchPanel.Command

/-- What the program writes, and its exit code. -/
structure Output where
  exit : Nat := 0
  stdout : String := ""
  stderr : String := ""
deriving DecidableEq, Repr

/-- Lines, each with a line end. -/
def lines (ls : List (List Char)) : String := String.ofList (ls.flatMap (· ++ ['\n']))

/-- The program's name and version. -/
def versionText : String := "sidesearch 0.3.0"

/-- What the environment says about the terminal that output goes to. -/
structure Environment where
  /-- The theme that is asked for. -/
  theme : Option String := none
  /-- The terminal's own colors. -/
  background : Option String := none
  /-- Any value turns colors off. -/
  noColor : Option String := none
  /-- Output goes to a terminal. -/
  terminal : Bool := false

/-- The display of an environment: colors only on a terminal, and never when they are turned off. -/
def Environment.display (e : Environment) : Terminal.Display :=
  { theme := Terminal.Theme.detect e.theme e.background
    colors := e.terminal && e.noColor.isNone }

/-- What is written when the index at `path` cannot be loaded. The cause stands behind the load
error, although that names it already. -/
def failure (d : Terminal.Display) (path : String) (e : LoadError) : Output :=
  let causes := ["failed to load " ++ path, e.message] ++ e.source?.toList
  let text := ' ' :: (": ".intercalate causes).toList
  { exit := 1, stderr := lines [d.paint .red Terminal.bold "error:".toList ++ text] }

/-- The panel of a search. The height of its list is not shown. -/
def searchPanel (content : Except ReadError String) (docs : List Document) (config : Config) :
    Widget Int :=
  { source := .file (content.toOption.map .ofText)
    controller := { config, loader := .seeded docs }
    layout := { container := 24, searchBox := 1 } }

/-- What a search writes that has ended. -/
def searchOutput (d : Terminal.Display) (query : String) (config : Config) (html : Bool) :
    Outcome → List (List Char)
  | .tooShort => [d.shortQuery query config.minChars]
  | .completed _ shown =>
    if html then shown.map fun f => f.toHtml.toList
    else d.results query shown
  | .dropped | .loaded _ => []

/-- The index that a request needs. -/
def Request.path? : Request → Option String
  | version => none
  | search path .. | inspect path => some path

/-- What is written for a request; `read` is what stands at its index's path. -/
def Request.answer (d : Terminal.Display) (read : String → Except ReadError String) :
    Request → Output
  | version => { stdout := lines [versionText.toList] }
  | search path query config html =>
    match loadRead (read path) with
    | .ok docs =>
      let outcome := ((searchPanel (read path) docs config).startQuery query).result
      { stdout := lines (outcome.elim [] (searchOutput d query config html)) }
    | .error e => failure d path e
  | inspect path =>
    match loadRead (read path) with
    | .ok docs => { stdout := lines (d.summary path (Stats.ofDocuments docs)) }
    | .error e => failure d path e

end SearchPanel.Command
