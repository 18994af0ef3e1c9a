import SearchPanel.OptionValue
import SearchPanel.Page.Tree
import SearchPanel.Panel.Controller

/-!
# Pages

A page with the panels that were attached to it. Queries that listeners start are tasks: after each
step the tasks run in the order in which they were started, each until it ends or waits for a
request of its own. What a panel shows, it shows in the page's elements.
-/

namespace SearchPanel.Page

/-- How much of what panels tell reaches the console; `0` is nothing. -/
abbrev Verbosity := Nat

/-- A panel and the elements it works on. -/
structure Section where
  input : Nat
  results : Nat
  /-- The sidebar's content, whose height bounds the list. -/
  sidebar : Nat
  /-- The search section around the input. -/
  box : Nat
  controller : Controller

/-- The answer to a request. -/
inductive Response
  /-- There is no response. -/
  | failed (reason : String)
  /-- A response, whose text may fail to arrive. -/
  | received (status : Nat) (body : Except String String)

/-- Whether a status means success. -/
def isSuccess (status : Nat) : Bool := 200 ≤ status && status ≤ 299

/-- The documents that a response gives. -/
def Response.documents : Response → Except LoadError (List Document)
  | failed reason => .error (.network reason)
  | received status body =>
    if isSuccess status then
      match body with
      | .ok text => loadText text
      | .error reason => .error (.network reason)
    else .error (.status status)

/-- A request for an index. -/
structure Request where
  url : String
  response : Option Response := none

/-- How far a task is. -/
inductive Stage
  | started
  /-- It waits for the request with this number. -/
  | waiting (request : Nat)
deriving DecidableEq, Repr

/-- A query of the panel with a number. -/
structure Task where
  panel : Nat
  query : String
  stage : Stage := .started

end Page

open Page

/-- A page with all that goes on in it. -/
structure Page where
  tree : Tree
  hasWindow : Bool := true
  hasDocument : Bool := true
  /-- How the browser reads markup: whether the first input for text that a markup brings takes the
  focus, if it brings one. -/
  inputIn : String → Option Bool := fun _ => none
  /-- The element that got the focus last, if nothing took the focus from it since. -/
  active : Option Nat := none
  /-- How much is told on the console, once that is settled. -/
  verbosity : Option Verbosity := none
  /-- The panels in the order they were wired. -/
  panels : List Section := []
  /-- The sections whose input the focus shortcut leads to, one for each time panels were
  attached. -/
  shortcuts : List Nat := []
  /-- The tasks that have not ended, the oldest first. -/
  tasks : List Task := []
  requests : List Request := []

namespace Page

/-! ## What panels show -/

/-- The class of an input whose panel shows results. -/
def hasResultsClass : String := "has-results"

/-- A panel changes what is shown. -/
def perform (p : Page) (s : Section) : ViewCall Int → Page
  | .setHasResults true => { p with tree := p.tree.modify s.input (·.addClass hasResultsClass) }
  | .setHasResults false => { p with tree := p.tree.modify s.input (·.removeClass hasResultsClass) }
  | .clearResults => { p with tree := p.tree.fill s.results "" }
  | .setResults fs => { p with tree := p.tree.fill s.results (Fragment.listHtml fs) }
  | .setMaxHeight h =>
    { p with tree := p.tree.modify s.results fun e => { e with maxHeight := some h } }

/-- A panel changes what is shown, the first call first. -/
def performAll (p : Page) (s : Section) (calls : List (ViewCall Int)) : Page :=
  calls.foldl (fun p call => p.perform s call) p

/-- The height of an element. -/
def heightOf (p : Page) (k : Nat) : Int := ((p.tree.get? k).map (·.height)).getD 0

/-- The heights around a panel's list. -/
def layoutOf (p : Page) (s : Section) : Layout Int := ⟨p.heightOf s.sidebar, p.heightOf s.box⟩

/-- A panel's list gets its height, if there is anything in it. -/
def adjust (p : Page) (s : Section) : Page :=
  p.performAll s (((p.layoutOf s).adjust (p.tree.childCount s.results)).toList.map .setMaxHeight)

/-- Each panel's list gets its height. -/
def adjustAll (p : Page) : Page := p.panels.foldl adjust p

/-! ## Tasks -/

/-- The panel with a number gets another controller. -/
def setController (p : Page) (k : Nat) (c : Controller) : Page :=
  { p with panels := p.panels.modify k fun s => { s with controller := c } }

/-- What a task does until it ends or waits: the task if it waits, the page, and the notices. -/
abbrev Turn := Option Task × Page × List Notice

/-- A panel shows the answers to a query. -/
def showAnswers (p : Page) (s : Section) (query : String) (docs : List Document) : Page :=
  p.performAll s (showing (p.layoutOf s) (s.controller.fragments query docs))

/-- A task that was started begins. -/
def beginTask (p : Page) (t : Task) (s : Section) : Turn :=
  let (admission, c, notices) := s.controller.accept t.query
  let p := (p.setController t.panel c).performAll s admission.calls
  match admission with
  | .dropped | .tooShort => (none, p, notices)
  | .ready docs => (none, p.showAnswers s t.query docs, notices)
  | .waiting =>
    (some { t with stage := .waiting p.requests.length },
      { p with requests := p.requests ++ [{ url := c.config.indexPath }] }, notices)

/-- A task that waits looks at its request. -/
def resumeTask (p : Page) (t : Task) (s : Section) (request : Nat) : Turn :=
  match (p.requests[request]?).bind (·.response) with
  | none => (some t, p, [])
  | some response =>
    let (docs, c, notices) := s.controller.deliver response.documents
    (none, (p.setController t.panel c).showAnswers s t.query docs, notices)

/-- A task has its turn. -/
def runTask (p : Page) (t : Task) : Turn :=
  match p.panels[t.panel]? with
  | none => (none, p, [])
  | some s =>
    match t.stage with
    | .started => p.beginTask t s
    | .waiting request => p.resumeTask t s request

/-- Each of some tasks has its turn: the tasks that wait then, the page, and the notices. -/
def runTasks (p : Page) : List Task → List Task × Page × List Notice
  | [] => ([], p, [])
  | t :: rest =>
    let (kept, p, notices) := p.runTask t
    let (keptLater, p, noticesLater) := p.runTasks rest
    (kept.toList ++ keptLater, p, notices ++ noticesLater)

/-- All tasks have their turn. -/
def settle (p : Page) : Page × List Notice :=
  let (kept, q, notices) := p.runTasks p.tasks
  ({ q with tasks := kept }, notices)

/-! ## The console -/

/-- How much is told is settled, unless it was before. -/
def setVerbosity (p : Page) (v : Verbosity) : Page :=
  { p with verbosity := p.verbosity.or (some v) }

/-- Whether a notice reaches the console. -/
def hears (p : Page) (n : Notice) : Bool :=
  match p.verbosity with
  | some v => n.level.rank ≤ v
  | none => false

/-- A notice as the console shows it. -/
def consoleText (n : Notice) : String := "[sidesearch] " ++ n.message

end Page

end SearchPanel
