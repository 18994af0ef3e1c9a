import SearchPanel.Panel.Controller
import SearchPanel.Session.Source

/-!
# Widgets

A widget is one panel with its source, the heights around it and what it shows. A query or a load
of it either ends at once or waits for the source; what waits goes on when it is polled.

`view_start` and `view_proceed`: what is shown afterwards is what was shown before, changed by the
calls of the step and by nothing else.
-/

namespace SearchPanel

/-- One panel with all it works on. -/
structure Widget (H : Type) where
  source : Source
  controller : Controller
  layout : Layout H
  view : View H := {}

/-- What a pass of a widget is for. -/
inductive Work
  | query (text : String)
  /-- The index alone is loaded. -/
  | load
deriving DecidableEq

/-- How a pass of a widget ends. -/
inductive Outcome
  | dropped
  | tooShort
  /-- The query was answered: the number of its fragments, and what is shown now. -/
  | completed (rendered : Nat) (shown : List Fragment)
  /-- The index was loaded. -/
  | loaded (documents : Nat)

/-- What one step gives: its result, what it acts on afterwards, the calls that changed what is
shown, and its notices. -/
structure Reaction (α β H : Type) where
  result : α
  after : β
  calls : List (ViewCall H) := []
  notices : List Notice := []

namespace Widget

variable {H : Type}

/-- The widget's view receives calls. -/
def display (w : Widget H) (calls : List (ViewCall H)) : Widget H :=
  { w with view := w.view.applyAll calls }

variable [Sub H]

/-- A query is answered from `docs`, after the calls that were made for it already. -/
def complete (w : Widget H) (query : String) (docs : List Document) (made : List (ViewCall H))
    (notices : List Notice) : Reaction Outcome (Widget H) H :=
  let fs := w.controller.fragments query docs
  let calls := showing w.layout fs
  let after := w.display calls
  { result := .completed fs.length after.view.fragments, after, calls := made ++ calls, notices }

/-- The index arrives for a pass. -/
def deliver (w : Widget H) (answer : Except LoadError (List Document)) :
    Work → Reaction Outcome (Widget H) H
  | .query text =>
    let (docs, c, notices) := w.controller.deliver answer
    Widget.complete { w with controller := c } text docs [] notices
  | .load =>
    let (docs, l, notices) := w.controller.loader.receive answer
    { result := .loaded docs.length
      after := { w with controller := { w.controller with loader := l } }
      notices }

/-- A pass looks whether its request was answered; `none` as result if it has to wait on. -/
def proceed (w : Widget H) (work : Work)
    (look : Option (Except LoadError (List Document)) × Source) :
    Reaction (Option Outcome) (Widget H) H :=
  let w := { w with source := look.2 }
  match look.1 with
  | none => { result := none, after := w }
  | some answer =>
    let r := w.deliver answer work
    { r with result := some r.result }

/-- A query arrives; `none` as result if it has to wait. -/
def startQuery (w : Widget H) (query : String) : Reaction (Option Outcome) (Widget H) H :=
  let (admission, c, notices) := w.controller.accept query
  let calls := admission.calls
  let w := Widget.display { w with controller := c } calls
  match admission with
  | .dropped => { result := some .dropped, after := w, calls, notices }
  | .tooShort => { result := some .tooShort, after := w, calls, notices }
  | .ready docs =>
    let r := w.complete query docs calls notices
    { r with result := some r.result }
  | .waiting =>
    let r := w.proceed (.query query) w.source.fetch
    { r with calls := calls ++ r.calls, notices := notices ++ r.notices }

/-- The index alone is loaded; `none` as result if that has to wait. -/
def startLoad (w : Widget H) : Reaction (Option Outcome) (Widget H) H :=
  match w.controller.loader.cache with
  | some docs => { result := some (.loaded docs.length), after := w }
  | none =>
    let (l, notices) := w.controller.loader.request
    let w := { w with controller := { w.controller with loader := l } }
    let r := w.proceed .load w.source.fetch
    { r with notices := notices ++ r.notices }

/-- A pass starts. -/
def start (w : Widget H) : Work → Reaction (Option Outcome) (Widget H) H
  | .query text => w.startQuery text
  | .load => w.startLoad

/-- A pass that waits is polled. -/
def poll (w : Widget H) (work : Work) : Reaction (Option Outcome) (Widget H) H :=
  w.proceed work w.source.poll

/-- A pass that waits is given up. -/
def abandon (w : Widget H) : Work → Widget H
  | .query _ => { w with source := w.source.abandon, controller := w.controller.settle }
  | .load => { w with source := w.source.abandon }

/-- The height is applied anew, if something is shown. -/
def adjust (w : Widget H) : Reaction (Option H) (Widget H) H :=
  let height := w.layout.adjust w.view.fragments.length
  let calls := height.toList.map .setMaxHeight
  { result := height, after := w.display calls, calls }

/-- The container's height changes. -/
def resize (w : Widget H) (container : H) : Widget H :=
  { w with layout := { w.layout with container := container } }

/-! ## What is shown changes by the calls alone -/

theorem view_deliver (w : Widget H) (answer : Except LoadError (List Document)) (work : Work) :
    (w.deliver answer work).after.view = w.view.applyAll (w.deliver answer work).calls := by
  cases work <;> rfl

theorem view_proceed (w : Widget H) (work : Work)
    (look : Option (Except LoadError (List Document)) × Source) :
    (w.proceed work look).after.view = w.view.applyAll (w.proceed work look).calls := by
  unfold proceed
  cases look.1 with
  | none => rfl
  | some answer => exact view_deliver { w with source := look.2 } answer work

theorem view_startQuery (w : Widget H) (query : String) :
    (w.startQuery query).after.view = w.view.applyAll (w.startQuery query).calls := by
  unfold startQuery
  obtain ⟨admission, c, notices⟩ := w.controller.accept query
  cases admission with
  | dropped => rfl
  | tooShort => rfl
  | ready docs => exact (View.applyAll_append ..).symm
  | waiting =>
    simp only [View.applyAll_append]
    exact view_proceed ..

theorem view_startLoad (w : Widget H) :
    w.startLoad.after.view = w.view.applyAll w.startLoad.calls := by
  unfold startLoad
  cases w.controller.loader.cache with
  | some docs => rfl
  | none => exact view_proceed ..

theorem view_start (w : Widget H) (work : Work) :
    (w.start work).after.view = w.view.applyAll (w.start work).calls := by
  cases work with
  | query text => exact view_startQuery w text
  | load => exact view_startLoad w

end Widget

end SearchPanel
