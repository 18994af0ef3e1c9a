import SearchPanel.Session.Widget

/-!
# Sessions

Several widgets, driven step by step. A query or a load that has to wait becomes a pass with a
number, counted over all widgets in the order in which passes began to wait. A pass goes on only
when it is polled; once it has ended or was given up its number means nothing any more.
-/

namespace SearchPanel

/-- A query or a load that waits. -/
structure Pass where
  widget : Nat
  work : Work

/-- Widgets, and every pass that ever waited: `none` stands for one that has ended. -/
structure Session (H : Type) where
  widgets : List (Widget H)
  passes : List (Option Pass) := []

/-- One step of a session. -/
inductive Step (H : Type)
  | start (widget : Nat) (work : Work)
  | poll (pass : Nat)
  | abandon (pass : Nat)
  | release (widget : Nat) (docs : List Document)
  | giveUp (widget : Nat)
  | adjust (widget : Nat)
  | resize (widget : Nat) (container : H)
  | replaceFile (widget : Nat) (content : Option StoredFile)

/-- What a step gives. -/
inductive Reply (H : Type)
  | outcome (outcome : Outcome)
  /-- The pass with this number waits. -/
  | pending (pass : Nat)
  | noSuchPass
  /-- Whether there was a pass to give up. -/
  | abandoned (found : Bool)
  /-- Whether the documents can be taken; `none` if there was no gate to open. -/
  | sent (taken : Option Bool)
  /-- Whether there was a gate to give up. -/
  | gaveUp (found : Bool)
  /-- The height that was applied, if something is shown. -/
  | applied (height : Option H)
  | done
  | noSuchWidget

namespace Session

variable {H : Type}

/-- The pass with a number, if it waits. -/
def pass? (s : Session H) (k : Nat) : Option Pass := (s.passes[k]?).join

/-- Widget `k` changes. -/
def setWidget (s : Session H) (k : Nat) (w : Widget H) : Session H :=
  { s with widgets := s.widgets.set k w }

/-- The pass with number `k` has ended. -/
def endPass (s : Session H) (k : Nat) : Session H := { s with passes := s.passes.set k none }

/-- A step on widget `k` that ends at once. -/
def onWidget (s : Session H) (k : Nat) (f : Widget H → Reaction (Reply H) (Widget H) H) :
    Reaction (Reply H) (Session H) H :=
  match s.widgets[k]? with
  | none => { result := .noSuchWidget, after := s }
  | some w =>
    let r := f w
    { r with after := s.setWidget k r.after }

variable [Sub H]

/-- A query or a load starts. -/
def start (s : Session H) (k : Nat) (work : Work) : Reaction (Reply H) (Session H) H :=
  match s.widgets[k]? with
  | none => { result := .noSuchWidget, after := s }
  | some w =>
    let r := w.start work
    let s := s.setWidget k r.after
    match r.result with
    | some outcome => { r with result := .outcome outcome, after := s }
    | none =>
      { r with
        result := .pending s.passes.length
        after := { s with passes := s.passes ++ [some ⟨k, work⟩] } }

/-- The pass with number `k` is polled. -/
def poll (s : Session H) (k : Nat) : Reaction (Reply H) (Session H) H :=
  match s.pass? k with
  | none => { result := .noSuchPass, after := s }
  | some pass =>
    match s.widgets[pass.widget]? with
    | none => { result := .noSuchWidget, after := s }
    | some w =>
      let r := w.poll pass.work
      let s := s.setWidget pass.widget r.after
      match r.result with
      | some outcome => { r with result := .outcome outcome, after := s.endPass k }
      | none => { r with result := .pending k, after := s }

/-- The pass with number `k` is given up. -/
def abandon (s : Session H) (k : Nat) : Reaction (Reply H) (Session H) H :=
  match s.pass? k with
  | none => { result := .abandoned false, after := s }
  | some pass =>
    match s.widgets[pass.widget]? with
    | none => { result := .noSuchWidget, after := s }
    | some w =>
      { result := .abandoned true
        after := (s.setWidget pass.widget (w.abandon pass.work)).endPass k }

/-- One step. -/
def step (s : Session H) : Step H → Reaction (Reply H) (Session H) H
  | .start k work => s.start k work
  | .poll k => s.poll k
  | .abandon k => s.abandon k
  | .release k docs => s.onWidget k fun w =>
    { result := .sent (w.source.release docs).1
      after := { w with source := (w.source.release docs).2 } }
  | .giveUp k => s.onWidget k fun w =>
    { result := .gaveUp w.source.giveUp.1, after := { w with source := w.source.giveUp.2 } }
  | .adjust k => s.onWidget k fun w => { w.adjust with result := .applied w.adjust.result }
  | .resize k container => s.onWidget k fun w => { result := .done, after := w.resize container }
  | .replaceFile k content => s.onWidget k fun w =>
    { result := .done, after := { w with source := w.source.replaceFile content } }

/-- The session after some steps. -/
def run (s : Session H) (steps : List (Step H)) : Session H :=
  steps.foldl (fun s st => (s.step st).after) s

end Session

end SearchPanel
