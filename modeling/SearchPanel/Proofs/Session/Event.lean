import SearchPanel.Session.Basic

/-!
# What a step of a session can do

* `Widget.Tended k w st r w'`: the steps that end at once and concern one widget alone.
* `Session.Change s k w st r w' passes`: all that a step can do to widget `k`, one case for each way
  that it can go, with its reply and the passes afterwards.
* `Session.Event s st r s'`: the step `st` leads from `s` to `s'` with the reply `r`. It has nothing
  to act on, or it is a change of one widget. Every step is such an event (`event_step`), so an
  invariant is kept by all steps if it is kept in each case (`Reachable.invariant`).
* `Session.Reachable s`: `s` comes about from new widgets by steps.
-/

namespace SearchPanel

variable {H : Type}

/-! ## New widgets -/

/-- A source that no request has come to yet. -/
def Source.Fresh : Source → Prop
  | .fixed _ | .file _ => True
  | .scripted _ calls => calls = 0
  | .gated gate calls => gate = {} ∧ calls = 0

/-- A widget that nothing has happened to. Its loader may have documents already. -/
structure Widget.Fresh (w : Widget H) : Prop where
  source : w.source.Fresh
  loader : w.controller.loader = {} ∨ ∃ docs, w.controller.loader = .seeded docs
  inFlight : w.controller.inFlight = false
  view : w.view = {}

/-- New widgets, and no pass that ever waited. -/
structure Session.Fresh (s : Session H) : Prop where
  widgets : ∀ w ∈ s.widgets, w.Fresh
  passes : s.passes = []

theorem Session.Fresh.widget {s : Session H} {w : Widget H} {k : Nat} (h : s.Fresh)
    (hw : s.widgets[k]? = some w) : w.Fresh :=
  h.widgets w (List.mem_of_getElem? hw)

/-! ## Passes and widgets after a change -/

namespace Session

variable {s : Session H} {w w₁ w' : Widget H} {p : Pass} {k l n m : Nat}

theorem pass?_same (widgets : List (Widget H)) :
    (Session.mk widgets s.passes).pass? n = s.pass? n := rfl

theorem pass?_set (widgets : List (Widget H)) :
    (Session.mk widgets (s.passes.set m none)).pass? n = if m = n then none else s.pass? n := by
  rw [pass?, pass?, List.getElem?_set]
  split
  · split <;> rfl
  · rfl

/-- A pass that begins to wait gets the next number. -/
theorem pass?_append (widgets : List (Widget H)) :
    (Session.mk widgets (s.passes ++ [some p])).pass? n =
      if s.passes.length = n then some p else s.pass? n := by
  rw [pass?, pass?]
  split
  · next h => simp [← h]
  · next h =>
    rcases Nat.lt_or_ge n s.passes.length with hn | hn
    · rw [List.getElem?_append_left hn]
    · rw [List.getElem?_eq_none hn, List.getElem?_eq_none (by simp; omega)]

theorem pass?_length : s.pass? s.passes.length = none := by
  rw [pass?, List.getElem?_eq_none (Nat.le_refl _)]
  rfl

/-- A widget after a change of widget `l`: what it changed to, or another one as it was. -/
theorem getElem?_set_cases (hw : s.widgets[l]? = some w)
    (hw' : (s.widgets.set l w₁)[k]? = some w') :
    (l = k ∧ w₁ = w') ∨ (l ≠ k ∧ s.widgets[k]? = some w') := by
  obtain ⟨hl, -⟩ := List.getElem?_eq_some_iff.1 hw
  rw [List.getElem?_set, if_pos hl] at hw'
  split at hw'
  · next h => exact .inl ⟨h, Option.some.inj hw'⟩
  · next h => exact .inr ⟨h, hw'⟩

end Session

/-! ## Steps -/

variable [Sub H]

/-- `Tended k w st r w'`: the step `st` ends at once, concerns widget `k` alone, and makes `w'` of
it with the reply `r`. -/
inductive Widget.Tended (k : Nat) (w : Widget H) : Step H → Reply H → Widget H → Prop
  | release (docs : List Document) : Tended k w (.release k docs)
      (.sent (w.source.release docs).1) { w with source := (w.source.release docs).2 }
  | giveUp : Tended k w (.giveUp k)
      (.gaveUp w.source.giveUp.1) { w with source := w.source.giveUp.2 }
  | adjust : Tended k w (.adjust k) (.applied w.adjust.result) w.adjust.after
  | resize (container : H) : Tended k w (.resize k container) .done (w.resize container)
  | replaceFile (content : Option StoredFile) : Tended k w (.replaceFile k content) .done
      { w with source := w.source.replaceFile content }

namespace Session

/-- The widget that a step is for; `none` for a pass that does not wait. -/
def target? (s : Session H) : Step H → Option Nat
  | .start k _ | .release k _ | .giveUp k | .adjust k | .resize k _ | .replaceFile k _ => some k
  | .poll n | .abandon n => (s.pass? n).map (·.widget)

/-- What a step can do to widget `k`, which was `w`: the reply, the widget and the passes
afterwards. -/
inductive Change (s : Session H) (k : Nat) (w : Widget H) :
    Step H → Reply H → Widget H → List (Option Pass) → Prop
  /-- A query or a load ends at once. -/
  | started {work : Work} {o : Outcome} (hr : (w.start work).result = some o) :
      Change s k w (.start k work) (.outcome o) (w.start work).after s.passes
  /-- A query or a load begins to wait. -/
  | waits {work : Work} (hr : (w.start work).result = none) :
      Change s k w (.start k work) (.pending s.passes.length) (w.start work).after
        (s.passes ++ [some ⟨k, work⟩])
  /-- A pass that waited ends. -/
  | ended {n : Nat} {work : Work} {o : Outcome} (hp : s.pass? n = some ⟨k, work⟩)
      (hr : (w.poll work).result = some o) :
      Change s k w (.poll n) (.outcome o) (w.poll work).after (s.passes.set n none)
  /-- A pass has to wait on. -/
  | waitsOn {n : Nat} {work : Work} (hp : s.pass? n = some ⟨k, work⟩)
      (hr : (w.poll work).result = none) :
      Change s k w (.poll n) (.pending n) (w.poll work).after s.passes
  /-- A pass that waited is given up. -/
  | abandoned {n : Nat} {work : Work} (hp : s.pass? n = some ⟨k, work⟩) :
      Change s k w (.abandon n) (.abandoned true) (w.abandon work) (s.passes.set n none)
  /-- Something happens to the widget that is no pass of it. -/
  | tended {w' : Widget H} {st : Step H} {r : Reply H} (ht : w.Tended k st r w') :
      Change s k w st r w' s.passes

theorem Change.target {s : Session H} {k : Nat} {w w' : Widget H} {st : Step H} {r : Reply H}
    {passes : List (Option Pass)} (h : s.Change k w st r w' passes) : s.target? st = some k := by
  cases h with
  | started hr => rfl
  | waits hr => rfl
  | ended hp hr => rw [target?, hp]; rfl
  | waitsOn hp hr => rw [target?, hp]; rfl
  | abandoned hp => rw [target?, hp]; rfl
  | tended ht => cases ht <;> rfl

/-- What a step can do, with its reply. -/
inductive Event (s : Session H) : Step H → Reply H → Session H → Prop
  | noWidget {st : Step H} {k : Nat} (ht : s.target? st = some k) (hw : s.widgets[k]? = none) :
      Event s st .noSuchWidget s
  | pollNone {n : Nat} (hp : s.pass? n = none) : Event s (.poll n) .noSuchPass s
  | abandonNone {n : Nat} (hp : s.pass? n = none) : Event s (.abandon n) (.abandoned false) s
  /-- One widget changes. -/
  | changed {k : Nat} {w w' : Widget H} {st : Step H} {r : Reply H} {passes : List (Option Pass)}
      (hw : s.widgets[k]? = some w) (hc : s.Change k w st r w' passes) :
      Event s st r { widgets := s.widgets.set k w', passes }

variable {s : Session H}

theorem event_start (s : Session H) (k : Nat) (work : Work) :
    s.Event (.start k work) (s.start k work).result (s.start k work).after := by
  unfold start
  cases hw : s.widgets[k]? with
  | none => exact .noWidget rfl hw
  | some w =>
    cases hr : (w.start work).result with
    | none =>
      simp only [hr]
      exact .changed hw (.waits hr)
    | some o =>
      simp only [hr]
      exact .changed hw (.started hr)

theorem event_poll (s : Session H) (n : Nat) :
    s.Event (.poll n) (s.poll n).result (s.poll n).after := by
  unfold poll
  cases hp : s.pass? n with
  | none => exact .pollNone hp
  | some pass =>
    obtain ⟨k, work⟩ := pass
    cases hw : s.widgets[k]? with
    | none =>
      simp only [hw]
      exact .noWidget (by rw [target?, hp]; rfl) hw
    | some w =>
      cases hr : (w.poll work).result with
      | none =>
        simp only [hw, hr]
        exact .changed hw (.waitsOn hp hr)
      | some o =>
        simp only [hw, hr]
        exact .changed hw (.ended hp hr)

theorem event_abandon (s : Session H) (n : Nat) :
    s.Event (.abandon n) (s.abandon n).result (s.abandon n).after := by
  unfold abandon
  cases hp : s.pass? n with
  | none => exact .abandonNone hp
  | some pass =>
    obtain ⟨k, work⟩ := pass
    cases hw : s.widgets[k]? with
    | none =>
      simp only [hw]
      exact .noWidget (by rw [target?, hp]; rfl) hw
    | some w =>
      simp only [hw]
      exact .changed hw (.abandoned hp)

/-- A step on one widget does to it what `f` does. -/
theorem event_onWidget {k : Nat} {st : Step H} {f : Widget H → Reaction (Reply H) (Widget H) H}
    (ht : s.target? st = some k) (hf : ∀ w, Widget.Tended k w st (f w).result (f w).after) :
    s.Event st (s.onWidget k f).result (s.onWidget k f).after := by
  unfold onWidget
  cases hw : s.widgets[k]? with
  | none => exact .noWidget ht hw
  | some w => exact .changed hw (.tended (hf w))

/-- Every step is one of the events. -/
theorem event_step (s : Session H) (st : Step H) :
    s.Event st (s.step st).result (s.step st).after := by
  cases st with
  | start k work => exact event_start s k work
  | poll n => exact event_poll s n
  | abandon n => exact event_abandon s n
  | release k docs => exact event_onWidget rfl fun w => .release docs
  | giveUp k => exact event_onWidget rfl fun w => .giveUp
  | adjust k => exact event_onWidget rfl fun w => .adjust
  | resize k container => exact event_onWidget rfl fun w => .resize container
  | replaceFile k content => exact event_onWidget rfl fun w => .replaceFile content

/-- A widget after a step: the step was for it, or for another one and left it as it was. -/
theorem Event.widget_cases {s' : Session H} {w' : Widget H} {st : Step H} {r : Reply H} {k : Nat}
    (h : s.Event st r s') (hw' : s'.widgets[k]? = some w') :
    (∃ w, s.widgets[k]? = some w ∧ s.Change k w st r w' s'.passes) ∨
      (s.target? st ≠ some k ∧ s.widgets[k]? = some w') := by
  cases h with
  | @noWidget st l ht hw =>
    refine .inr ⟨fun hk => ?_, hw'⟩
    obtain rfl : l = k := Option.some.inj (ht.symm.trans hk)
    cases hw.symm.trans hw'
  | pollNone hp => exact .inr ⟨by simp [target?, hp], hw'⟩
  | abandonNone hp => exact .inr ⟨by simp [target?, hp], hw'⟩
  | @changed l w w₁ st r passes hw hc =>
    rcases getElem?_set_cases hw hw' with ⟨rfl, rfl⟩ | ⟨hl, hw'⟩
    · exact .inl ⟨w, hw, hc⟩
    · exact .inr ⟨fun hk => hl (Option.some.inj (hc.target.symm.trans hk)), hw'⟩

/-- A step for another widget, or for none, leaves a widget as it was. -/
theorem Event.getElem?_of_target_ne {s' : Session H} {w : Widget H} {st : Step H} {r : Reply H}
    {k : Nat} (h : s.Event st r s') (hw : s.widgets[k]? = some w) (ht : s.target? st ≠ some k) :
    s'.widgets[k]? = some w := by
  cases h with
  | noWidget ht' hw' => exact hw
  | pollNone hp => exact hw
  | abandonNone hp => exact hw
  | @changed l w₁ w' st r passes hw' hc =>
    have hl : l ≠ k := fun h => ht (h ▸ hc.target)
    rw [List.getElem?_set_ne hl]
    exact hw

/-! ## Reachable sessions -/

/-- What comes about from new widgets by steps. -/
inductive Reachable : Session H → Prop
  | fresh {s : Session H} (h : s.Fresh) : Reachable s
  | step {s : Session H} (st : Step H) (h : Reachable s) : Reachable (s.step st).after

/-- What new widgets have and every event keeps holds in every reachable session. -/
theorem Reachable.invariant {I : Session H → Prop} (hfresh : ∀ s : Session H, s.Fresh → I s)
    (hevent : ∀ {s s' : Session H} {st : Step H} {r : Reply H}, s.Event st r s' → I s → I s')
    (h : s.Reachable) : I s := by
  induction h with
  | fresh h => exact hfresh _ h
  | step st _ ih => exact hevent (event_step _ st) ih

/-- What the events of some steps keep holds after them. -/
theorem run_invariant {I : Session H → Prop} {steps : List (Step H)}
    (hevent : ∀ {s s' : Session H} {st : Step H} {r : Reply H}, st ∈ steps → s.Event st r s' →
      I s → I s') (h : I s) : I (s.run steps) := by
  induction steps generalizing s with
  | nil => exact h
  | cons st steps ih =>
    refine ih (fun hm => hevent (.tail _ hm)) ?_
    exact hevent (.head _) (event_step s st) h

end Session

end SearchPanel
