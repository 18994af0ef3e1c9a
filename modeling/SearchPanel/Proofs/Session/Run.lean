import SearchPanel.Proofs.Session.Event

/-!
# Runs and what happened in them

* `Moment`: a step and the session that it is taken in. The two determine the reply, the notices and
  the session afterwards.
* `Session.history s steps`: the moments of a run of `steps`.
* `Session.Leads s moments t`: the moments lead from `s` to `t`, whatever the sources are. Between
  two steps a source may turn into any other one, so what is proved of these runs rests neither on
  what a source answers nor on when it does. Every run is one of them (`leads_history`).
* `Leads.invariant`: what every event and every change of sources keeps, such a run keeps.
  `Leads.eq_add_countP`: what each step counts, the moments of the run count.
* `Session.gated`: one new widget over a gate, to look at single runs.
-/

namespace SearchPanel

variable {H : Type}

/-! ## What a reply tells -/

/-- A query was dropped. -/
def Outcome.isDropped : Outcome → Bool
  | .dropped => true
  | .tooShort | .completed .. | .loaded _ => false

/-- What is shown by a query that was answered. -/
def Outcome.shown? : Outcome → Option (List Fragment)
  | .completed _ shown => some shown
  | .dropped | .tooShort | .loaded _ => none

/-- How the step ended, if it is a pass and has ended. -/
def Reply.outcome? : Reply H → Option Outcome
  | .outcome o => some o
  | _ => none

def Reply.isDropped (r : Reply H) : Bool := r.outcome?.any Outcome.isDropped

def Reply.shown? (r : Reply H) : Option (List Fragment) := r.outcome?.bind Outcome.shown?

def Work.isQuery : Work → Bool
  | .query _ => true
  | .load => false

/-- The work that starts at widget `k`. -/
def Step.work? (k : Nat) : Step H → Option Work
  | .start l work => if l = k then some work else none
  | _ => none

/-- A query of widget `k` arrives. -/
def Step.isQueryOf (k : Nat) (st : Step H) : Bool := (st.work? k).any Work.isQuery

@[simp]
theorem Step.work?_start (k : Nat) (work : Work) :
    (Step.start k work : Step H).work? k = some work := if_pos rfl

/-- No work starts at a widget that the step is not for. -/
theorem Session.work?_eq_none_of_target?_ne {s : Session H} {st : Step H} {k : Nat}
    (h : s.target? st ≠ some k) : st.work? k = none := by
  cases st with
  | start l work => exact if_neg fun hl => h (congrArg some hl)
  | poll n => rfl
  | abandon n => rfl
  | release l docs => rfl
  | giveUp l => rfl
  | adjust l => rfl
  | resize l container => rfl
  | replaceFile l content => rfl

theorem Widget.Tended.outcome?_eq_none [Sub H] {w w' : Widget H} {k : Nat} {st : Step H}
    {r : Reply H} (h : w.Tended k st r w') : r.outcome? = none := by
  cases h <;> rfl

theorem Widget.Tended.work?_eq_none [Sub H] {w w' : Widget H} {k l : Nat} {st : Step H}
    {r : Reply H} (h : w.Tended k st r w') : st.work? l = none := by
  cases h <;> rfl

/-! ## Moments -/

/-- A step and the session that it is taken in. -/
structure Moment (H : Type) where
  before : Session H
  step : Step H

/-- One new widget over a gate. -/
def Session.gated : Session Nat :=
  { widgets := [{ source := .gated {} 0, controller := {}, layout := ⟨500, 100⟩ }] }

theorem Session.fresh_gated : gated.Fresh := by
  refine ⟨fun w hw => ?_, rfl⟩
  obtain rfl := List.mem_singleton.1 hw
  exact ⟨⟨rfl, rfl⟩, .inl rfl, rfl, rfl⟩

/-- The sources turn into others; all else stays. -/
def Session.withSources (s : Session H) (sources : Nat → Source) : Session H :=
  { s with widgets := s.widgets.mapIdx fun k w => { w with source := sources k } }

theorem Session.getElem?_withSources (s : Session H) (sources : Nat → Source) (k : Nat) :
    (s.withSources sources).widgets[k]? =
      s.widgets[k]?.map fun w => { w with source := sources k } := by
  simp [withSources]

theorem Session.exists_of_getElem?_withSources {s : Session H} {sources : Nat → Source} {k : Nat}
    {w' : Widget H} (hw' : (s.withSources sources).widgets[k]? = some w') :
    ∃ w, s.widgets[k]? = some w ∧ { w with source := sources k } = w' := by
  rwa [getElem?_withSources, Option.map_eq_some_iff] at hw'

variable [Sub H]

namespace Moment

/-- All that the step gives. -/
def reaction (m : Moment H) : Reaction (Reply H) (Session H) H := m.before.step m.step

def reply (m : Moment H) : Reply H := m.reaction.result

/-- A query of widget `k` arrives and is not dropped. -/
def takesQuery (k : Nat) (m : Moment H) : Bool := m.step.isQueryOf k && !m.reply.isDropped

/-- What a query of widget `k` that is answered now shows. -/
def shown? (k : Nat) (m : Moment H) : Option (List Fragment) :=
  if m.before.target? m.step = some k then m.reply.shown? else none

end Moment

namespace Session

variable {s t u : Session H} {moments later : List (Moment H)}

/-- The moments of a run. -/
def history (s : Session H) : List (Step H) → List (Moment H)
  | [] => []
  | st :: steps => ⟨s, st⟩ :: (s.step st).after.history steps

theorem run_cons (s : Session H) (st : Step H) (steps : List (Step H)) :
    s.run (st :: steps) = (s.step st).after.run steps := rfl

/-- The moments lead from one session to another, whatever the sources are. -/
inductive Leads (s : Session H) : List (Moment H) → Session H → Prop
  | refl : s.Leads [] s
  /-- The sources turn into others. -/
  | sources {moments : List (Moment H)} {t : Session H} (h : s.Leads moments t)
      (sources : Nat → Source) : s.Leads moments (t.withSources sources)
  /-- A step is taken. -/
  | step {moments : List (Moment H)} {t : Session H} (h : s.Leads moments t) (st : Step H) :
      s.Leads (moments ++ [⟨t, st⟩]) (t.step st).after

theorem Leads.trans (h : s.Leads moments t) (h' : t.Leads later u) :
    s.Leads (moments ++ later) u := by
  induction h' with
  | refl => rwa [List.append_nil]
  | sources _ sources ih => exact ih.sources sources
  | step _ st ih =>
    rw [← List.append_assoc]
    exact ih.step st

/-- Every run is one of these, with sources that stay what they are between the steps. -/
theorem leads_history (s : Session H) (steps : List (Step H)) :
    s.Leads (s.history steps) (s.run steps) := by
  induction steps generalizing s with
  | nil => exact .refl
  | cons st steps ih => exact (Leads.refl.step st).trans (ih _)

/-- What every event and every change of sources keeps holds along a run. -/
theorem Leads.invariant {I : Session H → Prop}
    (hsources : ∀ {s : Session H} (sources : Nat → Source), I s → I (s.withSources sources))
    (hevent : ∀ {s s' : Session H} {st : Step H} {r : Reply H}, s.Event st r s' → I s → I s')
    (h : s.Leads moments t) (hs : I s) : I t := by
  induction h with
  | refl => exact hs
  | sources _ sources ih => exact hsources sources ih
  | step _ st ih => exact hevent (event_step _ st) ih

/-- What each step adds to a number of a widget, the moments of a run add. -/
theorem Leads.eq_add_countP {f : Widget H → Nat} {p : Moment H → Bool} {k : Nat} {w' : Widget H}
    (hsource : ∀ w source, f { w with source } = f w)
    (hstep : ∀ (m : Moment H) w', (m.before.step m.step).after.widgets[k]? = some w' →
      ∃ w, m.before.widgets[k]? = some w ∧ f w' = f w + if p m then 1 else 0)
    (h : s.Leads moments t) (hw' : t.widgets[k]? = some w') :
    ∃ w, s.widgets[k]? = some w ∧ f w' = f w + moments.countP p := by
  induction h generalizing w' with
  | refl => exact ⟨w', hw', rfl⟩
  | sources h sources ih =>
    obtain ⟨w₁, hw₁, rfl⟩ := exists_of_getElem?_withSources hw'
    rw [hsource]
    exact ih hw₁
  | @step moments t h st ih =>
    obtain ⟨w₁, hw₁, hadd⟩ := hstep ⟨t, st⟩ w' hw'
    obtain ⟨w, hw, hsum⟩ := ih hw₁
    refine ⟨w, hw, ?_⟩
    rw [hadd, hsum, List.countP_append, List.countP_singleton, Nat.add_assoc]

/-- No step adds a widget, and none takes one away. -/
theorem Event.length_widgets {st : Step H} {r : Reply H} (h : s.Event st r t) :
    t.widgets.length = s.widgets.length := by
  cases h with
  | changed hw hc => exact List.length_set
  | noWidget ht hw => rfl
  | pollNone hp => rfl
  | abandonNone hp => rfl

theorem Event.exists_widget {st : Step H} {r : Reply H} {k : Nat} {w : Widget H}
    (h : s.Event st r t) (hw : s.widgets[k]? = some w) : ∃ w', t.widgets[k]? = some w' := by
  obtain ⟨hk, -⟩ := List.getElem?_eq_some_iff.1 hw
  exact ⟨_, List.getElem?_eq_getElem (h.length_widgets ▸ hk)⟩

end Session

end SearchPanel
