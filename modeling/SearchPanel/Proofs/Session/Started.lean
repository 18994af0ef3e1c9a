import SearchPanel.Proofs.Session.Run
import SearchPanel.Proofs.Session.Waiting

/-!
# How passes start and end

* `Loader.given`: the documents that the answer to a request gives.
* `Widget.Admits w work`: the work is neither dropped nor too short. It needs the documents, so the
  source is asked if none have arrived (`Widget.ask`).
* `Widget.ending`, `Widget.closing`, `Widget.answered`: with which outcome, calls and widget a pass
  ends once it has its documents.
* `Widget.Started w work r`: the reaction when work starts, one case for each way that it can go;
  every reaction is one of them (`started`). `Widget.Polled`: the same for a pass that is polled.
* `Event.pass?_cases`: a pass that waits began with a step that found no documents.
-/

namespace SearchPanel

/-! ## Answers -/

namespace Loader

/-- The documents that the answer to a request gives. A failure gives none. -/
def given : Except LoadError (List Document) → List Document
  | .ok docs => docs
  | .error _ => []

theorem receive_fst (l : Loader) (answer : Except LoadError (List Document)) :
    (l.receive answer).1 = given answer := by
  rcases answer with e | _ | ⟨d, docs⟩ <;> rfl

/-- Documents are kept, unless there are none. -/
theorem cache_receive (l : Loader) (answer : Except LoadError (List Document)) :
    (l.receive answer).2.1.cache = if given answer = [] then l.cache else some (given answer) := by
  rcases answer with e | _ | ⟨d, docs⟩ <;> simp [receive, given]

theorem fetches_receive (l : Loader) (answer : Except LoadError (List Document)) :
    (l.receive answer).2.1.fetches = l.fetches := by
  rcases answer with e | _ | ⟨d, docs⟩ <;> rfl

end Loader

variable {H : Type}

theorem View.fragments_applyAll_showing [Sub H] (v : View H) (g : Layout H)
    (fragments : List Fragment) : (v.applyAll (showing g fragments)).fragments = fragments := by
  cases fragments <;> rfl

/-- The calls with which a pass begins if it is not dropped. -/
def Work.opening : Work → List (ViewCall H)
  | .query _ => clearing
  | .load => []

namespace Widget

/-- The documents that have arrived. -/
def cache (w : Widget H) : Option (List Document) := w.controller.loader.cache

/-- How often the source was asked. -/
def fetches (w : Widget H) : Nat := w.controller.loader.fetches

/-- The query has enough characters to be searched for. -/
def IsLong (w : Widget H) (text : String) : Prop := w.controller.config.minChars ≤ text.length

/-- The work needs the documents: it is neither dropped nor too short. -/
def Admits (w : Widget H) : Work → Prop
  | .query text => w.inFlight = false ∧ w.IsLong text
  | .load => True

/-- The widget that asks its source for `work`. -/
def ask (w : Widget H) : Work → Widget H
  | .query _ =>
    { w with
      controller := { w.controller with loader := w.controller.loader.request.1, inFlight := true }
      view := w.view.applyAll clearing }
  | .load => { w with controller := { w.controller with loader := w.controller.loader.request.1 } }

/-- How a pass ends that has its documents. -/
def ending (w : Widget H) (docs : List Document) : Work → Outcome
  | .query text =>
    .completed (w.controller.fragments text docs).length (w.controller.fragments text docs)
  | .load => .loaded docs.length

/-- A pass that has its documents is not dropped. -/
theorem isDropped_ending (w : Widget H) (docs : List Document) (work : Work) :
    (w.ending docs work).isDropped = false := by
  cases work <;> rfl

section Ask

variable (w : Widget H) (work : Work)

theorem cache_ask : (w.ask work).cache = w.cache := by cases work <;> rfl

theorem fetches_ask : (w.ask work).fetches = w.fetches + 1 := by cases work <;> rfl

theorem config_ask : (w.ask work).controller.config = w.controller.config := by cases work <;> rfl

theorem view_ask : (w.ask work).view = w.view.applyAll work.opening := by cases work <;> rfl

end Ask

variable [Sub H]

/-- The calls with which a pass ends that has its documents. -/
def closing (w : Widget H) (docs : List Document) : Work → List (ViewCall H)
  | .query text => showing w.layout (w.controller.fragments text docs)
  | .load => []

/-- The widget once its request is answered. -/
def answered (w : Widget H) (answer : Except LoadError (List Document)) : Work → Widget H
  | .query text =>
    { w with
      controller :=
        { w.controller with loader := (w.controller.loader.receive answer).2.1, inFlight := false }
      view := w.view.applyAll (w.closing (Loader.given answer) (.query text)) }
  | .load =>
    { w with controller := { w.controller with loader := (w.controller.loader.receive answer).2.1 } }

variable {w : Widget H} {work : Work} {answer : Except LoadError (List Document)}

/-- Whatever becomes of the source, the widget that asks it ends a pass with the same calls. -/
theorem closing_ask (w : Widget H) (source : Source) (docs : List Document) (work : Work) :
    closing { w.ask work with source } docs work = w.closing docs work := by
  cases work <;> rfl

section Answered

variable (w : Widget H) (answer : Except LoadError (List Document)) (work : Work)

theorem cache_answered : (w.answered answer work).cache =
    if Loader.given answer = [] then w.cache else some (Loader.given answer) := by
  cases work <;> exact Loader.cache_receive _ _

theorem fetches_answered : (w.answered answer work).fetches = w.fetches := by
  cases work <;> exact Loader.fetches_receive _ _

theorem config_answered : (w.answered answer work).controller.config = w.controller.config := by
  cases work <;> rfl

theorem source_answered : (w.answered answer work).source = w.source := by cases work <;> rfl

theorem view_answered : (w.answered answer work).view =
    w.view.applyAll (w.closing (Loader.given answer) work) := by
  cases work <;> rfl

end Answered

/-! ## A pass looks for its answer -/

section Proceed

variable {look : Option (Except LoadError (List Document)) × Source}

theorem proceed_of_none (h : look.1 = none) :
    w.proceed work look = { result := none, after := { w with source := look.2 } } := by
  unfold proceed
  rw [h]

theorem proceed_of_some (h : look.1 = some answer) :
    w.proceed work look =
      { result := some (w.ending (Loader.given answer) work)
        after := answered { w with source := look.2 } answer work
        calls := w.closing (Loader.given answer) work
        notices := (w.controller.loader.receive answer).2.2 } := by
  unfold proceed
  rw [h]
  cases work with
  | load => simp only [deliver, Loader.receive_fst]; rfl
  | query text =>
    simp only [deliver, Controller.deliver, complete, Loader.receive_fst, display,
      View.fragments_applyAll_showing]
    rfl

end Proceed

/-- `Polled w work r`: the reaction `r` when `work`, which waits, is polled. -/
inductive Polled (w : Widget H) (work : Work) : Reaction (Option Outcome) (Widget H) H → Prop
  /-- The source has not answered yet. -/
  | waits (hl : w.source.poll.1 = none) :
      Polled w work { result := none, after := { w with source := w.source.poll.2 } }
  | answered {answer : Except LoadError (List Document)} (hl : w.source.poll.1 = some answer) :
      Polled w work
        { result := some (w.ending (Loader.given answer) work)
          after := Widget.answered { w with source := w.source.poll.2 } answer work
          calls := w.closing (Loader.given answer) work
          notices := (w.controller.loader.receive answer).2.2 }

/-- Every reaction is one of the two. -/
theorem polled (w : Widget H) (work : Work) : w.Polled work (w.poll work) := by
  unfold poll
  cases hl : w.source.poll.1 with
  | none =>
    rw [proceed_of_none hl]
    exact .waits hl
  | some answer =>
    rw [proceed_of_some hl]
    exact .answered hl

/-! ## Work starts -/

/-- `Started w work r`: the reaction `r` when `work` starts at `w`. -/
inductive Started (w : Widget H) : Work → Reaction (Option Outcome) (Widget H) H → Prop
  /-- Another query waits. -/
  | dropped {text : String} (hf : w.inFlight = true) : Started w (.query text)
      { result := some .dropped, after := w, notices := [.queryDropped text] }
  | tooShort {text : String} (hf : w.inFlight = false) (hs : ¬ w.IsLong text) :
      Started w (.query text)
        { result := some .tooShort, after := w.display clearing, calls := clearing }
  /-- The documents are there already. -/
  | cached {work : Work} {docs : List Document} (ha : w.Admits work) (hc : w.cache = some docs) :
      Started w work
        { result := some (w.ending docs work)
          after := w.display (work.opening ++ w.closing docs work)
          calls := work.opening ++ w.closing docs work }
  /-- The source is asked, and has not answered yet. -/
  | waits {work : Work} (ha : w.Admits work) (hc : w.cache = none)
      (hl : w.source.fetch.1 = none) : Started w work
        { result := none
          after := { w.ask work with source := w.source.fetch.2 }
          calls := work.opening
          notices := w.controller.loader.request.2 }
  /-- The source is asked, and answers at once. -/
  | answered {work : Work} {answer : Except LoadError (List Document)} (ha : w.Admits work)
      (hc : w.cache = none) (hl : w.source.fetch.1 = some answer) : Started w work
        { result := some (w.ending (Loader.given answer) work)
          after := Widget.answered { w.ask work with source := w.source.fetch.2 } answer work
          calls := work.opening ++ w.closing (Loader.given answer) work
          notices := w.controller.loader.request.2 ++
            ((w.ask work).controller.loader.receive answer).2.2 }

theorem started_query_admitted {text : String} (ha : w.Admits (.query text)) :
    w.Started (.query text) (w.startQuery text) := by
  obtain ⟨hf, hs⟩ := ha
  have hs' : ¬ text.length < w.controller.config.minChars := Nat.not_lt.2 hs
  have hf' : w.controller.inFlight = false := hf
  cases hc : w.cache with
  | some docs =>
    have hc' : w.controller.loader.cache = some docs := hc
    have heq : w.startQuery text =
        { result := some (w.ending docs (.query text))
          after := w.display (clearing ++ w.closing docs (.query text))
          calls := clearing ++ w.closing docs (.query text) } := by
      simp only [startQuery, Controller.accept, hf', hs', hc', Bool.false_eq_true, if_false]
      simp only [complete, display, View.fragments_applyAll_showing, View.applyAll_append]
      rfl
    rw [heq]
    exact .cached ⟨hf, hs⟩ hc
  | none =>
    have hc' : w.controller.loader.cache = none := hc
    have heq : w.startQuery text =
        let r := (w.ask (.query text)).proceed (.query text) w.source.fetch
        { r with
          calls := clearing ++ r.calls
          notices := w.controller.loader.request.2 ++ r.notices } := by
      simp only [startQuery, Controller.accept, hf', hs', hc', Bool.false_eq_true, if_false]
      rfl
    rw [heq]
    cases hl : w.source.fetch.1 with
    | none =>
      simp only [proceed_of_none hl, List.append_nil]
      exact .waits ⟨hf, hs⟩ hc hl
    | some answer =>
      simp only [proceed_of_some hl]
      exact .answered ⟨hf, hs⟩ hc hl

theorem started_load (w : Widget H) : w.Started .load w.startLoad := by
  unfold startLoad
  cases hc : w.controller.loader.cache with
  | some docs => exact .cached trivial hc
  | none =>
    cases hl : w.source.fetch.1 with
    | none =>
      simp only [proceed_of_none hl, List.append_nil]
      exact .waits trivial hc hl
    | some answer =>
      simp only [proceed_of_some hl]
      exact .answered trivial hc hl

/-- Every reaction is one of the cases. -/
theorem started (w : Widget H) (work : Work) : w.Started work (w.start work) := by
  cases work with
  | load => exact started_load w
  | query text =>
    by_cases ha : w.Admits (.query text)
    · exact started_query_admitted ha
    · cases hf : w.controller.inFlight with
      | true =>
        have heq : w.startQuery text =
            { result := some .dropped, after := w, notices := [.queryDropped text] } := by
          simp only [startQuery, Controller.accept, hf, if_true]
          rfl
        rw [start, heq]
        exact .dropped hf
      | false =>
        have hs : text.length < w.controller.config.minChars :=
          Nat.not_le.1 fun hs => ha ⟨hf, hs⟩
        have heq : w.startQuery text =
            { result := some .tooShort, after := w.display clearing, calls := clearing } := by
          simp only [startQuery, Controller.accept, hf, hs, Bool.false_eq_true, if_false, if_true]
          rfl
        rw [start, heq]
        exact .tooShort hf (Nat.not_le.2 hs)

/-- Only what found no documents waits, and only for a source that did not answer at once. -/
theorem Started.of_result_eq_none {r : Reaction (Option Outcome) (Widget H) H}
    (h : w.Started work r) (hr : r.result = none) : w.cache = none ∧ w.source.fetch.1 = none := by
  cases h with
  | dropped hf => cases hr
  | tooShort hf hs => cases hr
  | cached ha hc => cases hr
  | waits ha hc hl => exact ⟨hc, hl⟩
  | answered ha hc hl => cases hr

end Widget

/-- A pass waits since a step that began it, or it has waited before. -/
theorem Session.Event.pass?_cases [Sub H] {s s' : Session H} {st : Step H} {r : Reply H}
    {work : Work} {k n : Nat} (h : s.Event st r s') (hp : s'.pass? n = some ⟨k, work⟩) :
    s.pass? n = some ⟨k, work⟩ ∨ st = .start k work ∧ r = .pending n ∧
      ∃ w, s.widgets[k]? = some w ∧ w.cache = none ∧ w.source.fetch.1 = none := by
  cases h with
  | noWidget ht hw => exact .inl hp
  | pollNone hp' => exact .inl hp
  | abandonNone hp' => exact .inl hp
  | @changed l w w' st r passes hw hc =>
    cases hc with
    | started hr => exact .inl hp
    | waits hr =>
      rw [pass?_append] at hp
      split at hp
      · next hn =>
        cases hp
        exact .inr ⟨rfl, hn ▸ rfl, w, hw, (w.started work).of_result_eq_none hr⟩
      · exact .inl hp
    | ended hp' hr =>
      rw [pass?_set] at hp
      split at hp
      · cases hp
      · exact .inl hp
    | waitsOn hp' hr => exact .inl hp
    | abandoned hp' =>
      rw [pass?_set] at hp
      split at hp
      · cases hp
      · exact .inl hp
    | tended ht => exact .inl hp

end SearchPanel
