import SearchPanel.Page.Event
import SearchPanel.Proofs.Page.Shown
import SearchPanel.Proofs.Session.Started

/-!
# The turn of a task

* `Page.response? p r`: the answer to the request with number `r`.
* `Page.Turned p t s kept c q`: the turn of the task `t` of the panel `s`, one case for each way
  that it can go, with what is kept of the task, the panel's controller and the page afterwards.
  Every turn is one of them (`turned`).
* `Turned.panels_eq`, `Turned.becomes`: no panel but the task's own changes, and of that one nothing
  but its controller, which keeps its settings and its documents.
* `Turned.waiting_of_kept`: what is left of a task waits for a request that is not answered.
* `Turned.displays_of_apart`: what the other panels display stays.
-/

namespace SearchPanel.Page

/-- The answer to the request with a number. -/
def response? (p : Page) (r : Nat) : Option Response := (p.requests[r]?).bind (·.response)

/-- The documents that a response gives; a failure gives none. -/
def Response.given (response : Response) : List Document := Loader.given response.documents

namespace Section

/-- The index has to be asked for. -/
def ask (s : Section) : Controller :=
  { s.controller with loader := s.controller.loader.request.1, inFlight := true }

/-- The index has arrived. -/
def answered (s : Section) (response : Response) : Controller :=
  { s.controller with
    loader := (s.controller.loader.receive response.documents).2.1, inFlight := false }

/-- The query has too few characters for the panel. -/
def IsShort (s : Section) (query : String) : Prop := query.length < s.controller.config.minChars

/-- The panel `s'` is the panel `s` at a later time. -/
structure Becomes (s s' : Section) : Prop where
  input : s'.input = s.input
  results : s'.results = s.results
  config : s'.controller.config = s.controller.config
  cache : s.controller.loader.cache.isSome = true → s'.controller.loader.cache.isSome = true

theorem Becomes.refl (s : Section) : s.Becomes s := ⟨rfl, rfl, rfl, id⟩

theorem Becomes.trans {s s' s'' : Section} (h : s.Becomes s') (h' : s'.Becomes s'') :
    s.Becomes s'' :=
  ⟨h'.input.trans h.input, h'.results.trans h.results, h'.config.trans h.config,
    fun hc => h'.cache (h.cache hc)⟩

theorem Becomes.has {p : Page} {s s' : Section} (h : s.Becomes s') (hs : p.Has s) : p.Has s' :=
  ⟨h.input ▸ hs.input, h.results ▸ hs.results⟩

theorem Becomes.apart {s₁ s₁' s₂ s₂' : Section} (h₁ : s₁.Becomes s₁') (h₂ : s₂.Becomes s₂')
    (ha : s₁.Apart s₂) : s₁'.Apart s₂' :=
  ⟨h₁.input ▸ h₂.input ▸ ha.input, h₁.results ▸ h₂.results ▸ ha.results⟩

end Section

variable {p q : Page} {t t' : Task} {s s' : Section} {kept : Option Task}
  {c : Controller} {k j r : Nat}

/-- A task that has not begun. -/
def Task.isStarted (t : Task) : Bool := t.stage = .started

theorem isStarted_of_started (h : t.stage = .started) : t.isStarted = true := decide_eq_true h

theorem isStarted_of_waiting (h : t.stage = .waiting r) : t.isStarted = false := by
  rw [Task.isStarted, h]
  rfl

theorem exists_waiting (h : t.isStarted = false) : ∃ r, t.stage = .waiting r := by
  cases hst : t.stage with
  | started => cases h.symm.trans (isStarted_of_started hst)
  | waiting r => exact ⟨r, rfl⟩

/-! ## Controllers -/

@[simp]
theorem requests_setController (p : Page) (k : Nat) (c : Controller) :
    (p.setController k c).requests = p.requests := rfl

@[simp]
theorem tree_setController (p : Page) (k : Nat) (c : Controller) :
    (p.setController k c).tree = p.tree := rfl

theorem getElem?_setController (p : Page) (k : Nat) (c : Controller) (j : Nat) :
    (p.setController k c).panels[j]? =
      if k = j then (p.panels[j]?).map ({ · with controller := c }) else p.panels[j]? := by
  rw [setController, List.getElem?_modify]
  split <;> simp

/-- A panel that gets the controller that it has stays as it is. -/
theorem setController_self (hs : p.panels[k]? = some s) : p.setController k s.controller = p := by
  have hpanels : (p.setController k s.controller).panels = p.panels := by
    refine List.ext_getElem? fun j => ?_
    rw [getElem?_setController]
    split
    · next h =>
      rw [← h, hs]
      rfl
    · rfl
  show { p with panels := _ } = p
  rw [show p.panels.modify k _ = p.panels from hpanels]

/-! ## What a turn does -/

/-- `Turned p t s kept c q`: the task `t` of the panel `s` has its turn in `p`; then `kept` is left
of it, the panel has the controller `c`, and the page is `q`. -/
inductive Turned (p : Page) (t : Task) (s : Section) : Option Task → Controller → Page → Prop
  /-- Another query of the panel waits. -/
  | dropped (hst : t.stage = .started) (hf : s.controller.inFlight = true) :
      Turned p t s none s.controller p
  | tooShort (hst : t.stage = .started) (hf : s.controller.inFlight = false)
      (hs : s.IsShort t.query) : Turned p t s none s.controller (p.performAll s clearing)
  /-- The documents are there already. -/
  | ready {docs : List Document} (hst : t.stage = .started) (hf : s.controller.inFlight = false)
      (hs : ¬ s.IsShort t.query) (hc : s.controller.loader.cache = some docs) :
      Turned p t s none s.controller ((p.performAll s clearing).showAnswers s t.query docs)
  /-- A request is sent. -/
  | waits (hst : t.stage = .started) (hf : s.controller.inFlight = false)
      (hs : ¬ s.IsShort t.query) (hc : s.controller.loader.cache = none) :
      Turned p t s (some { t with stage := .waiting p.requests.length }) s.ask
        { (p.setController t.panel s.ask).performAll s clearing with
          requests := p.requests ++ [{ url := s.controller.config.indexPath }] }
  /-- The request is not answered yet. -/
  | waitsOn {r : Nat} (hst : t.stage = .waiting r) (hr : p.response? r = none) :
      Turned p t s (some t) s.controller p
  | answered {r : Nat} {response : Response} (hst : t.stage = .waiting r)
      (hr : p.response? r = some response) :
      Turned p t s none (s.answered response)
        ((p.setController t.panel (s.answered response)).showAnswers s t.query response.given)

theorem turned_begin (hs : p.panels[t.panel]? = some s) (hst : t.stage = .started) :
    ∃ c, p.Turned t s (p.beginTask t s).1 c (p.beginTask t s).2.1 := by
  unfold beginTask Controller.accept
  cases hf : s.controller.inFlight with
  | true =>
    simp only [if_true, setController_self hs]
    exact ⟨_, .dropped hst hf⟩
  | false =>
    simp only [Bool.false_eq_true, if_false]
    by_cases hshort : s.IsShort t.query
    · have hlt : t.query.length < s.controller.config.minChars := hshort
      simp only [if_pos hlt, setController_self hs]
      exact ⟨_, .tooShort hst hf hshort⟩
    · have hlt : ¬ t.query.length < s.controller.config.minChars := hshort
      simp only [if_neg hlt]
      cases hc : s.controller.loader.cache with
      | some docs =>
        simp only [setController_self hs]
        exact ⟨_, .ready hst hf hshort hc⟩
      | none =>
        simp only [requests_performAll, requests_setController]
        exact ⟨_, .waits hst hf hshort hc⟩

theorem turned_resume (hst : t.stage = .waiting r) :
    ∃ c, p.Turned t s (p.resumeTask t s r).1 c (p.resumeTask t s r).2.1 := by
  unfold resumeTask
  cases hr : p.response? r with
  | none =>
    have hr' : (p.requests[r]?).bind (·.response) = none := hr
    rw [hr']
    exact ⟨_, .waitsOn hst hr⟩
  | some response =>
    have hr' : (p.requests[r]?).bind (·.response) = some response := hr
    rw [hr']
    simp only [Controller.deliver, Loader.receive_fst]
    exact ⟨_, .answered hst hr⟩

/-- A task of no panel ends. -/
theorem runTask_of_none (hs : p.panels[t.panel]? = none) : p.runTask t = (none, p, []) := by
  unfold runTask
  rw [hs]

/-- Every turn is one of the cases. -/
theorem turned (hs : p.panels[t.panel]? = some s) :
    ∃ c, p.Turned t s (p.runTask t).1 c (p.runTask t).2.1 := by
  unfold runTask
  rw [hs]
  cases hst : t.stage with
  | started => exact turned_begin hs hst
  | waiting r => exact turned_resume hst

/-! ## What a turn leaves as it is -/

/-- A new request has no answer. -/
theorem response?_append (p : Page) (url : String) (r : Nat) :
    response? { p with requests := p.requests ++ [{ url }] } r = p.response? r := by
  rw [response?, response?]
  rcases Nat.lt_trichotomy r p.requests.length with hr | rfl | hr
  · rw [List.getElem?_append_left hr]
  · rw [List.getElem?_concat_length, List.getElem?_eq_none (Nat.le_refl _)]
    rfl
  · rw [List.getElem?_eq_none (Nat.le_of_lt hr), List.getElem?_eq_none]
    rw [List.length_append]
    exact hr

section ShowAnswers

variable (p : Page) (s : Section) (query : String) (docs : List Document)

@[simp]
theorem panels_showAnswers : (p.showAnswers s query docs).panels = p.panels :=
  panels_performAll ..

@[simp]
theorem requests_showAnswers : (p.showAnswers s query docs).requests = p.requests :=
  requests_performAll ..

@[simp]
theorem length_showAnswers :
    (p.showAnswers s query docs).tree.elements.length = p.tree.elements.length :=
  length_performAll ..

end ShowAnswers

namespace Turned

theorem length (h : p.Turned t s kept c q) :
    q.tree.elements.length = p.tree.elements.length := by
  cases h <;> simp

/-- A turn answers no request; it may add one that has no answer yet. -/
theorem response?_eq (h : p.Turned t s kept c q) (r : Nat) : q.response? r = p.response? r := by
  cases h with
  | dropped hst hf => rfl
  | tooShort hst hf hs => simp [response?]
  | ready hst hf hs hc => simp [response?]
  | waits hst hf hs hc => exact response?_append p _ r
  | waitsOn hst hr => rfl
  | answered hst hr => simp [response?]

/-- Nothing of the panels changes but the controller of the task's own. -/
theorem panels_eq (h : p.Turned t s kept c q) (hs : p.panels[t.panel]? = some s) :
    q.panels = (p.setController t.panel c).panels := by
  cases h with
  | dropped hst hf => rw [setController_self hs]
  | tooShort hst hf hshort => rw [setController_self hs, panels_performAll]
  | ready hst hf hshort hc => rw [setController_self hs, panels_showAnswers, panels_performAll]
  | waits hst hf hshort hc => exact panels_performAll ..
  | waitsOn hst hr => rw [setController_self hs]
  | answered hst hr => exact panels_showAnswers ..

theorem getElem?_self (h : p.Turned t s kept c q) (hs : p.panels[t.panel]? = some s) :
    q.panels[t.panel]? = some { s with controller := c } := by
  rw [h.panels_eq hs, getElem?_setController, if_pos rfl, hs]
  rfl

theorem getElem?_of_ne (h : p.Turned t s kept c q) (hs : p.panels[t.panel]? = some s)
    (hj : t.panel ≠ j) : q.panels[j]? = p.panels[j]? := by
  rw [h.panels_eq hs, getElem?_setController, if_neg hj]

/-- The controller keeps its settings, and documents that have arrived are not lost. -/
theorem becomes (h : p.Turned t s kept c q) : s.Becomes { s with controller := c } := by
  cases h with
  | dropped hst hf => exact .refl s
  | tooShort hst hf hs => exact .refl s
  | ready hst hf hs hc => exact .refl s
  | waits hst hf hs hc => exact ⟨rfl, rfl, rfl, id⟩
  | waitsOn hst hr => exact .refl s
  | @answered r response hst hr =>
    refine ⟨rfl, rfl, rfl, fun hc => ?_⟩
    show (s.controller.loader.receive response.documents).2.1.cache.isSome = true
    rw [Loader.cache_receive]
    split
    · exact hc
    · rfl

/-- Whatever is found of a panel after a turn was there before. -/
theorem exists_becomes (h : p.Turned t s kept c q) (hs : p.panels[t.panel]? = some s)
    (hs' : q.panels[j]? = some s') : ∃ s₀, p.panels[j]? = some s₀ ∧ s₀.Becomes s' := by
  by_cases hj : t.panel = j
  · subst hj
    cases hs'.symm.trans (h.getElem?_self hs)
    exact ⟨s, hs, h.becomes⟩
  · rw [h.getElem?_of_ne hs hj] at hs'
    exact ⟨s', hs', .refl s'⟩

/-- What is left of a task waits for a request that is not answered. -/
theorem waiting_of_kept (h : p.Turned t s kept c q) (hk : kept = some t') :
    ∃ r, t'.stage = .waiting r ∧ p.response? r = none := by
  cases h with
  | waits hst hf hs hc =>
    cases hk
    refine ⟨p.requests.length, rfl, ?_⟩
    rw [response?, List.getElem?_eq_none (Nat.le_refl _)]
    rfl
  | waitsOn hst hr =>
    cases hk
    exact ⟨_, hst, hr⟩
  | dropped | tooShort | ready | answered => cases hk

theorem isStarted_of_kept (h : p.Turned t s kept c q) (hk : kept = some t') :
    t'.isStarted = false := by
  obtain ⟨r, hst, -⟩ := h.waiting_of_kept hk
  exact isStarted_of_waiting hst

theorem panel_of_kept (h : p.Turned t s kept c q) (hk : kept = some t') : t'.panel = t.panel := by
  cases h with
  | waits | waitsOn =>
    cases hk
    rfl
  | dropped | tooShort | ready | answered => cases hk

/-- What stands apart from the panel of the task is displayed as before. -/
theorem displays_of_apart (h : p.Turned t s kept c q) (ha : s.Apart s') {fragments : List Fragment}
    (hd : p.Displays s' fragments) : q.Displays s' fragments := by
  cases h with
  | dropped hst hf => exact hd
  | tooShort hst hf hs => exact hd.performAll_of_apart ha
  | ready hst hf hs hc => exact (hd.performAll_of_apart ha).performAll_of_apart ha
  | waits hst hf hs hc =>
    have hset : (p.setController t.panel s.ask).Displays s' fragments :=
      hd.of_tree rfl
    have hcleared : ((p.setController t.panel s.ask).performAll s clearing).Displays s' fragments :=
      hset.performAll_of_apart ha
    exact hcleared.of_tree rfl
  | waitsOn hst hr => exact hd
  | @answered r response hst hr =>
    have hset : (p.setController t.panel (s.answered response)).Displays s' fragments :=
      hd.of_tree rfl
    exact hset.performAll_of_apart ha

end Turned

end SearchPanel.Page
