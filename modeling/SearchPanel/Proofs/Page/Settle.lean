import SearchPanel.Proofs.Page.Move

/-!
# All turns after an event

* `Page.CaughtUp p`: no task waits for a request that is answered.
* `exists_play_eq_settle`: when all tasks have their turn, this is no more than a turn of each of
  them, one after the other. What waits afterwards waits for an answer (`caughtUp_settle`).
* `exists_play_eq_run`: so the page after some events is the page after some moves.
-/

namespace SearchPanel.Page

variable {p : Page} {t : Task} {ts : List Task}

/-- A turn, not something that happens to the page. -/
def Move.isTurn : Move → Bool
  | turn _ => true
  | event _ | setValue .. => false

/-- No task waits for a request that is answered. -/
def CaughtUp (p : Page) : Prop :=
  ∀ t ∈ p.tasks, ∀ r, t.stage = .waiting r → p.response? r = none

/-! ## A turn does not look at the other tasks -/

theorem performAll_tasks (p : Page) (ts : List Task) (s : Section) (calls : List (ViewCall Int)) :
    performAll { p with tasks := ts } s calls = { p.performAll s calls with tasks := ts } := by
  induction calls generalizing p with
  | nil => rfl
  | cons call calls ih =>
    have hfirst :
        perform { p with tasks := ts } s call = { p.perform s call with tasks := ts } := by
      cases call with
      | setHasResults on => cases on <;> rfl
      | clearResults | setResults fs | setMaxHeight h => rfl
    show performAll (perform _ s call) s calls = _
    rw [hfirst, ih]
    rfl

theorem showAnswers_tasks (p : Page) (ts : List Task) (s : Section) (query : String)
    (docs : List Document) :
    showAnswers { p with tasks := ts } s query docs =
      { p.showAnswers s query docs with tasks := ts } :=
  p.performAll_tasks ts s (showing (p.layoutOf s) (s.controller.fragments query docs))

theorem beginTask_tasks (p : Page) (ts : List Task) (t : Task) (s : Section) :
    beginTask { p with tasks := ts } t s =
      ((p.beginTask t s).1, { (p.beginTask t s).2.1 with tasks := ts }, (p.beginTask t s).2.2) := by
  have hset : ∀ c, setController { p with tasks := ts } t.panel c =
      { p.setController t.panel c with tasks := ts } := fun c => rfl
  unfold beginTask
  obtain ⟨admission, c, notices⟩ := s.controller.accept t.query
  simp only [hset, performAll_tasks]
  cases admission with
  | dropped | tooShort | waiting => rfl
  | ready docs => simp only [showAnswers_tasks]

theorem resumeTask_tasks (p : Page) (ts : List Task) (t : Task) (s : Section) (r : Nat) :
    resumeTask { p with tasks := ts } t s r =
      ((p.resumeTask t s r).1, { (p.resumeTask t s r).2.1 with tasks := ts },
        (p.resumeTask t s r).2.2) := by
  unfold resumeTask
  cases (p.requests[r]?).bind (·.response) with
  | none => rfl
  | some response =>
    have hshow := (p.setController t.panel (s.controller.deliver response.documents).2.1)
      |>.showAnswers_tasks ts s t.query (s.controller.deliver response.documents).1
    exact congrArg (fun q => (none, q, _)) hshow

theorem runTask_tasks (p : Page) (ts : List Task) (t : Task) :
    runTask { p with tasks := ts } t =
      ((p.runTask t).1, { (p.runTask t).2.1 with tasks := ts }, (p.runTask t).2.2) := by
  unfold runTask
  cases p.panels[t.panel]? with
  | none => rfl
  | some s =>
    cases t.stage with
    | started => exact p.beginTask_tasks ts t s
    | waiting r => exact p.resumeTask_tasks ts t s r

/-! ## One turn after the other -/

theorem waiting_of_runTask {t' : Task} (h : (p.runTask t).1 = some t') :
    ∃ r, t'.stage = .waiting r ∧ p.response? r = none := by
  cases hs : p.panels[t.panel]? with
  | none =>
    rw [runTask_of_none hs] at h
    cases h
  | some s =>
    obtain ⟨c, hturned⟩ := turned hs
    exact hturned.waiting_of_kept h

theorem response?_runTask (p : Page) (t : Task) (r : Nat) :
    (p.runTask t).2.1.response? r = p.response? r := by
  cases hs : p.panels[t.panel]? with
  | none => rw [runTask_of_none hs]
  | some s =>
    obtain ⟨c, hturned⟩ := turned hs
    exact hturned.response?_eq r

theorem response?_runTasks (p : Page) (ts : List Task) (r : Nat) :
    (p.runTasks ts).2.1.response? r = p.response? r := by
  induction ts generalizing p with
  | nil => rfl
  | cons t rest ih => exact (ih (p.runTask t).2.1).trans (p.response?_runTask t r)

/-- What is left of some tasks that had their turns waits for requests that are not answered. -/
theorem waiting_of_runTasks {t' : Task} (h : t' ∈ (p.runTasks ts).1) :
    ∃ r, t'.stage = .waiting r ∧ p.response? r = none := by
  induction ts generalizing p with
  | nil => exact absurd h List.not_mem_nil
  | cons t rest ih =>
    rcases List.mem_append.1 h with hfirst | hlater
    · exact waiting_of_runTask (Option.mem_toList.1 hfirst)
    · obtain ⟨r, hst, hr⟩ := ih hlater
      exact ⟨r, hst, (p.response?_runTask t r).symm.trans hr⟩

/-- The turns of some tasks are turns one after the other, behind tasks that have begun. -/
theorem exists_play_eq_runTasks (p : Page) (done ts : List Task)
    (hdone : ∀ u ∈ done, u.isStarted = false) : ∃ turns, (∀ m ∈ turns, m.isTurn = true) ∧
      play { p with tasks := done ++ ts } turns =
        { (p.runTasks ts).2.1 with tasks := done ++ (p.runTasks ts).1 } := by
  induction ts generalizing p done with
  | nil => exact ⟨[], fun _ hm => absurd hm List.not_mem_nil, rfl⟩
  | cons t rest ih =>
    have hkept : ∀ u ∈ done ++ (p.runTask t).1.toList, u.isStarted = false := by
      intro u hu
      rcases List.mem_append.1 hu with hu | hu
      · exact hdone u hu
      · obtain ⟨r, hst, -⟩ := waiting_of_runTask (Option.mem_toList.1 hu)
        exact isStarted_of_waiting hst
    obtain ⟨turns, hturns, hplay⟩ := ih (p.runTask t).2.1 _ hkept
    have hmay : turn? { p with tasks := done ++ t :: rest } done.length = some t := by
      refine Option.filter_eq_some_iff.2 ⟨?_, ?_⟩
      · rw [List.getElem?_append_right (Nat.le_refl _), Nat.sub_self, List.getElem?_cons_zero]
      · rw [Bool.or_eq_true]
        refine .inr (List.all_eq_true.2 fun u hu => ?_)
        rw [List.take_left] at hu
        rw [hdone u hu, Bool.not_false]
    have hfirst : takeTurn { p with tasks := done ++ t :: rest } done.length =
        { (p.runTask t).2.1 with tasks := done ++ (p.runTask t).1.toList ++ rest } := by
      simp only [takeTurn, hmay, runTask_tasks, List.take_left, List.drop_append,
        Nat.add_sub_cancel_left, List.drop_succ_cons, List.drop_zero]
      rw [List.drop_eq_nil_of_le (Nat.le_succ _), List.nil_append]
    refine ⟨.turn done.length :: turns, List.forall_mem_cons.2 ⟨rfl, hturns⟩, ?_⟩
    rw [play_cons]
    show play (takeTurn _ _) turns = _
    rw [hfirst, hplay, List.append_assoc]
    rfl

/-! ## Events and their turns -/

theorem exists_play_eq_settle (p : Page) : ∃ turns, (∀ m ∈ turns, m.isTurn = true) ∧
    p.settle.1 = p.play turns := by
  obtain ⟨turns, hturns, hplay⟩ :=
    p.exists_play_eq_runTasks [] p.tasks fun _ hu => absurd hu List.not_mem_nil
  exact ⟨turns, hturns, hplay.symm⟩

theorem caughtUp_settle (p : Page) : p.settle.1.CaughtUp := by
  intro t ht r hst
  have hkept : t ∈ (p.runTasks p.tasks).1 := ht
  obtain ⟨r', hst', hr⟩ := waiting_of_runTasks hkept
  cases hst.symm.trans hst'
  exact (p.response?_runTasks p.tasks r).trans hr

/-- With no tasks there are no turns. -/
theorem settle_of_tasks_eq_nil (h : p.tasks = []) : p.settle.1 = p := by
  unfold settle
  rw [h]
  show { p with tasks := [] } = p
  rw [← h]

/-- The page after some events is the page after some moves, which are these events with turns
between them. No task waits then for a request that is answered, unless one did before. -/
theorem exists_play_eq_run (p : Page) (events : List Event) : ∃ moves,
    moves.filter (!·.isTurn) = events.map .event ∧ p.run events = p.play moves ∧
      (p.CaughtUp → (p.run events).CaughtUp) := by
  induction events generalizing p with
  | nil => exact ⟨[], rfl, rfl, id⟩
  | cons e events ih =>
    obtain ⟨turns, hturns, hsettle⟩ := (p.handle e).2.1.exists_play_eq_settle
    obtain ⟨moves, hmoves, hrun, hcaught⟩ := ih (p.step e).2.1
    refine ⟨.event e :: turns ++ moves, ?_, ?_, fun _ => hcaught (caughtUp_settle _)⟩
    · have hnone : turns.filter (!·.isTurn) = [] :=
        List.filter_eq_nil_iff.2 fun m hm => by rw [hturns m hm]; exact Bool.false_ne_true
      rw [List.cons_append, List.filter_cons, List.filter_append, hnone, List.nil_append, hmoves]
      rfl
    · rw [List.cons_append, play_cons, play_append]
      exact hrun.trans (congrArg (play · moves) hsettle)

end SearchPanel.Page
