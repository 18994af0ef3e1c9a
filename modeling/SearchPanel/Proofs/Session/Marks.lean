import SearchPanel.Proofs.Session.Shown

/-!
# The mark for results

* `Session.Makes s k w calls w'`: what a step calls and what it makes of its widget. The view of the
  widget is changed by these calls alone (`Makes.view_eq`), and after none of them the mark stands
  over an empty list (`Makes.honestAlong`).
* `Leads.counts`: the list was emptied for each query that was taken, and filled for each answer.
* `hasResults_iff_fragments_ne_nil`: the mark stands over a list that is not empty, and only there.
-/

namespace SearchPanel.Session

variable {H : Type} {new s t : Session H} {w w' : Widget H} {work : Work} {st : Step H}
  {moments : List (Moment H)} {k n : Nat}

/-! ## The calls of a step -/

theorem exists_pass_of_target?_poll (ht : s.target? (.poll n) = some k) :
    ∃ work, s.pass? n = some ⟨k, work⟩ := by
  obtain ⟨⟨l, work⟩, hp, rfl⟩ := Option.map_eq_some_iff.1 ht
  exact ⟨work, hp⟩

theorem getElem?_set_of_widget (hw : s.widgets[k]? = some w) (w' : Widget H) :
    (s.widgets.set k w')[k]? = some w' := by
  obtain ⟨hk, -⟩ := List.getElem?_eq_some_iff.1 hw
  exact List.getElem?_set_self hk

theorem onWidget_eq {f : Widget H → Reaction (Reply H) (Widget H) H}
    (hw : s.widgets[k]? = some w) :
    (s.onWidget k f).calls = (f w).calls ∧
      (s.onWidget k f).after.widgets = s.widgets.set k (f w).after := by
  simp only [onWidget, hw]
  exact ⟨trivial, rfl⟩

theorem abandon_eq (hp : s.pass? n = some ⟨k, work⟩) (hw : s.widgets[k]? = some w) :
    (s.abandon n).calls = [] ∧
      (s.abandon n).after.widgets = s.widgets.set k (w.abandon work) := by
  simp only [abandon, hp, hw]
  exact ⟨trivial, rfl⟩

variable [Sub H]

theorem start_eq (hw : s.widgets[k]? = some w) (work : Work) :
    (s.start k work).calls = (w.start work).calls ∧
      (s.start k work).after.widgets = s.widgets.set k (w.start work).after := by
  simp only [start, hw]
  cases (w.start work).result <;> exact ⟨rfl, rfl⟩

theorem poll_eq (hp : s.pass? n = some ⟨k, work⟩) (hw : s.widgets[k]? = some w) :
    (s.poll n).calls = (w.poll work).calls ∧
      (s.poll n).after.widgets = s.widgets.set k (w.poll work).after := by
  simp only [poll, hp, hw]
  cases (w.poll work).result <;> exact ⟨rfl, rfl⟩

/-- `Makes s k w calls w'`: with these calls a step makes `w'` of `w`, which is widget `k`. -/
inductive Makes (s : Session H) (k : Nat) (w : Widget H) : List (ViewCall H) → Widget H → Prop
  | started (work : Work) : Makes s k w (w.start work).calls (w.start work).after
  | polled {n : Nat} {work : Work} (hp : s.pass? n = some ⟨k, work⟩) :
      Makes s k w (w.poll work).calls (w.poll work).after
  | adjusted : Makes s k w w.adjust.calls w.adjust.after
  /-- Nothing is called, and nothing else is shown. -/
  | silent {w' : Widget H} (hv : w'.view = w.view) : Makes s k w [] w'

theorem exists_makes (hw : s.widgets[k]? = some w) (ht : s.target? st = some k) :
    ∃ w', (s.step st).after.widgets[k]? = some w' ∧ s.Makes k w (s.step st).calls w' := by
  have hset := getElem?_set_of_widget hw
  cases st with
  | start l work =>
    obtain rfl : l = k := Option.some.inj ht
    obtain ⟨hcalls, hafter⟩ := start_eq hw work
    rw [step, hcalls, hafter]
    exact ⟨_, hset _, .started work⟩
  | poll n =>
    obtain ⟨work, hp⟩ := exists_pass_of_target?_poll ht
    obtain ⟨hcalls, hafter⟩ := poll_eq hp hw
    rw [step, hcalls, hafter]
    exact ⟨_, hset _, .polled hp⟩
  | abandon n =>
    obtain ⟨work, hp⟩ := exists_pass_of_target?_poll ht
    obtain ⟨hcalls, hafter⟩ := abandon_eq hp hw
    rw [step, hcalls, hafter]
    exact ⟨_, hset _, .silent (by cases work <;> rfl)⟩
  | adjust l =>
    obtain rfl : l = k := Option.some.inj ht
    obtain ⟨hcalls, hafter⟩ := onWidget_eq hw
    rw [step, hcalls, hafter]
    exact ⟨_, hset _, .adjusted⟩
  | release l docs | giveUp l | resize l container | replaceFile l content =>
    obtain rfl : l = k := Option.some.inj ht
    obtain ⟨hcalls, hafter⟩ := onWidget_eq hw
    rw [step, hcalls, hafter]
    exact ⟨_, hset _, .silent rfl⟩

/-- The view of a widget is changed by the calls of the step alone. -/
theorem Makes.view_eq {calls : List (ViewCall H)} (h : s.Makes k w calls w') :
    w'.view = w.view.applyAll calls := by
  cases h with
  | started work => exact w.view_start work
  | @polled n work hp => exact w.view_proceed work _
  | adjusted => rfl
  | silent hv => exact hv

/-- At no time does the mark stand over an empty list: a query that has waited finds it empty. -/
theorem Makes.honestAlong {calls : List (ViewCall H)} (h : s.Makes k w calls w') (hg : s.Guarded)
    (hi : w.Tidy) (hw : s.widgets[k]? = some w) : w.view.HonestAlong calls := by
  have hhonest : w.view.Honest := hi.marked.1
  cases h with
  | started work => exact (w.started work).honestAlong hhonest
  | @polled n work hp =>
    refine (w.polled work).honestAlong hhonest fun hquery => Bool.eq_false_iff.2 fun hon => ?_
    have hbusy : w.inFlight = true :=
      (hg.flag hw).2 ⟨n, (waits_iff_of_pass? hp).2 ⟨rfl, hquery⟩⟩
    exact hhonest hon (hi.waiting hbusy)
  | adjusted =>
    unfold Widget.adjust
    cases w.layout.adjust w.view.fragments.length with
    | none => exact hhonest
    | some height => exact ⟨hhonest, hhonest⟩
  | silent hv => exact hhonest

/-! ## Counts -/

/-- The list is emptied with a query that is taken, and with nothing else. -/
theorem clears_step (m : Moment H) (hw' : (m.before.step m.step).after.widgets[k]? = some w') :
    ∃ w, m.before.widgets[k]? = some w ∧
      w'.view.clears = w.view.clears + if m.takesQuery k then 1 else 0 := by
  obtain ⟨w, hw, hc⟩ := (event_step m.before m.step).content hw'
  exact ⟨w, hw, (congrArg (fun v : View H => v.clears) hc).trans View.clears_changed⟩

/-- It is filled with an answer, and with nothing else. -/
theorem renders_step (m : Moment H) (hw' : (m.before.step m.step).after.widgets[k]? = some w') :
    ∃ w, m.before.widgets[k]? = some w ∧
      w'.view.renders = w.view.renders + if (m.shown? k).isSome then 1 else 0 := by
  obtain ⟨w, hw, hc⟩ := (event_step m.before m.step).content hw'
  exact ⟨w, hw, (congrArg (fun v : View H => v.renders) hc).trans View.renders_changed⟩

/-- The list was emptied for each query that was taken, and filled for each answer. -/
theorem Leads.counts (h : new.Leads moments s) (hnew : new.Fresh)
    (hw : s.widgets[k]? = some w) :
    w.view.clears = moments.countP (·.takesQuery k) ∧
      w.view.renders = moments.countP fun m => (m.shown? k).isSome := by
  obtain ⟨w₀, hw₀, hclears⟩ := h.eq_add_countP (f := fun w => w.view.clears) (fun _ _ => rfl)
    (fun m _ => clears_step m) hw
  obtain ⟨w₁, hw₁, hrenders⟩ := h.eq_add_countP (f := fun w => w.view.renders) (fun _ _ => rfl)
    (fun m _ => renders_step m) hw
  rw [hclears, hrenders, (hnew.widget hw₀).view, (hnew.widget hw₁).view]
  exact ⟨Nat.zero_add _, Nat.zero_add _⟩

/-! ## A query that is given up -/

/-- What is shown when the query that waits is given up: nothing, until the next query is taken. -/
theorem Guarded.empty_of_abandon {later : List (Moment H)} (hg : s.Guarded) (hi : s.Tidy)
    (hw : s.widgets[k]? = some w) (hn : s.Waits k n)
    (hlater : (s.step (.abandon n)).after.Leads later t)
    (htakes : ∀ m ∈ later, m.takesQuery k = false) :
    ∃ w', t.widgets[k]? = some w' ∧ w'.view.fragments = [] ∧ w'.view.hasResults = false := by
  have he := event_step s (.abandon n)
  have hend : (Step.abandon n).Ends (s.step (.abandon n)).result n :=
    .inr ⟨rfl, abandoned_of_waits hn hw⟩
  obtain ⟨w₁, hw₁⟩ := he.exists_widget hw
  obtain ⟨w₀, hw₀, hc₁⟩ := he.content hw₁
  obtain rfl : w = w₀ := Option.some.inj (hw.symm.trans hw₀)
  obtain ⟨-, w', hw', hc'⟩ := hlater.content_of_free (hg.free_of_ends he hn hend) htakes hw₁
  have hc : w'.view.content = w.view.content := by
    rw [hc', hc₁, abandoned_of_waits hn hw]
    split <;> rfl
  obtain ⟨hfragments, hmark⟩ := hi.empty_of_busy hw ((hg.flag hw).2 ⟨n, hn⟩)
  refine ⟨w', hw', ?_, ?_⟩
  · exact (congrArg (fun v : View H => v.fragments) hc).trans hfragments
  · exact (congrArg (fun v : View H => v.hasResults) hc).trans hmark

/-! ## Main result -/

/-- **The mark for results.** At every time of a run, whatever the sources are, and also between the
calls of a step, the mark stands over a list that is not empty; after each step it stands over every
such list. While a query waits, and from the time it is given up until the next query is taken, the
list is empty and not marked. The list was emptied once for each query that was taken and filled
once for each answer. -/
theorem hasResults_iff_fragments_ne_nil (hnew : new.Fresh) (h : new.Leads moments s)
    (hw : s.widgets[k]? = some w) :
    (∀ st, s.target? st = some k →
      (∃ w', (s.step st).after.widgets[k]? = some w' ∧
        w'.view = w.view.applyAll (s.step st).calls) ∧
      ∀ made, made <+: (s.step st).calls →
        (w.view.applyAll made).hasResults = true → (w.view.applyAll made).fragments ≠ []) ∧
    (∀ st, s.target? st ≠ some k → (s.step st).after.widgets[k]? = some w) ∧
    (w.view.hasResults = true ↔ w.view.fragments ≠ []) ∧
    (w.inFlight = true → w.view.fragments = [] ∧ w.view.hasResults = false) ∧
    (∀ n, s.Waits k n → ∀ later t, (s.step (.abandon n)).after.Leads later t →
      (∀ m ∈ later, m.takesQuery k = false) →
      ∃ w', t.widgets[k]? = some w' ∧ w'.view.fragments = [] ∧ w'.view.hasResults = false) ∧
    w.view.clears = moments.countP (·.takesQuery k) ∧
    w.view.renders = moments.countP fun m => (m.shown? k).isSome := by
  have hg := h.guarded hnew.guarded
  have hi := h.tidy hnew.guarded hnew.tidy
  refine ⟨fun st ht => ?_, fun st => (event_step s st).getElem?_of_target_ne hw,
    (hi k w hw).marked, hi.empty_of_busy hw,
    fun n hn later t => hg.empty_of_abandon hi hw hn, h.counts hnew hw⟩
  obtain ⟨w', hw', hmakes⟩ := exists_makes hw ht
  exact ⟨⟨w', hw', hmakes.view_eq⟩,
    fun made hmade => (hmakes.honestAlong hg (hi k w hw) hw).honest_applyAll hmade⟩

/-- Three queries, of which one is dropped and two are answered. -/
theorem hasResults_iff_fragments_ne_nil_gated :
    let steps : List (Step Nat) := [.start 0 (.query "gate"), .start 0 (.query "late"),
      .release 0 [{ title := "Gates" }], .poll 0, .start 0 (.query "way")]
    ∃ w, (gated.run steps).widgets[0]? = some w ∧
      (w.view.hasResults = true ↔ w.view.fragments ≠ []) ∧
      w.view.clears = 2 ∧ w.view.renders = 2 := by
  intro steps
  obtain ⟨w, hw⟩ : ∃ w, (gated.run steps).widgets[0]? = some w := ⟨_, rfl⟩
  obtain ⟨-, -, hmark, -, -, hclears, hrenders⟩ :=
    hasResults_iff_fragments_ne_nil fresh_gated (leads_history gated steps) hw
  exact ⟨w, hw, hmark, hclears, hrenders⟩

end SearchPanel.Session
