import SearchPanel.Proofs.Session.Shown

/-!
# The height of a list that shows something

* `Event.maxHeight`: what a step makes of the height of a widget. An answer with fragments and an
  adjustment of a list that shows something set it to what the search box leaves; nothing else
  changes it.
* `Session.ShownSince k moments fragments r rest`: the moment `r` showed the fragments at widget
  `k`, and in the moments `rest` since then they stayed.
* `Leads.exists_maxHeight`: a list that shows something has the height that there was room for when
  it was shown, or when it was adjusted last since then.
* `maxHeight_eq_of_shown`: with that, what an adjustment does and which steps leave the height as it
  is.
-/

namespace SearchPanel

variable {H : Type}

/-! ## Calls that set the height -/

/-- The height is adjusted at widget `k`. -/
def Step.adjusts (k : Nat) : Step H → Bool
  | .adjust l => l == k
  | _ => false

theorem Step.eq_adjust_of_adjusts {k : Nat} {st : Step H} (h : st.adjusts k = true) :
    st = .adjust k := by
  cases st with
  | adjust l => rw [eq_of_beq h]
  | start l work | poll n | abandon n | release l docs | giveUp l | resize l container
  | replaceFile l content => cases h

/-- Fragments are shown, and there is one. -/
def showsSome (shown : Option (List Fragment)) : Bool :=
  shown.any fun fragments => !fragments.isEmpty

theorem showsSome_eq_false {shown : Option (List Fragment)} (h : shown.getD [] = []) :
    showsSome shown = false := by
  cases shown with
  | none => rfl
  | some fragments =>
    obtain rfl : fragments = [] := h
    rfl

/-- The height that the elements around the list leave for it. -/
def Widget.room [Sub H] (w : Widget H) : H :=
  maxResultsHeight w.layout.container w.layout.searchBox

namespace View

theorem maxHeight_applyAll_opening (v : View H) (work : Work) :
    (v.applyAll work.opening).maxHeight = v.maxHeight := by
  cases work <;> rfl

theorem maxHeight_applyAll_showing [Sub H] (v : View H) (g : Layout H) (fragments : List Fragment) :
    (v.applyAll (showing g fragments)).maxHeight =
      if showsSome (some fragments) then some g.maxHeight else v.maxHeight := by
  cases fragments <;> rfl

end View

namespace Widget

variable [Sub H] {w w' : Widget H} {work : Work} {r : Reaction (Option Outcome) (Widget H) H}
  {k : Nat}

theorem maxHeight_applyAll_closing (w : Widget H) (v : View H) (docs : List Document)
    (work : Work) : (v.applyAll (w.closing docs work)).maxHeight =
      if showsSome (w.ending docs work).shown? then some w.room else v.maxHeight := by
  cases work with
  | load => rfl
  | query text => exact View.maxHeight_applyAll_showing ..

theorem Started.maxHeight (h : w.Started work r) : r.after.view.maxHeight =
    if showsSome (r.result.bind Outcome.shown?) then some w.room else w.view.maxHeight := by
  cases h with
  | dropped hf => rfl
  | tooShort hf hs => rfl
  | cached ha hc =>
    rw [display, View.applyAll_append, maxHeight_applyAll_closing, View.maxHeight_applyAll_opening]
    rfl
  | waits ha hc hl =>
    rw [view_ask, View.maxHeight_applyAll_opening]
    rfl
  | answered ha hc hl =>
    rw [view_answered, closing_ask, maxHeight_applyAll_closing, view_ask,
      View.maxHeight_applyAll_opening]
    rfl

theorem Polled.maxHeight (h : w.Polled work r) : r.after.view.maxHeight =
    if showsSome (r.result.bind Outcome.shown?) then some w.room else w.view.maxHeight := by
  cases h with
  | waits hl => rfl
  | answered hl =>
    rw [view_answered]
    exact maxHeight_applyAll_closing w w.view _ work

/-- An adjustment sets the height of a list that shows something, and does nothing else. -/
theorem adjust_of_shown (h : w.view.fragments ≠ []) : w.adjust =
    { result := some w.room
      after := { w with view := { w.view with maxHeight := some w.room } }
      calls := [.setMaxHeight w.room] } := by
  unfold adjust
  rw [Layout.adjust, if_neg (by simpa using h)]
  rfl

theorem adjust_of_empty (h : w.view.fragments = []) :
    w.adjust = { result := none, after := w } := by
  unfold adjust
  rw [h]
  rfl

theorem Tended.maxHeight {st : Step H} {r : Reply H} (h : w.Tended k st r w') :
    w'.view.maxHeight =
      if st.adjusts k = true ∧ w.view.fragments ≠ [] then some w.room else w.view.maxHeight := by
  cases h with
  | adjust =>
    by_cases hshown : w.view.fragments = []
    · rw [adjust_of_empty hshown, if_neg fun h => h.2 hshown]
    · rw [adjust_of_shown hshown, if_pos ⟨beq_self_eq_true k, hshown⟩]
  | release docs => rfl
  | giveUp => rfl
  | resize container => rfl
  | replaceFile content => rfl

end Widget

namespace Session

theorem setWidget_self {s : Session H} {k : Nat} {w : Widget H} (hw : s.widgets[k]? = some w) :
    s.setWidget k w = s := by
  obtain ⟨hk, rfl⟩ := List.getElem?_eq_some_iff.1 hw
  rw [setWidget, List.set_getElem_self hk]

/-- The last of the moments that set the height: the one that showed the fragments, or an adjustment
since then. -/
def lastSizing? (k : Nat) (r : Moment H) (rest : List (Moment H)) : Option (Moment H) :=
  (r :: rest.filter (·.step.adjusts k)).getLast?

theorem lastSizing?_snoc (k : Nat) (r m : Moment H) (rest : List (Moment H)) :
    lastSizing? k r (rest ++ [m]) =
      if m.step.adjusts k = true then some m else lastSizing? k r rest := by
  rw [lastSizing?, List.filter_append, ← List.cons_append, lastSizing?]
  split
  · next hm =>
    have hlast : [m].filter (·.step.adjusts k) = [m] := List.filter_cons_of_pos hm
    rw [hlast, List.getLast?_concat]
  · next hm =>
    have hlast : [m].filter (·.step.adjusts k) = [] := List.filter_cons_of_neg hm
    rw [hlast, List.append_nil]

variable [Sub H] {new s s' : Session H} {w w' : Widget H} {st : Step H} {r : Reply H}
  {passes : List (Option Pass)} {moments : List (Moment H)} {k : Nat}

theorem Change.maxHeight (h : s.Change k w st r w' passes) : w'.view.maxHeight =
    if showsSome r.shown? = true ∨ st.adjusts k = true ∧ w.view.fragments ≠ [] then some w.room
    else w.view.maxHeight := by
  cases h with
  | @started work o hr =>
    have hm := (w.started work).maxHeight
    rw [hr] at hm
    simpa [Step.adjusts, Reply.shown?, Reply.outcome?] using hm
  | @waits work hr =>
    have hm := (w.started work).maxHeight
    rw [hr] at hm
    simpa [Step.adjusts, Reply.shown?, Reply.outcome?] using hm
  | @ended m work o hp hr =>
    have hm := (w.polled work).maxHeight
    rw [hr] at hm
    simpa [Step.adjusts, Reply.shown?, Reply.outcome?] using hm
  | @waitsOn m work hp hr =>
    have hm := (w.polled work).maxHeight
    rw [hr] at hm
    simpa [Step.adjusts, Reply.shown?, Reply.outcome?] using hm
  | @abandoned m work hp => cases work <;> rfl
  | tended ht =>
    rw [ht.maxHeight, Reply.shown?, ht.outcome?_eq_none]
    simp [showsSome]

/-- What a step makes of the height of a widget: a step for another one leaves it as it is. -/
theorem Event.maxHeight (h : s.Event st r s') (hw' : s'.widgets[k]? = some w') :
    ∃ w, s.widgets[k]? = some w ∧ w'.view.maxHeight =
      if showsSome (if s.target? st = some k then r.shown? else none) = true ∨
        st.adjusts k = true ∧ w.view.fragments ≠ [] then some w.room
      else w.view.maxHeight := by
  rcases h.widget_cases hw' with ⟨w, hw, hc⟩ | ⟨ht, hw⟩
  · exact ⟨w, hw, by rw [if_pos hc.target, hc.maxHeight]⟩
  · refine ⟨w', hw, ?_⟩
    have hadjusts : st.adjusts k = false := by
      cases st with
      | adjust l => exact beq_eq_false_iff_ne.2 fun hl => ht (congrArg some hl)
      | start l work | poll n | abandon n | release l docs | giveUp l | resize l container
      | replaceFile l content => rfl
    simp [ht, hadjusts, showsSome]

/-- What a moment makes of the list of a widget and of its height. -/
theorem sizing_step (m : Moment H) (hw' : (m.before.step m.step).after.widgets[k]? = some w') :
    ∃ w, m.before.widgets[k]? = some w ∧
      w'.view.fragments =
        (m.shown? k).getD (if m.takesQuery k = true then [] else w.view.fragments) ∧
      w'.view.maxHeight =
        if showsSome (m.shown? k) = true ∨ m.step.adjusts k = true ∧ w.view.fragments ≠ [] then
          some w.room
        else w.view.maxHeight := by
  have he := event_step m.before m.step
  obtain ⟨w, hw, hc⟩ := he.content hw'
  obtain ⟨w₁, hw₁, hheight⟩ := he.maxHeight hw'
  obtain rfl : w = w₁ := Option.some.inj (hw.symm.trans hw₁)
  refine ⟨w, hw, ?_, hheight⟩
  have hfragments : w'.view.content.fragments =
      (w.view.content.changed (m.takesQuery k) (m.shown? k)).fragments :=
    congrArg View.fragments hc
  refine hfragments.trans ?_
  cases m.shown? k with
  | some fragments => rfl
  | none => cases m.takesQuery k <;> rfl

/-! ## Since the fragments were shown -/

/-- The moment `r` showed the fragments at widget `k`. In the moments `rest` since then no query of
the widget was taken, and nothing else was shown. -/
structure ShownSince (k : Nat) (moments : List (Moment H)) (fragments : List Fragment)
    (r : Moment H) (rest : List (Moment H)) : Prop where
  split : ∃ first, moments = first ++ r :: rest
  shown : r.shown? k = some fragments
  kept : ∀ m ∈ rest, m.takesQuery k = false ∧ m.shown? k = none

theorem ShownSince.snoc {fragments : List Fragment} {m r : Moment H} {rest : List (Moment H)}
    (h : ShownSince k moments fragments r rest) (htaken : m.takesQuery k = false)
    (hshown : m.shown? k = none) : ShownSince k (moments ++ [m]) fragments r (rest ++ [m]) := by
  obtain ⟨⟨first, rfl⟩, hr, hkept⟩ := h
  refine ⟨⟨first, by simp⟩, hr, fun m' hm' => ?_⟩
  rcases List.mem_append.1 hm' with hm' | hm'
  · exact hkept m' hm'
  · obtain rfl := List.mem_singleton.1 hm'
    exact ⟨htaken, hshown⟩

/-- A list that shows something has the height that there was room for when it was shown, or when it
was adjusted last since then. -/
theorem Leads.exists_maxHeight (h : new.Leads moments s) (hnew : new.Fresh)
    (hw : s.widgets[k]? = some w) (hshown : w.view.fragments ≠ []) :
    ∃ r rest, ShownSince k moments w.view.fragments r rest ∧ ∃ m w₀,
      lastSizing? k r rest = some m ∧ m.before.widgets[k]? = some w₀ ∧
        w.view.maxHeight = some w₀.room := by
  induction h generalizing w with
  | refl => exact absurd (congrArg View.fragments (hnew.widget hw).view) hshown
  | sources h sources ih =>
    obtain ⟨w₁, hw₁, rfl⟩ := exists_of_getElem?_withSources hw
    exact ih (w := w₁) hw₁ hshown
  | @step moments t h st ih =>
    obtain ⟨w₁, hw₁, hfragments, hheight⟩ := sizing_step ⟨t, st⟩ hw
    cases hs : Moment.shown? k ⟨t, st⟩ with
    | some fragments =>
      -- The fragments are shown at this moment.
      rw [hs, Option.getD_some] at hfragments
      subst hfragments
      have hsome : showsSome (some w.view.fragments) = true := by simpa [showsSome] using hshown
      rw [hs, if_pos (.inl hsome)] at hheight
      exact ⟨⟨t, st⟩, [], ⟨⟨moments, rfl⟩, hs, nofun⟩, ⟨t, st⟩, w₁, rfl, hw₁, hheight⟩
    | none =>
      rw [hs, Option.getD_none] at hfragments
      cases htaken : Moment.takesQuery k ⟨t, st⟩ with
      | true =>
        rw [htaken, if_pos rfl] at hfragments
        exact absurd hfragments hshown
      | false =>
        -- They stay, so the height is that of before, unless it is adjusted.
        rw [htaken, if_neg Bool.false_ne_true] at hfragments
        rw [hfragments] at hshown ⊢
        obtain ⟨r, rest, hsince, m, w₀, hlast, hw₀, hbefore⟩ := ih hw₁ hshown
        refine ⟨r, rest ++ [⟨t, st⟩], hsince.snoc htaken hs, ?_⟩
        rw [lastSizing?_snoc]
        by_cases hadjusts : st.adjusts k = true
        · rw [if_pos (.inr ⟨hadjusts, hshown⟩)] at hheight
          exact ⟨⟨t, st⟩, w₁, if_pos hadjusts, hw₁, hheight⟩
        · rw [hs, if_neg fun h => h.elim Bool.false_ne_true fun h => hadjusts h.1] at hheight
          exact ⟨m, w₀, (if_neg hadjusts).trans hlast, hw₀, hheight.trans hbefore⟩

/-! ## Adjusting -/

theorem step_adjust (hw : s.widgets[k]? = some w) : s.step (.adjust k) =
    { w.adjust with
      result := .applied w.adjust.result
      after := s.setWidget k w.adjust.after } := by
  simp only [step, onWidget, hw]

/-! ## Main result -/

/-- **The height of a list that shows something.** At every time of a run, whatever the sources are,
such a list has a height: what the search box left of its container when the fragments were shown,
or when the height was adjusted last since then. An adjustment gives that height and applies it, if
something is shown; otherwise it gives none and changes nothing at all. An answer with fragments
applies the height of its own time, and no other step changes it. -/
theorem maxHeight_eq_of_shown (hnew : new.Fresh) (h : new.Leads moments s)
    (hw : s.widgets[k]? = some w) :
    (w.view.fragments ≠ [] → ∃ r rest, ShownSince k moments w.view.fragments r rest ∧
      ∃ m w₀, lastSizing? k r rest = some m ∧ m.before.widgets[k]? = some w₀ ∧
        w.view.maxHeight = some (maxResultsHeight w₀.layout.container w₀.layout.searchBox)) ∧
    (w.view.fragments ≠ [] →
      (s.step (.adjust k)).result =
        .applied (some (maxResultsHeight w.layout.container w.layout.searchBox)) ∧
      (s.step (.adjust k)).after = s.setWidget k { w with
        view := { w.view with
          maxHeight := some (maxResultsHeight w.layout.container w.layout.searchBox) } }) ∧
    (w.view.fragments = [] → s.step (.adjust k) = { result := .applied none, after := s }) ∧
    ∀ st w', (s.step st).after.widgets[k]? = some w' →
      (∀ fragments, Moment.shown? k ⟨s, st⟩ = some fragments → fragments ≠ [] →
        w'.view.maxHeight =
          some (maxResultsHeight w.layout.container w.layout.searchBox)) ∧
      (st ≠ .adjust k → (Moment.shown? k ⟨s, st⟩).getD [] = [] →
        w'.view.maxHeight = w.view.maxHeight) := by
  refine ⟨h.exists_maxHeight hnew hw, fun hshown => ?_, fun hempty => ?_, fun st w' hw' => ?_⟩
  · rw [step_adjust hw, Widget.adjust_of_shown hshown]
    exact ⟨rfl, rfl⟩
  · rw [step_adjust hw, Widget.adjust_of_empty hempty, setWidget_self hw]
  · obtain ⟨w₁, hw₁, -, hheight⟩ := sizing_step ⟨s, st⟩ hw'
    obtain rfl : w = w₁ := Option.some.inj (hw.symm.trans hw₁)
    refine ⟨fun fragments hs hne => ?_, fun hother hnone => ?_⟩
    · rw [hheight, if_pos (.inl (by simpa [hs, showsSome] using hne))]
      rfl
    · rw [hheight, if_neg]
      rintro (hsome | ⟨hadjusts, -⟩)
      · rw [showsSome_eq_false hnone] at hsome
        cases hsome
      · exact hother (Step.eq_adjust_of_adjusts hadjusts)

/-- The container changes while a query waits, after it was answered, and after the adjustment. -/
theorem maxHeight_eq_of_shown_gated :
    let steps : List (Step Nat) := [.start 0 (.query "gate"), .resize 0 700,
      .release 0 [{ title := "Gates" }], .poll 0, .resize 0 900, .adjust 0, .resize 0 300]
    ∃ w, (gated.run steps).widgets[0]? = some w ∧ w.view.fragments ≠ [] ∧
      w.view.maxHeight = some 800 ∧ ∃ r rest,
        ShownSince 0 (gated.history steps) w.view.fragments r rest ∧
        ∃ m w₀, lastSizing? 0 r rest = some m ∧ m.before.widgets[0]? = some w₀ ∧
          w.view.maxHeight = some (maxResultsHeight w₀.layout.container w₀.layout.searchBox) := by
  intro steps
  obtain ⟨w, hw, hcount, hheight⟩ : ∃ w, (gated.run steps).widgets[0]? = some w ∧
      w.view.fragments.length = 1 ∧ w.view.maxHeight = some 800 := ⟨_, rfl, rfl, rfl⟩
  have hshown : w.view.fragments ≠ [] := List.ne_nil_of_length_eq_add_one hcount
  exact ⟨w, hw, hshown, hheight,
    (maxHeight_eq_of_shown fresh_gated (leads_history gated steps) hw).1 hshown⟩

end Session

end SearchPanel
