import SearchPanel.Proofs.Session.Event

/-!
# Queries that wait, and the flags of their widgets

* `Session.Waits s k n`: pass `n` is a query of widget `k`, and waits. `Step.BeginsQuery` and
  `Step.Ends` tell by its reply whether a step let a query wait or ended a pass; a query waits from
  the one to the other (`Event.waits_iff`).
* `Widget.inFlight`: whether a widget itself says that a query of it waits. What ends at once leaves
  this flag as it was (`inFlight_start_of_some`), whichever way it ends. It is set with a query that
  begins to wait and cleared with its end (`Event.inFlight_iff`).
-/

namespace SearchPanel

variable {H : Type}

/-- A query of the widget waits, by its own account. -/
def Widget.inFlight (w : Widget H) : Bool := w.controller.inFlight

theorem Widget.inFlight_abandon_query (w : Widget H) (text : String) :
    (w.abandon (.query text)).inFlight = false := rfl

theorem Widget.inFlight_abandon_load (w : Widget H) : (w.abandon .load).inFlight = w.inFlight :=
  rfl

/-! ## Waiting queries -/

/-- The step ends pass `n`, by its reply. -/
def Step.Ends (st : Step H) (r : Reply H) (n : Nat) : Prop :=
  (st = .poll n ∧ ∃ o, r = .outcome o) ∨ (st = .abandon n ∧ r = .abandoned true)

/-- The step lets a query of widget `k` wait as pass `n`, by its reply. -/
def Step.BeginsQuery (st : Step H) (r : Reply H) (k n : Nat) : Prop :=
  (∃ text, st = .start k (.query text)) ∧ r = .pending n

namespace Session

variable {s : Session H} {st : Step H} {r : Reply H} {work : Work} {k l n : Nat}

/-- Pass `n` is a query of widget `k`, and waits. -/
def Waits (s : Session H) (k n : Nat) : Prop := ∃ text, s.pass? n = some ⟨k, .query text⟩

theorem waits_iff_of_pass? (hp : s.pass? n = some ⟨l, work⟩) :
    s.Waits k n ↔ l = k ∧ work ≠ .load := by
  cases work <;> simp [Waits, hp]

theorem target?_of_ends (he : st.Ends r n) (hw : s.Waits k n) : s.target? st = some k := by
  obtain ⟨text, hp⟩ := hw
  rcases he with ⟨rfl, -⟩ | ⟨rfl, -⟩
  · rw [target?, hp]; rfl
  · rw [target?, hp]; rfl

theorem target?_of_beginsQuery (hb : st.BeginsQuery r k n) : s.target? st = some k := by
  obtain ⟨⟨text, rfl⟩, -⟩ := hb
  rfl

end Session

variable [Sub H]

/-! ## The flag of a widget -/

namespace Widget

variable {w w' : Widget H} {text : String} {work : Work} {o : Outcome} {st : Step H} {r : Reply H}
  {k l n : Nat}

/-- A query waits exactly when the widget takes it, it is long enough, and its request has no answer
yet. It ends as dropped exactly when another one waits. -/
theorem startQuery_cases (w : Widget H) (text : String) :
    (w.inFlight = true ∧ (w.startQuery text).result = some .dropped ∧
      (w.startQuery text).after = w) ∨
    (w.inFlight = false ∧ (∃ o, (w.startQuery text).result = some o ∧ o ≠ .dropped) ∧
      (w.startQuery text).after.inFlight = false) ∨
    (w.inFlight = false ∧ (w.startQuery text).result = none ∧
      (w.startQuery text).after.inFlight = true) := by
  unfold startQuery Controller.accept
  cases hf : w.controller.inFlight with
  | true => exact .inl ⟨hf, rfl, rfl⟩
  | false =>
    refine .inr ?_
    by_cases hs : text.length < w.controller.config.minChars
    · refine .inl ⟨hf, ⟨.tooShort, ?_, by simp⟩, ?_⟩ <;> simp [hs, inFlight, display, hf]
    · cases hc : w.controller.loader.cache with
      | some docs =>
        refine .inl ⟨hf, ?_⟩
        simp [hs, inFlight, display, complete, hf]
      | none =>
        simp only [hs, Bool.false_eq_true, if_false, proceed]
        cases ha : w.source.fetch.1 with
        | none => exact .inr ⟨hf, by simp [display, ha], by simp [display, ha, inFlight]⟩
        | some answer =>
          refine .inl ⟨hf, ?_⟩
          simp [display, ha, inFlight, deliver, complete, Controller.deliver]

/-- A load never touches the flag, also when it waits. -/
theorem inFlight_proceed_load (w : Widget H)
    (look : Option (Except LoadError (List Document)) × Source) :
    (w.proceed .load look).after.inFlight = w.inFlight := by
  unfold proceed
  cases look.1 with
  | none => rfl
  | some answer => rfl

theorem inFlight_startLoad (w : Widget H) : w.startLoad.after.inFlight = w.inFlight := by
  unfold startLoad
  cases w.controller.loader.cache with
  | some docs => rfl
  | none => exact inFlight_proceed_load _ _

/-- What ends at once leaves the widget as free or as busy as it was. -/
theorem inFlight_start_of_some (hr : (w.start work).result = some o) :
    (w.start work).after.inFlight = w.inFlight := by
  cases work with
  | load => exact inFlight_startLoad w
  | query text =>
    rcases startQuery_cases w text with ⟨-, -, hw⟩ | ⟨hf, -, hf'⟩ | ⟨-, hnone, -⟩
    · exact congrArg inFlight hw
    · exact hf'.trans hf.symm
    · rw [start, hnone] at hr
      cases hr

/-- Only a free widget lets a query wait, and then it is free no longer. -/
theorem inFlight_start_query_of_none (hr : (w.start (.query text)).result = none) :
    w.inFlight = false ∧ (w.start (.query text)).after.inFlight = true := by
  rcases startQuery_cases w text with ⟨-, hsome, -⟩ | ⟨-, ⟨o, hsome, -⟩, -⟩ | ⟨hf, -, hf'⟩
  · rw [start, hsome] at hr
    cases hr
  · rw [start, hsome] at hr
    cases hr
  · exact ⟨hf, hf'⟩

/-- A query that has waited sets the widget free, whatever the answer to its request was. -/
theorem inFlight_poll_query_of_some (hr : (w.poll (.query text)).result = some o) :
    (w.poll (.query text)).after.inFlight = false := by
  unfold poll proceed at hr ⊢
  cases ha : w.source.poll.1 with
  | none => simp [ha] at hr
  | some answer => rfl

theorem inFlight_poll_load (w : Widget H) : (w.poll .load).after.inFlight = w.inFlight :=
  inFlight_proceed_load w _

theorem inFlight_poll_of_none (hr : (w.poll work).result = none) :
    (w.poll work).after.inFlight = w.inFlight := by
  unfold poll proceed at hr ⊢
  cases ha : w.source.poll.1 with
  | none => rfl
  | some answer => simp [ha] at hr

theorem inFlight_tended (h : Widget.Tended k w st r w') : w'.inFlight = w.inFlight := by
  cases h <;> rfl

namespace Tended

theorem not_ends (h : w.Tended k st r w') : ¬ st.Ends r n := by
  cases h <;> simp [Step.Ends]

theorem not_beginsQuery (h : w.Tended k st r w') : ¬ st.BeginsQuery r l n := by
  cases h <;> simp [Step.BeginsQuery]

end Tended

end Widget

/-! ## What a step does to both -/

namespace Session

variable {s s' : Session H} {w w' : Widget H} {st : Step H} {r : Reply H}
  {passes : List (Option Pass)} {k l n : Nat}

/-- A query of a widget waits from the reply that gave it its number to the reply that ended it. -/
theorem Change.waits_iff (h : s.Change l w st r w' passes)
    (widgets : List (Widget H)) : (Session.mk widgets passes).Waits k n ↔
      (s.Waits k n ∧ ¬ st.Ends r n) ∨ st.BeginsQuery r k n := by
  cases h with
  | @started work o hr =>
    cases work <;> simp [Step.Ends, Step.BeginsQuery, Waits, pass?_same]
  | @waits work hr =>
    by_cases hn : s.passes.length = n
    · subst hn
      cases work <;> simp [Step.Ends, Step.BeginsQuery, Waits, pass?_append, pass?_length]
    · cases work <;> simp [Step.Ends, Step.BeginsQuery, Waits, pass?_append, hn]
  | @ended m work o hp hr =>
    by_cases hn : m = n <;> simp [Step.Ends, Step.BeginsQuery, Waits, pass?_set, hn]
  | waitsOn hp hr => simp [Step.Ends, Step.BeginsQuery, Waits, pass?_same]
  | @abandoned m work hp =>
    by_cases hn : m = n <;> simp [Step.Ends, Step.BeginsQuery, Waits, pass?_set, hn]
  | tended ht => simp [ht.not_ends, ht.not_beginsQuery, Waits, pass?_same]

/-- The flag of a widget is cleared with the end of a query of it, set when one begins to wait, and
left alone by everything else. -/
theorem Change.inFlight_iff (h : s.Change k w st r w' passes) : w'.inFlight = true ↔
    (w.inFlight = true ∧ ¬ ∃ n, s.Waits k n ∧ st.Ends r n) ∨ ∃ n, st.BeginsQuery r k n := by
  cases h with
  | @started work o hr =>
    rw [Widget.inFlight_start_of_some hr]
    cases work <;> simp [Step.Ends, Step.BeginsQuery]
  | @waits work hr =>
    cases work with
    | query text =>
      obtain ⟨-, hset⟩ := Widget.inFlight_start_query_of_none hr
      simp [hset, Step.BeginsQuery]
    | load =>
      have hkeep : (w.start .load).after.inFlight = w.inFlight := Widget.inFlight_startLoad w
      simp [hkeep, Step.Ends, Step.BeginsQuery]
  | @ended m work o hp hr =>
    cases work with
    | query text =>
      have hclear := Widget.inFlight_poll_query_of_some hr
      simp [hclear, Step.Ends, Step.BeginsQuery, waits_iff_of_pass? hp]
    | load =>
      have hkeep := Widget.inFlight_poll_load w
      simp [hkeep, Step.Ends, Step.BeginsQuery, waits_iff_of_pass? hp]
  | waitsOn hp hr =>
    rw [Widget.inFlight_poll_of_none hr]
    simp [Step.Ends, Step.BeginsQuery]
  | @abandoned m work hp =>
    cases work with
    | query text =>
      have hclear := Widget.inFlight_abandon_query w text
      simp [hclear, Step.Ends, Step.BeginsQuery, waits_iff_of_pass? hp]
    | load =>
      have hkeep := Widget.inFlight_abandon_load w
      simp [hkeep, Step.Ends, Step.BeginsQuery, waits_iff_of_pass? hp]
  | tended ht =>
    rw [Widget.inFlight_tended ht]
    simp [ht.not_ends, ht.not_beginsQuery]

/-- The same of every event. -/
theorem Event.waits_iff (h : s.Event st r s') :
    s'.Waits k n ↔ (s.Waits k n ∧ ¬ st.Ends r n) ∨ st.BeginsQuery r k n := by
  cases h with
  | noWidget ht hw => simp [Step.Ends, Step.BeginsQuery]
  | pollNone hp => simp [Step.Ends, Step.BeginsQuery]
  | abandonNone hp => simp [Step.Ends, Step.BeginsQuery]
  | changed hw hc => exact hc.waits_iff _

/-- The flag of one widget among all: a step for another widget leaves it as it is. -/
theorem Event.inFlight_iff (h : s.Event st r s') (hw' : s'.widgets[k]? = some w') :
    ∃ w, s.widgets[k]? = some w ∧ (w'.inFlight = true ↔
      (w.inFlight = true ∧ ¬ ∃ n, s.Waits k n ∧ st.Ends r n) ∨ ∃ n, st.BeginsQuery r k n) := by
  cases h with
  | noWidget ht hw => exact ⟨w', hw', by simp [Step.Ends, Step.BeginsQuery]⟩
  | pollNone hp => exact ⟨w', hw', by simp [Step.Ends, Step.BeginsQuery]⟩
  | abandonNone hp => exact ⟨w', hw', by simp [Step.Ends, Step.BeginsQuery]⟩
  | @changed l w w₁ st r passes hw hc =>
    rcases getElem?_set_cases hw hw' with ⟨rfl, rfl⟩ | ⟨hl, hw'⟩
    · exact ⟨w, hw, hc.inFlight_iff⟩
    · -- The step neither ends nor begins a query of a widget that it is not for.
      have hends : ¬ ∃ n, s.Waits k n ∧ st.Ends r n := by
        rintro ⟨n, hn, he⟩
        have := hc.target.symm.trans (target?_of_ends he hn)
        exact hl (Option.some.inj this)
      have hbegins : ¬ ∃ n, st.BeginsQuery r k n := by
        rintro ⟨n, hb⟩
        have := hc.target.symm.trans (target?_of_beginsQuery hb)
        exact hl (Option.some.inj this)
      exact ⟨w', hw', by simp [hends, hbegins]⟩

/-- Only a free widget lets a query wait. -/
theorem Event.free_of_beginsQuery (h : s.Event st r s') (hb : st.BeginsQuery r k n) :
    ∃ w, s.widgets[k]? = some w ∧ w.inFlight = false := by
  obtain ⟨⟨text, rfl⟩, rfl⟩ := hb
  cases h with
  | changed hw hc =>
    cases hc with
    | waits hr => exact ⟨_, hw, (Widget.inFlight_start_query_of_none hr).1⟩
    | tended ht => cases ht

end Session

end SearchPanel
