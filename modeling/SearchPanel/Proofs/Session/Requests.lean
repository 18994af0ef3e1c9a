import SearchPanel.Proofs.Session.Source
import SearchPanel.Proofs.Session.Started

/-!
# Requests in a run

* `Moment.beginsLoad k m`, `Moment.asks k m`: a load of widget `k` begins, and it finds no
  documents.
* `Widget.Asked w asks w'`: `w` has become `w'`, and has asked its source or has not. The widget and
  a source that counts both count it.
* `Leads.fetches_eq`: a widget has asked its source as often as loads of it began without
  documents. So often has a source that counts been asked (`counted_run`).
-/

namespace SearchPanel

variable {H : Type}

theorem Source.Fresh.calls_eq_zero {source : Source} {calls : Nat} (h : source.Fresh)
    (hc : source.calls? = some calls) : calls = 0 := by
  cases source with
  | scripted script calls =>
    cases hc
    exact h
  | gated gate calls =>
    cases hc
    exact h.2
  | fixed docs => cases hc
  | file content => cases hc

/-! ## Loads that begin -/

namespace Widget

instance (w : Widget H) (text : String) : Decidable (w.IsLong text) :=
  inferInstanceAs (Decidable (w.controller.config.minChars ≤ text.length))

/-- The work needs the documents: it loads the index alone, or it is a query that was not dropped
and has enough characters. -/
def loads (w : Widget H) (dropped : Bool) : Work → Bool
  | .query text => !dropped && decide (w.IsLong text)
  | .load => true

theorem loads_of_admits {w : Widget H} {work : Work} (h : w.Admits work) :
    w.loads false work = true := by
  cases work with
  | query text => exact decide_eq_true h.2
  | load => rfl

/-- `Asked w asks w'`: the widget `w` has become `w'`, and has asked its source or has not. -/
structure Asked (w : Widget H) (asks : Bool) (w' : Widget H) : Prop where
  fetches : w'.fetches = w.fetches + if asks then 1 else 0
  calls : w'.source.calls? = w.source.calls?.map (· + if asks then 1 else 0)

theorem Asked.idle {w w' : Widget H} (hf : w'.fetches = w.fetches)
    (hc : w'.source.calls? = w.source.calls?) : w.Asked false w' :=
  ⟨hf, by simp [hc]⟩

theorem asked_abandon (w : Widget H) (work : Work) : w.Asked false (w.abandon work) := by
  cases work <;> exact .idle rfl w.source.calls?_abandon

/-- A source that counts was asked as often as the widget says. -/
def Counted (w : Widget H) : Prop := ∀ calls, w.source.calls? = some calls → calls = w.fetches

theorem Asked.counted {w w' : Widget H} {asks : Bool} (h : w.Asked asks w') (hw : w.Counted) :
    w'.Counted := by
  intro calls hc
  rw [h.calls, Option.map_eq_some_iff] at hc
  obtain ⟨calls, hcalls, rfl⟩ := hc
  rw [h.fetches, hw calls hcalls]

theorem Fresh.fetches_eq_zero {w : Widget H} (h : w.Fresh) : w.fetches = 0 := by
  rcases h.loader with hl | ⟨docs, hl⟩
  · rw [fetches, hl]
  · rw [fetches, hl, Loader.seeded]

theorem Fresh.counted {w : Widget H} (h : w.Fresh) : w.Counted := by
  intro calls hc
  rw [h.fetches_eq_zero]
  exact h.source.calls_eq_zero hc

end Widget

/-- A load of the widget `w`, which has number `k`, begins with the step. -/
def Step.loads (w : Widget H) (k : Nat) (r : Reply H) (st : Step H) : Bool :=
  (st.work? k).any (w.loads r.isDropped)

variable [Sub H]

namespace Moment

/-- A load of widget `k` begins: of the index alone, or for a query that is not dropped and has
enough characters. -/
def beginsLoad (k : Nat) (m : Moment H) : Bool :=
  m.before.widgets[k]?.any fun w => m.step.loads w k m.reply

/-- A load of widget `k` begins, and no documents have arrived yet. -/
def asks (k : Nat) (m : Moment H) : Bool :=
  m.before.widgets[k]?.any fun w => m.step.loads w k m.reply && w.cache.isNone

end Moment

/-! ## What a step asks -/

namespace Widget

variable {w w' : Widget H} {work : Work} {r : Reaction (Option Outcome) (Widget H) H}

theorem Started.asked (h : w.Started work r) :
    w.Asked (w.loads (r.result.any Outcome.isDropped) work && w.cache.isNone) r.after := by
  cases h with
  | dropped hf => exact .idle rfl rfl
  | @tooShort text hf hs =>
    have hno : w.loads false (.query text) = false := decide_eq_false hs
    rw [Option.any_some, Outcome.isDropped, hno]
    exact .idle rfl rfl
  | cached ha hc =>
    rw [hc, Option.isNone_some, Bool.and_false]
    exact .idle rfl rfl
  | waits ha hc hl =>
    rw [Option.any_none, loads_of_admits ha, hc]
    exact ⟨w.fetches_ask work, w.source.calls?_fetch⟩
  | answered ha hc hl =>
    rw [Option.any_some, isDropped_ending, loads_of_admits ha, hc]
    refine ⟨?_, ?_⟩
    · rw [fetches_answered]
      exact w.fetches_ask work
    · rw [source_answered]
      exact w.source.calls?_fetch

theorem Polled.asked (h : w.Polled work r) : w.Asked false r.after := by
  cases h with
  | waits hl => exact .idle rfl w.source.calls?_poll
  | answered hl =>
    refine .idle ?_ ?_
    · exact fetches_answered ..
    · rw [source_answered]
      exact w.source.calls?_poll

theorem Tended.asked {k : Nat} {st : Step H} {r : Reply H} (h : w.Tended k st r w') :
    w.Asked false w' := by
  cases h with
  | release docs => exact .idle rfl (w.source.calls?_release docs)
  | giveUp => exact .idle rfl w.source.calls?_giveUp
  | adjust => exact .idle rfl rfl
  | resize container => exact .idle rfl rfl
  | replaceFile content => exact .idle rfl (w.source.calls?_replaceFile content)

end Widget

namespace Session

variable {new s s' : Session H} {w w' : Widget H} {st : Step H} {r : Reply H}
  {passes : List (Option Pass)} {moments : List (Moment H)} {k : Nat}

theorem Change.asked (h : s.Change k w st r w' passes) :
    w.Asked (st.loads w k r && w.cache.isNone) w' := by
  cases h with
  | @started work o hr =>
    have hasked := (w.started work).asked
    rw [hr] at hasked
    simpa [Step.loads, Reply.isDropped, Reply.outcome?] using hasked
  | @waits work hr =>
    have hasked := (w.started work).asked
    rw [hr] at hasked
    simpa [Step.loads, Reply.isDropped, Reply.outcome?] using hasked
  | @ended n work o hp hr => exact (w.polled work).asked
  | @waitsOn n work hp hr => exact (w.polled work).asked
  | @abandoned n work hp => exact w.asked_abandon work
  | tended ht =>
    rw [Step.loads, ht.work?_eq_none]
    exact ht.asked

/-- Only a load that begins without documents asks the source, and it asks once. -/
theorem Event.asked (h : s.Event st r s') (hw' : s'.widgets[k]? = some w') :
    ∃ w, s.widgets[k]? = some w ∧ w.Asked (st.loads w k r && w.cache.isNone) w' := by
  rcases h.widget_cases hw' with ⟨w, hw, hc⟩ | ⟨ht, hw⟩
  · exact ⟨w, hw, hc.asked⟩
  · refine ⟨w', hw, ?_⟩
    rw [Step.loads, work?_eq_none_of_target?_ne ht]
    exact .idle rfl rfl

/-! ## Counts -/

theorem fetches_step (m : Moment H) (hw' : (m.before.step m.step).after.widgets[k]? = some w') :
    ∃ w, m.before.widgets[k]? = some w ∧
      w'.fetches = w.fetches + if m.asks k then 1 else 0 := by
  obtain ⟨w, hw, hasked⟩ := (event_step m.before m.step).asked hw'
  refine ⟨w, hw, ?_⟩
  rw [Moment.asks, hw, Option.any_some]
  exact hasked.fetches

/-- A widget has asked its source as often as loads of it began without documents. -/
theorem Leads.fetches_eq (h : new.Leads moments s) (hnew : new.Fresh)
    (hw : s.widgets[k]? = some w) : w.fetches = moments.countP (·.asks k) := by
  obtain ⟨w₀, hw₀, hfetches⟩ := h.eq_add_countP (f := Widget.fetches) (fun _ _ => rfl)
    (fun m _ => fetches_step m) hw
  rw [hfetches, (hnew.widget hw₀).fetches_eq_zero, Nat.zero_add]

/-- So often has a source that counts been asked. -/
theorem counted_run (hnew : new.Fresh) (steps : List (Step H))
    (hw : (new.run steps).widgets[k]? = some w) : w.Counted := by
  refine run_invariant (I := fun s => ∀ k w, s.widgets[k]? = some w → w.Counted) ?_ ?_ k w hw
  · intro s s' st r _ h hs k w' hw'
    obtain ⟨w, hw, hasked⟩ := h.asked hw'
    exact hasked.counted (hs k w hw)
  · exact fun k w hw => (hnew.widget hw).counted

end Session

end SearchPanel
