import Mathlib.Logic.ExistsUnique
import SearchPanel.Proofs.Session.Waiting

/-!
# One query at a time

* `Guarded s`: each widget's flag tells whether a query of it waits, and at most one does. Every
  reachable session has it (`Reachable.guarded`).
* `Accepts s k`: the next query of widget `k` is not dropped.
* `inFlight_iff_existsUnique_waits`: a query is dropped exactly while another one of its widget
  waits, and as soon as that one has ended in any way the next one is not.
-/

namespace SearchPanel.Session

variable {H : Type} {s s' : Session H} {w : Widget H} {st : Step H} {r : Reply H} {k m n : Nat}

/-! ## The invariant -/

/-- Each widget's flag tells whether a query of it waits, and at most one does. -/
structure Guarded (s : Session H) : Prop where
  flag : ∀ {k w}, s.widgets[k]? = some w → (w.inFlight = true ↔ ∃ n, s.Waits k n)
  alone : ∀ {k m n}, s.Waits k m → s.Waits k n → m = n

theorem Fresh.guarded (h : s.Fresh) : s.Guarded := by
  have hnone : ∀ k n, ¬ s.Waits k n := by
    rintro k n ⟨text, hp⟩
    rw [pass?, h.passes] at hp
    cases hp
  refine ⟨fun {k w} hw => ?_, fun hm _ => absurd hm (hnone _ _)⟩
  have hfree : w.inFlight = false := (h.widget hw).inFlight
  simp [hfree, hnone]

variable [Sub H]

/-- A step keeps flags and waiting queries together. -/
theorem Guarded.event (he : s.Event st r s') (h : s.Guarded) : s'.Guarded := by
  refine ⟨fun {k w'} hw' => ?_, fun {k m n} hm hn => ?_⟩
  · obtain ⟨w, hw, hflag⟩ := he.inFlight_iff hw'
    rw [hflag, h.flag hw]
    constructor
    · rintro (⟨⟨n, hn⟩, hends⟩ | ⟨n, hb⟩)
      · exact ⟨n, he.waits_iff.2 (.inl ⟨hn, fun hend => hends ⟨n, hn, hend⟩⟩)⟩
      · exact ⟨n, he.waits_iff.2 (.inr hb)⟩
    · rintro ⟨n, hn'⟩
      rcases he.waits_iff.1 hn' with ⟨hn, hend⟩ | hb
      · -- The pass that the step ended would be this one, since there is no other.
        refine .inl ⟨⟨n, hn⟩, ?_⟩
        rintro ⟨m, hm, hend'⟩
        exact hend (h.alone hm hn ▸ hend')
      · exact .inr ⟨n, hb⟩
  · have hfree : ∀ {i j}, s.Waits k i → ¬ st.BeginsQuery r k j := by
      intro i j hi hb
      obtain ⟨w, hw, hclear⟩ := he.free_of_beginsQuery hb
      have hset := (h.flag hw).2 ⟨i, hi⟩
      rw [hclear] at hset
      cases hset
    rcases he.waits_iff.1 hm with ⟨hm, -⟩ | hbm <;> rcases he.waits_iff.1 hn with ⟨hn, -⟩ | hbn
    · exact h.alone hm hn
    · exact absurd hbn (hfree hm)
    · exact absurd hbm (hfree hn)
    · exact Reply.pending.inj (hbm.2.symm.trans hbn.2)

theorem Reachable.guarded (h : s.Reachable) : s.Guarded :=
  h.invariant (fun _ => Fresh.guarded) fun he => Guarded.event he

/-! ## What a busy and a free widget do -/

/-- The next query of widget `k` is not dropped, whatever else is done before it comes. -/
def Accepts (s : Session H) (k : Nat) : Prop :=
  ∀ steps : List (Step H), (∀ st ∈ steps, ∀ text, st ≠ .start k (.query text)) →
    ∀ text, ((s.run steps).step (.start k (.query text))).result ≠ .outcome .dropped

/-- A query is dropped exactly by a widget whose flag is set. -/
theorem dropped_iff_inFlight (hw : s.widgets[k]? = some w) (text : String) :
    (s.step (.start k (.query text))).result = .outcome .dropped ↔ w.inFlight = true := by
  simp only [step, start, hw]
  rcases Widget.startQuery_cases w text with ⟨hf, hr, -⟩ | ⟨hf, ⟨o, hr, ho⟩, -⟩ | ⟨hf, hr, -⟩
  · simp [Widget.start, hr, hf]
  · simp [Widget.start, hr, hf, ho]
  · simp [Widget.start, hr, hf]

/-- A widget without a waiting query accepts the next one. -/
theorem Guarded.accepts (h : s.Guarded) (hfree : ∀ n, ¬ s.Waits k n) : s.Accepts k := by
  intro steps hsteps text hdrop
  have hkeep : (s.run steps).Guarded ∧ ∀ n, ¬ (s.run steps).Waits k n := by
    refine run_invariant (I := fun s => s.Guarded ∧ ∀ n, ¬ s.Waits k n) ?_ ⟨h, hfree⟩
    rintro s s' st r hmem he ⟨h, hfree⟩
    refine ⟨h.event he, fun n hn => ?_⟩
    rcases he.waits_iff.1 hn with ⟨hn, -⟩ | ⟨⟨text, hst⟩, -⟩
    · exact hfree n hn
    · exact hsteps st hmem text hst
  obtain ⟨hguard, hnone⟩ := hkeep
  cases hw : (s.run steps).widgets[k]? with
  | none => simp [step, start, hw] at hdrop
  | some w =>
    obtain ⟨n, hn⟩ := (hguard.flag hw).1 ((dropped_iff_inFlight hw text).1 hdrop)
    exact hnone n hn

/-- When the query that waits has ended, none of its widget waits. -/
theorem Guarded.free_of_ends (h : s.Guarded) (he : s.Event st r s') (hn : s.Waits k n)
    (hend : st.Ends r n) (m : Nat) : ¬ s'.Waits k m := by
  intro hm
  rcases he.waits_iff.1 hm with ⟨hm, hnot⟩ | ⟨⟨text, rfl⟩, -⟩
  · exact hnot (h.alone hn hm ▸ hend)
  · rcases hend with ⟨hst, -⟩ | ⟨hst, -⟩ <;> cases hst

/-- With the end of its waiting query a widget accepts the next one. -/
theorem Guarded.accepts_of_ends (h : s.Guarded) (hn : s.Waits k n)
    (hend : st.Ends (s.step st).result n) : (s.step st).after.Accepts k := by
  have he := event_step s st
  exact (h.event he).accepts (h.free_of_ends he hn hend)

/-- A query that ends at once leaves a widget that accepts the next one, unless it was dropped. -/
theorem Guarded.accepts_of_outcome {text : String} {o : Outcome} (h : s.Guarded)
    (hr : (s.step (.start k (.query text))).result = .outcome o) (ho : o ≠ .dropped) :
    (s.step (.start k (.query text))).after.Accepts k := by
  have he := event_step s (.start k (.query text))
  rw [hr] at he
  refine (h.event he).accepts fun m hm => ?_
  rcases he.waits_iff.1 hm with ⟨hm, -⟩ | ⟨-, hpend⟩
  · cases hw : s.widgets[k]? with
    | none => simp [step, start, hw] at hr
    | some w =>
      have hdrop := (dropped_iff_inFlight hw text).2 ((h.flag hw).2 ⟨m, hm⟩)
      exact ho (Reply.outcome.inj (hr.symm.trans hdrop))
  · cases hpend

/-- A query that waits completes when it is polled after its request was answered, whatever the
answer is. -/
theorem completed_of_waits {answer : Except LoadError (List Document)} (hn : s.Waits k n)
    (hw : s.widgets[k]? = some w) (ha : w.source.poll.1 = some answer) :
    ∃ rendered shown, (s.step (.poll n)).result = .outcome (.completed rendered shown) := by
  obtain ⟨text, hp⟩ := hn
  simp [step, poll, hp, hw, Widget.poll, Widget.proceed, ha, Widget.deliver, Widget.complete]

theorem abandoned_of_waits (hn : s.Waits k n) (hw : s.widgets[k]? = some w) :
    (s.step (.abandon n)).result = .abandoned true := by
  obtain ⟨text, hp⟩ := hn
  simp [step, abandon, hp, hw]

/-! ## Main result -/

/-- **One query at a time.** The flag of a widget tells whether a query of it waits, and no two do.
A query waits from the reply that gave it its number to the reply that ended it, and exactly so long
others are dropped. It can always be given up, and completes when its request was answered with
documents, with none, or with an error. From then on, as after a query that ended at once, the next
one is not dropped. -/
theorem inFlight_iff_existsUnique_waits (h : s.Reachable) (hw : s.widgets[k]? = some w) :
    (w.inFlight = true ↔ ∃! n, s.Waits k n) ∧
    (∀ m n, s.Waits k m → s.Waits k n → m = n) ∧
    (∀ st n, (s.step st).after.Waits k n ↔
      (s.Waits k n ∧ ¬ st.Ends (s.step st).result n) ∨
        st.BeginsQuery (s.step st).result k n) ∧
    (∀ text, (s.step (.start k (.query text))).result = .outcome .dropped ↔
      ∃ n, s.Waits k n) ∧
    (∀ n, s.Waits k n →
      (s.step (.abandon n)).result = .abandoned true ∧
      (∀ answer, w.source.poll.1 = some answer →
        ∃ rendered shown, (s.step (.poll n)).result = .outcome (.completed rendered shown)) ∧
      ∀ st, st.Ends (s.step st).result n → (s.step st).after.Accepts k) ∧
    (∀ text o, (s.step (.start k (.query text))).result = .outcome o → o ≠ .dropped →
      (s.step (.start k (.query text))).after.Accepts k) := by
  have hguard := h.guarded
  refine ⟨?_, fun m n => hguard.alone, fun st n => (event_step s st).waits_iff, fun text => ?_,
    fun n hn => ⟨abandoned_of_waits hn hw, fun answer => completed_of_waits hn hw,
      fun st => hguard.accepts_of_ends hn⟩,
    fun text o => hguard.accepts_of_outcome⟩
  · rw [hguard.flag hw]
    constructor
    · rintro ⟨n, hn⟩
      exact ⟨n, hn, fun m hm => hguard.alone hm hn⟩
    · exact ExistsUnique.exists
  · rw [dropped_iff_inFlight hw, hguard.flag hw]

/-- A query waits at a gate, then another one is dropped; the first one is given up, and the next
one is taken. -/
theorem inFlight_iff_existsUnique_waits_gated :
    let new : Session Nat :=
      { widgets := [{ source := .gated {} 0, controller := {}, layout := ⟨500, 100⟩ }] }
    let s := (new.step (.start 0 (.query "abc"))).after
    s.Reachable ∧ (∃! n, s.Waits 0 n) ∧
      (s.step (.start 0 (.query "xyz"))).result = .outcome .dropped ∧
      (s.step (.abandon 0)).after.Accepts 0 := by
  intro new s
  have hfresh : new.Fresh := by
    refine ⟨fun w hw => ?_, rfl⟩
    obtain rfl := List.mem_singleton.1 hw
    exact ⟨⟨rfl, rfl⟩, .inl rfl, rfl, rfl⟩
  have hreach : s.Reachable := .step _ (.fresh hfresh)
  have hwait : s.Waits 0 0 := ⟨"abc", rfl⟩
  obtain ⟨w, hw⟩ : ∃ w, s.widgets[0]? = some w := ⟨_, rfl⟩
  obtain ⟨hflag, -, -, hdrop, hend, -⟩ := inFlight_iff_existsUnique_waits hreach hw
  obtain ⟨hgone, -, hacc⟩ := hend 0 hwait
  refine ⟨hreach, hflag.1 ?_, (hdrop _).2 ⟨0, hwait⟩, hacc _ (.inr ⟨rfl, hgone⟩)⟩
  exact (hreach.guarded.flag hw).2 ⟨0, hwait⟩

end SearchPanel.Session
