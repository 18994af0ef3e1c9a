import SearchPanel.Proofs.Session.Requests

/-!
# Documents are loaded once

* `Widget.Awaits w`: a request of the widget waits, and no documents have arrived. What starts in
  the meantime is refused its own request, so nothing changes that (`Started.awaits`).
* `Session.Solitary s`: at most one pass of each widget waits, and that widget awaits its documents.
  Every run keeps it (`Solitary.run`).
* `Session.Receives s k st answer`: with the step `st` a request of widget `k` is answered. Only
  with such a step do documents arrive (`Event.cache`), and only where none are (`cache_eq_none`).
* `cache_write_once`: documents that have arrived stay, and nothing is asked for any more.
-/

namespace SearchPanel

variable {H : Type}

/-! ## A widget that awaits its documents -/

namespace Widget

/-- A request of the widget waits, and no documents have arrived. -/
structure Awaits (w : Widget H) : Prop where
  source : w.source.Waiting
  cache : w.cache = none

theorem cache_abandon (w : Widget H) (work : Work) : (w.abandon work).cache = w.cache := by
  cases work <;> rfl

/-- A seeded loader keeps its documents only if there are some. -/
theorem Fresh.cache_ne_nil {w : Widget H} (h : w.Fresh) : w.cache ≠ some [] := by
  rw [cache]
  rcases h.loader with hl | ⟨docs, hl⟩
  · rw [hl]
    nofun
  · rw [hl, Loader.seeded]
    cases docs <;> simp

variable [Sub H] {w w' : Widget H} {work : Work} {answer : Except LoadError (List Document)}
  {r : Reaction (Option Outcome) (Widget H) H}

/-- Nothing that starts in the meantime waits, and none of it brings documents. -/
theorem Started.awaits (h : w.Started work r) (hw : w.Awaits) :
    r.result ≠ none ∧ r.after.Awaits := by
  obtain ⟨⟨e, he⟩, hkeep⟩ := Source.fetch_of_waiting hw.source
  cases h with
  | dropped hf => exact ⟨nofun, hw⟩
  | tooShort hf hs => exact ⟨nofun, hw.source, hw.cache⟩
  | cached ha hc => cases hc.symm.trans hw.cache
  | waits ha hc hl => cases hl.symm.trans he
  | answered ha hc hl =>
    obtain rfl := Option.some.inj (hl.symm.trans he)
    refine ⟨nofun, ?_, ?_⟩
    · rw [source_answered]
      exact hkeep
    · rw [cache_answered, Loader.given, if_pos rfl]
      exact (w.cache_ask work).trans hc

theorem Started.awaits_of_result_eq_none (h : w.Started work r) (hr : r.result = none) :
    r.after.Awaits := by
  cases h with
  | dropped hf => cases hr
  | tooShort hf hs => cases hr
  | cached ha hc => cases hr
  | waits ha hc hl => exact ⟨Source.waiting_fetch_of_none hl, (w.cache_ask work).trans hc⟩
  | answered ha hc hl => cases hr

theorem Polled.awaits (h : w.Polled work r) (hr : r.result = none) (hw : w.Awaits) :
    r.after.Awaits := by
  cases h with
  | waits hl => exact ⟨hw.source.poll hl, hw.cache⟩
  | answered hl => cases hr

theorem Tended.awaits {k : Nat} {st : Step H} {r : Reply H} (h : w.Tended k st r w')
    (hw : w.Awaits) : w'.Awaits := by
  cases h with
  | release docs => exact ⟨hw.source.release docs, hw.cache⟩
  | giveUp => exact ⟨hw.source.giveUp, hw.cache⟩
  | adjust => exact ⟨hw.source, hw.cache⟩
  | resize container => exact ⟨hw.source, hw.cache⟩
  | replaceFile content => exact ⟨hw.source.replaceFile content, hw.cache⟩

/-! ## Documents that arrive -/

theorem cache_answered_cases (w : Widget H) (answer : Except LoadError (List Document))
    (work : Work) : (w.answered answer work).cache = w.cache ∨
      Loader.given answer ≠ [] ∧ (w.answered answer work).cache = some (Loader.given answer) := by
  rw [cache_answered]
  split
  · exact .inl rfl
  · next h => exact .inr ⟨h, rfl⟩

theorem Started.cache (h : w.Started work r) : r.after.cache = w.cache ∨
    w.Admits work ∧ w.cache = none ∧ ∃ answer, w.source.fetch.1 = some answer ∧
      Loader.given answer ≠ [] ∧ r.after.cache = some (Loader.given answer) := by
  cases h with
  | dropped hf => exact .inl rfl
  | tooShort hf hs => exact .inl rfl
  | cached ha hc => exact .inl rfl
  | waits ha hc hl => exact .inl (w.cache_ask work)
  | @answered work answer ha hc hl =>
    rcases cache_answered_cases { w.ask work with source := w.source.fetch.2 } answer work with
      hsame | ⟨hne, hnew⟩
    · exact .inl (hsame.trans (w.cache_ask work))
    · exact .inr ⟨ha, hc, answer, hl, hne, hnew⟩

theorem Polled.cache (h : w.Polled work r) : r.after.cache = w.cache ∨
    ∃ answer, w.source.poll.1 = some answer ∧ Loader.given answer ≠ [] ∧
      r.after.cache = some (Loader.given answer) := by
  cases h with
  | waits hl => exact .inl rfl
  | @answered answer hl =>
    rcases cache_answered_cases { w with source := w.source.poll.2 } answer work with
      hsame | ⟨hne, hnew⟩
    · exact .inl hsame
    · exact .inr ⟨answer, hl, hne, hnew⟩

theorem Tended.cache {k : Nat} {st : Step H} {r : Reply H} (h : w.Tended k st r w') :
    w'.cache = w.cache := by
  cases h <;> rfl

end Widget

namespace Session

/-! ## Requests that are answered -/

/-- With the step a request of widget `k` is answered: as soon as it comes, or after it has
waited. -/
inductive Receives (s : Session H) (k : Nat) : Step H → Except LoadError (List Document) → Prop
  | atOnce {w : Widget H} {work : Work} {answer : Except LoadError (List Document)}
      (hw : s.widgets[k]? = some w) (ha : w.Admits work) (hc : w.cache = none)
      (hl : w.source.fetch.1 = some answer) : Receives s k (.start k work) answer
  | awaited {w : Widget H} {n : Nat} {work : Work} {answer : Except LoadError (List Document)}
      (hp : s.pass? n = some ⟨k, work⟩) (hw : s.widgets[k]? = some w)
      (hl : w.source.poll.1 = some answer) : Receives s k (.poll n) answer

/-- With the step a request of widget `k` ends without documents: the answer has none or is an
error, or the pass that made it is given up. -/
inductive Fails (s : Session H) (k : Nat) : Step H → Prop
  | answered {st : Step H} {answer : Except LoadError (List Document)} (h : s.Receives k st answer)
      (hnone : Loader.given answer = []) : Fails s k st
  | abandoned {n : Nat} {work : Work} (hp : s.pass? n = some ⟨k, work⟩) : Fails s k (.abandon n)

variable {s s' t : Session H} {w w' : Widget H} {st : Step H} {r : Reply H} {k n : Nat}
  {work : Work} {passes : List (Option Pass)} {answer : Except LoadError (List Document)}
  {docs : List Document}

theorem Receives.unique {answer' : Except LoadError (List Document)} (h : s.Receives k st answer)
    (h' : s.Receives k st answer') : answer = answer' := by
  cases h with
  | atOnce hw ha hc hl =>
    cases h' with
    | atOnce hw' ha' hc' hl' =>
      obtain rfl := Option.some.inj (hw.symm.trans hw')
      exact Option.some.inj (hl.symm.trans hl')
  | awaited hp hw hl =>
    cases h' with
    | awaited hp' hw' hl' =>
      obtain rfl := Option.some.inj (hw.symm.trans hw')
      exact Option.some.inj (hl.symm.trans hl')

/-- At most one pass of each widget waits, and that widget awaits its documents. -/
structure Solitary (s : Session H) : Prop where
  alone : ∀ {k m n work work'}, s.pass? m = some ⟨k, work⟩ → s.pass? n = some ⟨k, work'⟩ → m = n
  awaits : ∀ {k n work w}, s.pass? n = some ⟨k, work⟩ → s.widgets[k]? = some w → w.Awaits

/-- No pass begins to wait next to one that waits: its request is refused. -/
theorem Solitary.fetch_ne_none (hs : s.Solitary) (hp : s.pass? n = some ⟨k, work⟩)
    (hw : s.widgets[k]? = some w) : w.source.fetch.1 ≠ none := by
  obtain ⟨⟨e, he⟩, -⟩ := Source.fetch_of_waiting (hs.awaits hp hw).source
  rw [he]
  nofun

theorem Fresh.solitary (h : s.Fresh) : s.Solitary := by
  have hnone : ∀ n, s.pass? n = none := fun n => by rw [pass?, h.passes]; rfl
  refine ⟨fun hm _ => ?_, fun hn _ => ?_⟩
  · cases (hnone _).symm.trans hm
  · cases (hnone _).symm.trans hn

/-- A request is answered only where no documents are. -/
theorem Solitary.cache_eq_none (hs : s.Solitary) (h : s.Receives k st answer)
    (hw : s.widgets[k]? = some w) : w.cache = none := by
  cases h with
  | atOnce hw' ha hc hl =>
    obtain rfl := Option.some.inj (hw.symm.trans hw')
    exact hc
  | awaited hp hw' hl => exact (hs.awaits hp hw).cache

variable [Sub H]

theorem Change.cache (h : s.Change k w st r w' passes) (hw : s.widgets[k]? = some w) :
    w'.cache = w.cache ∨ ∃ answer, s.Receives k st answer ∧ Loader.given answer ≠ [] ∧
      w'.cache = some (Loader.given answer) := by
  have hstart : ∀ work, (w.start work).after.cache = w.cache ∨
      ∃ answer, s.Receives k (.start k work) answer ∧ Loader.given answer ≠ [] ∧
        (w.start work).after.cache = some (Loader.given answer) := by
    intro work
    rcases (w.started work).cache with hsame | ⟨ha, hc, answer, hl, hne, hnew⟩
    · exact .inl hsame
    · exact .inr ⟨answer, .atOnce hw ha hc hl, hne, hnew⟩
  have hpoll : ∀ {n work}, s.pass? n = some ⟨k, work⟩ → (w.poll work).after.cache = w.cache ∨
      ∃ answer, s.Receives k (.poll n) answer ∧ Loader.given answer ≠ [] ∧
        (w.poll work).after.cache = some (Loader.given answer) := by
    intro n work hp
    rcases (w.polled work).cache with hsame | ⟨answer, hl, hne, hnew⟩
    · exact .inl hsame
    · exact .inr ⟨answer, .awaited hp hw hl, hne, hnew⟩
  cases h with
  | started hr => exact hstart _
  | waits hr => exact hstart _
  | ended hp hr => exact hpoll hp
  | waitsOn hp hr => exact hpoll hp
  | abandoned hp => exact .inl (w.cache_abandon _)
  | tended ht => exact .inl ht.cache

/-- Documents arrive only with the answer to a request that has some. -/
theorem Event.cache (h : s.Event st r s') (hw : s.widgets[k]? = some w)
    (hw' : s'.widgets[k]? = some w') :
    w'.cache = w.cache ∨ ∃ answer, s.Receives k st answer ∧ Loader.given answer ≠ [] ∧
      w'.cache = some (Loader.given answer) := by
  rcases h.widget_cases hw' with ⟨w₀, hw₀, hc⟩ | ⟨-, hw₀⟩
  · obtain rfl := Option.some.inj (hw.symm.trans hw₀)
    exact hc.cache hw
  · obtain rfl := Option.some.inj (hw.symm.trans hw₀)
    exact .inl rfl

/-! ## One request at a time waits -/

theorem Change.awaits (h : s.Change k w st r w' passes) (hs : s.Solitary)
    (hw : s.widgets[k]? = some w) {widgets : List (Widget H)}
    (hp : (Session.mk widgets passes).pass? n = some ⟨k, work⟩) : w'.Awaits := by
  cases h with
  | @started work' o hr => exact ((w.started work').awaits (hs.awaits hp hw)).2
  | @waits work' hr => exact (w.started work').awaits_of_result_eq_none hr
  | @ended m work' o hp' hr =>
    -- No other pass of the widget was left to wait.
    rw [pass?_set] at hp
    split at hp
    · cases hp
    · next hm => exact absurd (hs.alone hp' hp) hm
  | @waitsOn m work' hp' hr => exact (w.polled work').awaits hr (hs.awaits hp' hw)
  | @abandoned m work' hp' =>
    rw [pass?_set] at hp
    split at hp
    · cases hp
    · next hm => exact absurd (hs.alone hp' hp) hm
  | tended ht => exact ht.awaits (hs.awaits hp hw)

theorem Solitary.event (hs : s.Solitary) (h : s.Event st r s') : s'.Solitary := by
  refine ⟨fun {k m n work work'} hm hn => ?_, fun {k n work w'} hn hw' => ?_⟩
  · rcases h.pass?_cases hm with hm | ⟨-, hr, w, hw, -, hl⟩ <;>
      rcases h.pass?_cases hn with hn | ⟨-, hr', w', hw', -, hl'⟩
    · exact hs.alone hm hn
    · exact absurd hl' (hs.fetch_ne_none hm hw')
    · exact absurd hl (hs.fetch_ne_none hn hw)
    · exact Reply.pending.inj (hr.symm.trans hr')
  · rcases h.widget_cases hw' with ⟨w, hw, hc⟩ | ⟨ht, hw⟩
    · exact hc.awaits hs hw hn
    · rcases h.pass?_cases hn with hn | ⟨rfl, -⟩
      · exact hs.awaits hn hw
      · exact absurd rfl ht

theorem Solitary.run (hs : s.Solitary) (steps : List (Step H)) : (s.run steps).Solitary :=
  run_invariant (fun _ h hs => hs.event h) hs

/-! ## Where documents are, and where none are -/

/-- Documents that have arrived stay, and nothing is asked for. -/
theorem Event.cache_of_some (h : s.Event st r s') (hs : s.Solitary) (hw : s.widgets[k]? = some w)
    (hc : w.cache = some docs) :
    ∃ w', s'.widgets[k]? = some w' ∧ w'.cache = some docs ∧ w'.fetches = w.fetches := by
  obtain ⟨w', hw'⟩ := h.exists_widget hw
  refine ⟨w', hw', ?_, ?_⟩
  · rcases h.cache hw hw' with hsame | ⟨answer, hr, -⟩
    · exact hsame.trans hc
    · cases hc.symm.trans (hs.cache_eq_none hr hw)
  · obtain ⟨w₀, hw₀, hasked⟩ := h.asked hw'
    obtain rfl := Option.some.inj (hw.symm.trans hw₀)
    rw [hasked.fetches, hc, Option.isNone_some, Bool.and_false]
    rfl

theorem Solitary.cache_run_of_some (hs : s.Solitary) (hw : s.widgets[k]? = some w)
    (hc : w.cache = some docs) (later : List (Step H)) :
    ∃ w', (s.run later).widgets[k]? = some w' ∧ w'.cache = some docs ∧
      w'.fetches = w.fetches := by
  induction later generalizing s w with
  | nil => exact ⟨w, hw, hc, rfl⟩
  | cons st later ih =>
    have he := event_step s st
    obtain ⟨w₁, hw₁, hc₁, hf₁⟩ := he.cache_of_some hs hw hc
    obtain ⟨w', hw', hc', hf'⟩ := ih (hs.event he) hw₁ hc₁
    exact ⟨w', hw', hc', hf'.trans hf₁⟩

/-- As long as no answer has documents, there are none. -/
theorem cache_run_of_none {later : List (Step H)} (hw : s.widgets[k]? = some w)
    (hc : w.cache = none) (hlater : ∀ m ∈ s.history later, ∀ answer,
      m.before.Receives k m.step answer → Loader.given answer = []) :
    ∃ w', (s.run later).widgets[k]? = some w' ∧ w'.cache = none := by
  induction later generalizing s w with
  | nil => exact ⟨w, hw, hc⟩
  | cons st later ih =>
    have he := event_step s st
    obtain ⟨w₁, hw₁⟩ := he.exists_widget hw
    refine ih hw₁ ?_ fun m hm => hlater m (.tail _ hm)
    rcases he.cache hw hw₁ with hsame | ⟨answer, hr, hne, -⟩
    · exact hsame.trans hc
    · exact absurd (hlater ⟨s, st⟩ (.head _) answer hr) hne

/-- A load that begins without documents asks once more. -/
theorem fetches_of_beginsLoad (hw : s.widgets[k]? = some w) (hc : w.cache = none)
    (hb : (Moment.mk s st).beginsLoad k = true) :
    ∃ w', (s.step st).after.widgets[k]? = some w' ∧ w'.fetches = w.fetches + 1 := by
  have he := event_step s st
  obtain ⟨w', hw'⟩ := he.exists_widget hw
  obtain ⟨w₀, hw₀, hasked⟩ := he.asked hw'
  obtain rfl := Option.some.inj (hw.symm.trans hw₀)
  have hloads : st.loads w k (s.step st).result = true := by
    rwa [Moment.beginsLoad, hw, Option.any_some] at hb
  refine ⟨w', hw', ?_⟩
  rw [hasked.fetches, hloads, hc]
  rfl

/-- After a request that has ended without documents there are none. -/
theorem Event.cache_of_fails (h : s.Event st r s') (hs : s.Solitary) (hf : s.Fails k st)
    (hw : s.widgets[k]? = some w) (hw' : s'.widgets[k]? = some w') : w'.cache = none := by
  cases hf with
  | answered hr hnone =>
    rcases h.cache hw hw' with hsame | ⟨answer, hr', hne, -⟩
    · exact hsame.trans (hs.cache_eq_none hr hw)
    · exact absurd (hr.unique hr' ▸ hnone) hne
  | abandoned hp =>
    rcases h.cache hw hw' with hsame | ⟨answer, hr, -⟩
    · exact hsame.trans (hs.awaits hp hw).cache
    · cases hr

theorem cache_ne_nil_run (hnew : s.Fresh) (steps : List (Step H))
    (hw : (s.run steps).widgets[k]? = some w) : w.cache ≠ some [] := by
  refine run_invariant (I := fun s => ∀ k w, s.widgets[k]? = some w → w.cache ≠ some [])
    ?_ ?_ k w hw
  · intro s s' st r _ h hs k w' hw'
    obtain ⟨w, hw, -⟩ := h.asked hw'
    rcases h.cache hw hw' with hsame | ⟨answer, -, hne, hdocs⟩
    · exact hsame ▸ hs k w hw
    · rw [hdocs]
      exact fun hnil => hne (Option.some.inj hnil)
  · intro k w hw
    exact (hnew.widget hw).cache_ne_nil

/-! ## Main result -/

/-- **Documents are loaded once.** What a widget keeps is never an empty list. Documents that have
arrived stay, and nothing is asked for any more. The source has been asked exactly as often as a load
began that found no documents, and a source that counts says so too. A request that ends without
documents, because the answer has none or is an error or because its pass is given up, leaves none;
and as long as no other answer has some, the next load asks again. -/
theorem cache_write_once {new : Session H} (hnew : new.Fresh) (steps : List (Step H))
    (hw : (new.run steps).widgets[k]? = some w) :
    w.cache ≠ some [] ∧
    (∀ docs, w.cache = some docs → ∀ later, ∃ w',
      ((new.run steps).run later).widgets[k]? = some w' ∧ w'.cache = some docs ∧
        w'.fetches = w.fetches) ∧
    w.fetches = (new.history steps).countP (·.asks k) ∧
    (∀ calls, w.source.calls? = some calls → calls = w.fetches) ∧
    (∀ st later, (new.run steps).Fails k st →
      (∀ m ∈ ((new.run steps).step st).after.history later, ∀ answer,
        m.before.Receives k m.step answer → Loader.given answer = []) →
      ∃ w', (((new.run steps).step st).after.run later).widgets[k]? = some w' ∧
        w'.cache = none ∧
        ∀ next, (Moment.mk (((new.run steps).step st).after.run later) next).beginsLoad k = true →
          ∃ w'', ((((new.run steps).step st).after.run later).step next).after.widgets[k]? =
            some w'' ∧ w''.fetches = w'.fetches + 1) := by
  have hs : (new.run steps).Solitary := hnew.solitary.run steps
  refine ⟨cache_ne_nil_run hnew steps hw, fun docs hc => hs.cache_run_of_some hw hc,
    (leads_history new steps).fetches_eq hnew hw, counted_run hnew steps hw,
    fun st later hf hlater => ?_⟩
  have he := event_step (new.run steps) st
  obtain ⟨w₁, hw₁⟩ := he.exists_widget hw
  have hnone := he.cache_of_fails hs hf hw hw₁
  obtain ⟨w', hw', hc'⟩ := cache_run_of_none hw₁ hnone hlater
  exact ⟨w', hw', hc', fun next => fetches_of_beginsLoad hw' hc'⟩

/-- A load that is refused beside a query that waits is counted. Once that query has its documents
they stay. -/
theorem cache_write_once_gated :
    let docs : List Document := [{ title := "Gates" }]
    let s := gated.run [.start 0 (.query "gate"), .start 0 .load, .release 0 docs, .poll 0]
    ∃ w, s.widgets[0]? = some w ∧ w.fetches = 2 ∧
      ∀ later, ∃ w', (s.run later).widgets[0]? = some w' ∧ w'.cache = some docs ∧
        w'.fetches = 2 := by
  intro docs s
  obtain ⟨w, hw⟩ : ∃ w, s.widgets[0]? = some w := ⟨_, rfl⟩
  obtain ⟨-, hkept, hfetches, -, -⟩ := cache_write_once fresh_gated _ hw
  have hf : w.fetches = 2 := hfetches
  have hc : w.cache = some docs := by
    cases hw
    rfl
  rw [← hf]
  exact ⟨w, hw, rfl, hkept docs hc⟩

end Session

end SearchPanel
