import SearchPanel.Proofs.Session.Shown

/-!
# What an answered query shows

* `Session.Began moments k work n`: in these moments `work` of widget `k` found no documents and
  began to wait as pass `n`. Whatever waits has begun so (`Leads.began`).
* `Session.LoadGave moments s st k text docs`: the step `st` is the last one of a query of widget
  `k`, and `docs` are what the load of this very query gave.
* `shown_eq_answers_of_completed`: these documents and the text of the query determine what is
  shown from then on until the next query is taken.
-/

namespace SearchPanel

variable {H : Type}

theorem length_answers_le (docs : List Document) (query : String) (config : Config) :
    (answers docs query config).length ≤ config.maxResults := by
  simp only [answers, render, search, matching, List.length_map, List.length_take]
  exact Nat.min_le_left _ _

/-! ## Passes that end with an answer -/

namespace Widget

variable {w : Widget H} {work : Work} {r : Reaction (Option Outcome) (Widget H) H} {rendered : Nat}
  {shown : List Fragment}

theorem query_of_ending_completed {docs : List Document}
    (h : w.ending docs work = .completed rendered shown) :
    ∃ text, work = .query text ∧ shown = answers docs text w.controller.config ∧
      rendered = shown.length := by
  cases work with
  | load => cases h
  | query text =>
    cases h
    exact ⟨text, rfl, rfl, rfl⟩

variable [Sub H]

/-- A query that is answered at once: with the documents that are there, or with those that the
source gives it. -/
theorem Started.completed (h : w.Started work r)
    (hr : r.result = some (.completed rendered shown)) :
    ∃ text docs, work = .query text ∧ shown = answers docs text w.controller.config ∧
      rendered = shown.length ∧ (w.cache = some docs ∨ w.cache = none ∧
        ∃ answer, w.source.fetch.1 = some answer ∧ docs = Loader.given answer) := by
  cases h with
  | dropped hf => cases hr
  | tooShort hf hs => cases hr
  | cached ha hc =>
    obtain ⟨text, hwork, hshown, hrendered⟩ := query_of_ending_completed (Option.some.inj hr)
    exact ⟨text, _, hwork, hshown, hrendered, .inl hc⟩
  | waits ha hc hl => cases hr
  | answered ha hc hl =>
    obtain ⟨text, hwork, hshown, hrendered⟩ := query_of_ending_completed (Option.some.inj hr)
    exact ⟨text, _, hwork, hshown, hrendered, .inr ⟨hc, _, hl, rfl⟩⟩

/-- A query that has waited is answered with the documents that the source gives it. -/
theorem Polled.completed (h : w.Polled work r)
    (hr : r.result = some (.completed rendered shown)) :
    ∃ text answer, work = .query text ∧
      shown = answers (Loader.given answer) text w.controller.config ∧ rendered = shown.length ∧
      w.source.poll.1 = some answer := by
  cases h with
  | waits hl => cases hr
  | answered hl =>
    obtain ⟨text, hwork, hshown, hrendered⟩ := query_of_ending_completed (Option.some.inj hr)
    exact ⟨text, _, hwork, hshown, hrendered, hl⟩

theorem Started.config (h : w.Started work r) :
    r.after.controller.config = w.controller.config := by
  cases h with
  | dropped hf => rfl
  | tooShort hf hs => rfl
  | cached ha hc => rfl
  | waits ha hc hl => exact w.config_ask work
  | answered ha hc hl =>
    rw [config_answered]
    exact w.config_ask work

theorem Polled.config (h : w.Polled work r) :
    r.after.controller.config = w.controller.config := by
  cases h with
  | waits hl => rfl
  | answered hl => exact config_answered ..

end Widget

namespace Session

variable [Sub H] {new s s' t : Session H} {w w' : Widget H} {st : Step H} {r : Reply H} {work : Work}
  {passes : List (Option Pass)} {moments : List (Moment H)} {k n : Nat} {text : String}

/-! ## Settings -/

theorem Change.config (h : s.Change k w st r w' passes) :
    w'.controller.config = w.controller.config := by
  cases h with
  | @started work o hr => exact (w.started work).config
  | @waits work hr => exact (w.started work).config
  | @ended n work o hp hr => exact (w.polled work).config
  | @waitsOn n work hp hr => exact (w.polled work).config
  | @abandoned n work hp => cases work <;> rfl
  | tended ht => cases ht <;> rfl

/-- The settings of a widget never change. -/
theorem Leads.config (h : s.Leads moments t) (hw : t.widgets[k]? = some w') :
    ∃ w, s.widgets[k]? = some w ∧ w'.controller.config = w.controller.config := by
  induction h generalizing w' with
  | refl => exact ⟨w', hw, rfl⟩
  | sources h sources ih =>
    obtain ⟨w₀, hw₀, rfl⟩ := exists_of_getElem?_withSources hw
    obtain ⟨w, hw, hconfig⟩ := ih hw₀
    exact ⟨w, hw, hconfig⟩
  | step h st ih =>
    rcases (event_step _ st).widget_cases hw with ⟨w₀, hw₀, hc⟩ | ⟨-, hw₀⟩
    · obtain ⟨w₁, hw₁, hconfig⟩ := ih hw₀
      exact ⟨w₁, hw₁, hc.config.trans hconfig⟩
    · exact ih hw₀

/-! ## How a pass began -/

/-- In these moments `work` of widget `k` found no documents and began to wait as pass `n`. -/
def Began (moments : List (Moment H)) (k : Nat) (work : Work) (n : Nat) : Prop :=
  ∃ m ∈ moments, m.step = .start k work ∧ m.reply = .pending n ∧
    ∃ w, m.before.widgets[k]? = some w ∧ w.cache = none

theorem Leads.began (h : new.Leads moments s) (hnew : new.passes = [])
    (hp : s.pass? n = some ⟨k, work⟩) : Began moments k work n := by
  induction h with
  | refl =>
    rw [pass?, hnew] at hp
    cases hp
  | sources h sources ih => exact ih hp
  | @step moments s h st ih =>
    rcases (event_step s st).pass?_cases hp with hp | ⟨hst, hr, w, hw, hc, -⟩
    · obtain ⟨m, hm, hbegan⟩ := ih hp
      exact ⟨m, List.mem_append_left _ hm, hbegan⟩
    · exact ⟨⟨s, st⟩, List.mem_append_right _ (List.mem_singleton.2 rfl), hst, hr, w, hw, hc⟩

/-! ## Main result -/

/-- `LoadGave moments s st k text docs`: after these moments the step `st` of `s` is the last one of
a query `text` of widget `k`, and `docs` are what its own load gave. -/
inductive LoadGave (moments : List (Moment H)) (s : Session H) :
    Step H → Nat → String → List Document → Prop
  /-- There were documents when the query came. -/
  | cached {k : Nat} {text : String} {w : Widget H} {docs : List Document}
      (hw : s.widgets[k]? = some w) (hc : w.cache = some docs) :
      LoadGave moments s (.start k (.query text)) k text docs
  /-- There were none, and the source answered at once. -/
  | atOnce {k : Nat} {text : String} {w : Widget H} {answer : Except LoadError (List Document)}
      (hw : s.widgets[k]? = some w) (hc : w.cache = none) (hl : w.source.fetch.1 = some answer) :
      LoadGave moments s (.start k (.query text)) k text (Loader.given answer)
  /-- There were none; the query waited, and now the source answers it. -/
  | awaited {k n : Nat} {text : String} {w : Widget H} {answer : Except LoadError (List Document)}
      (hb : Began moments k (.query text) n) (hp : s.pass? n = some ⟨k, .query text⟩)
      (hw : s.widgets[k]? = some w) (hl : w.source.poll.1 = some answer) :
      LoadGave moments s (.poll n) k text (Loader.given answer)

/-- The answer to a query is computed from what its own load gave. -/
theorem Event.loadGave_of_completed {rendered : Nat} {shown : List Fragment}
    (h : s.Event st r s') (hr : r = .outcome (.completed rendered shown))
    (hbegan : ∀ n k work, s.pass? n = some ⟨k, work⟩ → Began moments k work n) :
    ∃ k w text docs, s.target? st = some k ∧ s.widgets[k]? = some w ∧
      LoadGave moments s st k text docs ∧ shown = answers docs text w.controller.config ∧
      rendered = shown.length := by
  cases h with
  | noWidget ht hw => cases hr
  | pollNone hp => cases hr
  | abandonNone hp => cases hr
  | @changed k w w' st r passes hw hc =>
    cases hc with
    | @started work o ho =>
      cases hr
      obtain ⟨text, docs, rfl, hshown, hrendered, hload⟩ := (w.started work).completed ho
      refine ⟨k, w, text, docs, rfl, hw, ?_, hshown, hrendered⟩
      rcases hload with hc | ⟨hc, answer, hl, rfl⟩
      · exact .cached hw hc
      · exact .atOnce hw hc hl
    | waits ho => cases hr
    | @ended n work o hp ho =>
      cases hr
      obtain ⟨text, answer, rfl, hshown, hrendered, hl⟩ := (w.polled work).completed ho
      refine ⟨k, w, text, _, ?_, hw, .awaited (hbegan n k _ hp) hp hw hl, hshown, hrendered⟩
      rw [target?, hp]
      rfl
    | waitsOn hp ho => cases hr
    | abandoned hp => cases hr
    | tended ht => cases ht <;> cases hr

/-- **What an answered query shows.** A query that is answered, at once or after it has waited, shows
the answers that its own text and its own load determine: the documents that were there when it
came, or else those that the source gave to it, none after a failure. What other passes did in the
meantime has no part in it. The number that it tells is theirs, within the cap, and they are shown
until the next query of the widget is taken: dropped queries, loads of the index, new heights,
answers of the source and the steps of other widgets leave them as they are. All this is so
whatever the sources are. -/
theorem shown_eq_answers_of_completed (hnew : new.Fresh) (h : new.Leads moments s) {rendered : Nat}
    {shown : List Fragment} (hr : (s.step st).result = .outcome (.completed rendered shown)) :
    ∃ k text docs w₀ w, LoadGave moments s st k text docs ∧ new.widgets[k]? = some w₀ ∧
      (s.step st).after.widgets[k]? = some w ∧
      w.view.fragments = render (search docs text w₀.controller.config) ∧
      shown = w.view.fragments ∧ rendered = w.view.fragments.length ∧
      rendered ≤ w₀.controller.config.maxResults ∧
      ∀ later t, (s.step st).after.Leads later t → (∀ m ∈ later, m.takesQuery k = false) →
        ∃ w', t.widgets[k]? = some w' ∧ w'.view.fragments = w.view.fragments := by
  have he := event_step s st
  have hg := h.guarded hnew.guarded
  obtain ⟨k, w₁, text, docs, ht, hw₁, hgave, hshown, hrendered⟩ :=
    he.loadGave_of_completed hr fun n k work => h.began hnew.passes
  obtain ⟨w₀, hw₀, hconfig⟩ := h.config hw₁
  obtain ⟨w, hw⟩ := he.exists_widget hw₁
  have hs : (s.step st).result.shown? = some shown := by rw [hr]; rfl
  obtain ⟨w₂, -, hcontent⟩ := he.content hw
  rw [if_pos ht, hs] at hcontent
  have hview : w.view.fragments = shown := by
    show w.view.content.fragments = shown
    rw [hcontent, View.fragments_changed_some]
  rw [hconfig] at hshown
  refine ⟨k, text, docs, w₀, w, hgave, hw₀, hw, hview.trans hshown, hview.symm, ?_, ?_, ?_⟩
  · rw [hview, hrendered]
  · rw [hrendered, hshown]
    exact length_answers_le ..
  · intro later t hlater htakes
    have hfree : ∀ n, ¬ (s.step st).after.Waits k n :=
      hg.free_of_shown he (by rw [hs]; rfl) ht
    obtain ⟨-, w', hw', hc⟩ := hlater.content_of_free hfree htakes hw
    refine ⟨w', hw', ?_⟩
    show w'.view.content.fragments = w.view.content.fragments
    rw [hc]

/-- The index is loaded beside a query that waits. That load is refused by the gate; the query is
answered once the gate is opened, and the answers stay. -/
theorem shown_eq_answers_of_completed_gated :
    let docs : List Document := [{ title := "Gates" }]
    let s := gated.run [.start 0 (.query "gate"), .start 0 .load, .release 0 docs]
    let shown := answers docs "gate" {}
    let later : List (Step Nat) := [.start 0 .load, .adjust 0, .resize 0 300]
    (s.step (.poll 0)).result = .outcome (.completed shown.length shown) ∧
      ∃ w, ((s.step (.poll 0)).after.run later).widgets[0]? = some w ∧
        w.view.fragments = render (search docs "gate" {}) := by
  intro docs s shown later
  have hr : (s.step (.poll 0)).result = .outcome (.completed shown.length shown) := rfl
  obtain ⟨k, text, docs', w₀, w, hgave, hw₀, hw, hshown, -, -, -, hkept⟩ :=
    shown_eq_answers_of_completed fresh_gated (leads_history gated _) hr
  cases hgave with
  | awaited hb hp hw₁ hl =>
    have hp' : s.pass? 0 = some ⟨0, .query "gate"⟩ := rfl
    cases hp'.symm.trans hp
    cases hw₀
    obtain rfl := Option.some.inj hw₁
    cases hl
    obtain ⟨w', hw', hsame⟩ := hkept _ _ (leads_history _ later) (by decide)
    exact ⟨hr, w', hw', hsame.trans hshown⟩

end Session

end SearchPanel
