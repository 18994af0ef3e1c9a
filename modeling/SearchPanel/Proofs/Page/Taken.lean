import SearchPanel.Proofs.Page.Settle
import SearchPanel.Proofs.Page.Stands

/-!
# The last query that a panel has taken

* `Fresh.stands_play`, `Fresh.exists_spawned`, `Fresh.sent?_eq_none`: what holds of the panels that
  were attached to a page once, after any moves.
* `displays_last_taken`: such a page shows the answers to the last query that each panel has taken.
-/

namespace SearchPanel.Page

variable {p : Page} {s : Section} {moves : List Move} {k : Nat}

/-! ## Panels that were attached once -/

namespace Fresh

variable {options : OptionValue} (hp : p.Fresh options)
  (hmoves : ∀ m ∈ moves, ∀ options, m ≠ .event (.attach options))
include hp hmoves

theorem stands_play (hs : (p.play moves).panels[k]? = some s) :
    (p.play moves).Stands k s (taken k (p.moments moves)) (sent k (p.moments moves)) := by
  have hnew : ∀ s, p.panels[k]? = some s → p.Stands k s [] [] := by
    intro s hs
    obtain ⟨o, -, hcontroller⟩ := hp.controller hs
    exact stands_fresh hcontroller (by rw [waiters, hp.tasks, List.filter_nil])
  exact Page.stands_play hp.orderly hmoves hnew hs

/-- The settings of a panel stay as they were attached. -/
theorem config_play (hs : (p.play moves).panels[k]? = some s) :
    ∃ o, PageOptions.ofValue options = .ok o ∧ s.controller.config = o.toConfig := by
  obtain ⟨s₀, hs₀, hb⟩ := exists_becomes_play hmoves hs
  obtain ⟨o, ho, hcontroller⟩ := hp.controller hs₀
  exact ⟨o, ho, hb.config.trans (by rw [hcontroller])⟩

/-- Queries begin in the order in which they were started. -/
theorem spawned_eq : (p.moments moves).flatMap (·.spawned) =
    (p.moments moves).filterMap (·.begun?) ++ (p.play moves).tasks.filter (·.isStarted) := by
  have horder := p.spawned_append_eq hmoves
  rwa [hp.tasks, List.filter_nil, List.nil_append] at horder

/-- How a page and one of its panels are before a moment. -/
theorem before_of_moments (hs : (p.play moves).panels[k]? = some s) {first later : List Moment}
    {m : Moment} (hpast : p.moments moves = first ++ m :: later) : m.before.Orderly ∧
      ∃ s₀, m.before.panels[k]? = some s₀ ∧ s₀.Becomes s ∧
        m.before.Stands k s₀ (taken k first) (sent k first) := by
  obtain ⟨moves₁, moves₂, rfl, hbefore, rfl, -⟩ := exists_of_moments_eq hpast
  have hmoves₁ : ∀ m ∈ moves₁, ∀ options, m ≠ .event (.attach options) := fun m hm =>
    hmoves m (List.mem_append_left _ hm)
  rw [play_append, ← hbefore] at hs
  obtain ⟨s₀, hs₀, hb⟩ :=
    exists_becomes_play (fun m hm => hmoves m (List.mem_append_right _ hm)) hs
  rw [hbefore] at hs₀ ⊢
  exact ⟨orderly_play hp.orderly hmoves₁, s₀, hs₀, hb, hp.stands_play hmoves₁ hs₀⟩

/-- What happens at the input of a panel starts a query of it. -/
theorem mem_spawned (hs : (p.play moves).panels[k]? = some s) {m : Moment}
    (hm : m ∈ p.moments moves) :
    (∀ text, m.move = .event (.type s.input text) →
      { panel := k, query := text } ∈ m.spawned) ∧
    (m.move = .event (.focus s.input) → m.before.active ≠ some s.input →
      { panel := k, query := m.before.valueOf s.input } ∈ m.spawned) := by
  obtain ⟨first, later, hpast⟩ := List.append_of_mem hm
  obtain ⟨horderly, s₀, hs₀, hb, -⟩ := hp.before_of_moments hmoves hs hpast
  obtain ⟨before, move⟩ := m
  rw [hb.input]
  refine ⟨fun text hmove => ?_, fun hmove hne => ?_⟩
  · obtain rfl : move = _ := hmove
    exact mem_spawned_type hs₀ (horderly.has hs₀) text
  · obtain rfl : move = _ := hmove
    exact mem_spawned_focus hs₀ hne

/-- The query that a panel has taken was started with an event, with the text that the panel's input
had then. -/
theorem exists_spawned {query : String} (hs : (p.play moves).panels[k]? = some s)
    (ht : query ∈ taken k (p.moments moves)) :
    ∃ m ∈ p.moments moves, { panel := k, query } ∈ m.spawned ∧
      query = m.after.valueOf s.input := by
  obtain ⟨m', hm', htaken⟩ := List.mem_filterMap.1 ht
  obtain ⟨t, hbegun, rfl, rfl⟩ := exists_begun_of_taken? htaken
  have hspawned : t ∈ (p.moments moves).flatMap (·.spawned) := by
    rw [hp.spawned_eq hmoves]
    exact List.mem_append_left _ (List.mem_filterMap.2 ⟨m', hm', hbegun⟩)
  obtain ⟨m, hm, hstarted⟩ := List.mem_flatMap.1 hspawned
  refine ⟨m, hm, ?_⟩
  -- The panel that it was started for still has the same input.
  obtain ⟨first, later, hpast⟩ := List.append_of_mem hm
  obtain ⟨moves₁, moves₂, rfl, hbefore, -⟩ := exists_of_moments_eq hpast
  obtain ⟨hstage, s₁, hs₁, hquery⟩ :=
    captures_of_spawned (hmoves _ List.mem_append_cons_self) hstarted
  rw [play_append, play_cons, ← hbefore] at hs
  obtain ⟨s₂, hs₂, hb⟩ :=
    exists_becomes_play (fun m hm => hmoves m (List.mem_append_right _ (.tail _ hm))) hs
  cases hs₁.symm.trans hs₂
  obtain ⟨panel, query, stage⟩ := t
  obtain rfl : stage = .started := hstage
  exact ⟨hstarted, hquery.trans (congrArg m.after.valueOf hb.input.symm)⟩

/-- A panel one of whose requests was answered with documents sends none any more. -/
theorem sent?_eq_none (hs : (p.play moves).panels[k]? = some s) {first later : List Moment}
    {m : Moment} (hpast : p.moments moves = first ++ m :: later) {r : Nat} {response : Response}
    (hr : r ∈ sent k first) (hresponse : m.before.response? r = some response)
    (hgiven : response.given ≠ []) : m.sent? k = none := by
  obtain ⟨horderly, s₀, hs₀, -, hstands⟩ := hp.before_of_moments hmoves hs hpast
  obtain ⟨moves₁, moves₂, rfl, -⟩ := exists_of_moments_eq hpast
  exact hstands.sent?_eq_none horderly hs₀ (hmoves _ List.mem_append_cons_self) hr hresponse hgiven

end Fresh

theorem given_received {status : Nat} {body : String} {docs : List Document}
    (hstatus : isSuccess status = true) (hdocs : loadText body = .ok docs) :
    (Response.received status (.ok body)).given = docs := by
  rw [Response.given, Response.documents, if_pos hstatus]
  exact congrArg Loader.given hdocs

/-- **A page shows the answers to the last query that was taken.** Panels are attached to a bare
page none of whose search sections stands in another one; then come events, changes of texts and
turns of tasks, in any order.

* The queries that an event starts have the texts that the inputs have then, and they begin in the
  order in which they were started. Typing into the input of a panel and focusing it start one.
* A panel that has taken a query shows what it finds for the last one in the documents that it has
  obtained, or nothing if that query is too short. Its input is marked if that is something.
* A query that waits waits for the last request of its panel. Once a request of a panel was answered
  with documents, the panel never sends another one; and none is sent but by panels.
* The page after some events is a page after some moves, in which no task waits for a request that
  is answered. -/
theorem displays_last_taken (hbare : p.Bare) (hflat : p.Flat) (options : OptionValue)
    (hmoves : ∀ m ∈ moves, ∀ options, m ≠ .event (.attach options)) :
    let attached := p.move (.event (.attach options))
    let past := attached.moments moves
    let final := attached.play moves
    ((∀ m ∈ past, ∀ t ∈ m.spawned, m.after.Captures t) ∧
      past.flatMap (·.spawned) =
        past.filterMap (·.begun?) ++ final.tasks.filter (·.isStarted)) ∧
    (∀ k s, final.panels[k]? = some s →
      (∃ o, PageOptions.ofValue options = .ok o ∧ s.controller.config = o.toConfig) ∧
      (∀ m ∈ past,
        (∀ text, m.move = .event (.type s.input text) →
          { panel := k, query := text } ∈ m.spawned) ∧
        (m.move = .event (.focus s.input) → m.before.active ≠ some s.input →
          { panel := k, query := m.before.valueOf s.input } ∈ m.spawned)) ∧
      (∀ text, (taken k past).getLast? = some text →
        let docs := final.obtained k (sent k past)
        let shown := if text.length < s.controller.config.minChars then []
          else render (search docs text s.controller.config)
        let markup := String.join (shown.map Fragment.toHtml)
        (∃ m ∈ past, { panel := k, query := text } ∈ m.spawned ∧
          text = m.after.valueOf s.input) ∧
        final.tree.markup? s.results = some markup ∧
          (final.marked s.input = true ↔ markup ≠ "")) ∧
      (∀ t ∈ final.waiters k, ∃ r, t.stage = .waiting r ∧ (sent k past).getLast? = some r) ∧
      ∀ first m later, past = first ++ m :: later → ∀ r ∈ sent k first, ∀ status body docs,
        m.before.response? r = some (.received status (.ok body)) → isSuccess status = true →
        loadText body = .ok docs → docs ≠ [] → m.sent? k = none) ∧
    (∀ m ∈ past, m.before.requests.length < m.after.requests.length →
      ∃ k, m.sent? k = some m.before.requests.length) ∧
    ∀ events, ∃ moves', moves'.filter (!·.isTurn) = events.map .event ∧
      p.run (.attach options :: events) = attached.play moves' ∧
      (attached.play moves').CaughtUp := by
  intro attached past final
  have hp : attached.Fresh options := fresh_attach hbare hflat options
  have hmove : ∀ m ∈ past, ∀ options, m.move ≠ .event (.attach options) := by
    intro m hm
    obtain ⟨first, later, hpast⟩ := List.append_of_mem hm
    obtain ⟨moves₁, moves₂, rfl, -⟩ := exists_of_moments_eq hpast
    exact hmoves _ List.mem_append_cons_self
  refine ⟨⟨fun m hm t ht => captures_of_spawned (hmove m hm) ht, hp.spawned_eq hmoves⟩,
    fun k s hs => ⟨hp.config_play hmoves hs, fun m hm => hp.mem_spawned hmoves hs hm,
      fun text htext => ⟨?_, ?_⟩, fun t ht => ?_,
      fun first m later hpast r hr status body docs hresponse hstatus hdocs hne => ?_⟩,
    fun m hm hlt => exists_sent? (hmove m hm) hlt, fun events => ?_⟩
  · exact hp.exists_spawned hmoves hs (List.mem_of_getLast? htext)
  · have hdisplays := (hp.stands_play hmoves hs).displays_obtained
      (orderly_play hp.orderly hmoves) hs htext
    exact ⟨hdisplays.list, hdisplays.marked_iff⟩
  · obtain ⟨r, hst⟩ := exists_waiting (mem_waiters.1 ht).2.2
    obtain ⟨-, -, -, hlast⟩ := (hp.stands_play hmoves hs).waits t ht r hst
    exact ⟨r, hst, hlast⟩
  · refine hp.sent?_eq_none hmoves hs hpast hr hresponse ?_
    rwa [given_received hstatus hdocs]
  · obtain ⟨moves', hevents, hrun, hcaught⟩ := attached.exists_play_eq_run events
    have hstep : (p.step (.attach options)).2.1 = attached := settle_of_tasks_eq_nil hp.tasks
    have hnone : attached.CaughtUp := fun t ht => absurd (hp.tasks ▸ ht) List.not_mem_nil
    refine ⟨moves', hevents, ?_, hrun ▸ hcaught hnone⟩
    show Page.run (p.step (.attach options)).2.1 events = _
    rw [hstep, hrun]

/-- A page with one search section. -/
def onePanel : Page where
  tree := .ofNodes [
    .element { tag := "div", classes := ["sidebar__content"] } [
      .element { tag := "div", classes := ["sidebar__section--search"] } [
        .element { tag := "input", type := some "text" } [],
        .element { tag := "ul", classes := ["sidebar__section--search-results"] } []]]]

/-- A query that comes while another one waits is dropped, and the answers to the other one are
shown. -/
theorem displays_last_taken_onePanel :
    let moves : List Move := [.event (.type 2 "gate"), .turn 0, .event (.type 2 "late"),
      .event (.respond 0 (.received 200 (.ok "[\x7b\"title\":\"Gates\"\x7d]"))), .turn 1, .turn 0]
    let attached := onePanel.move (.event (.attach .undefined))
    let final := attached.play moves
    onePanel.Bare ∧ onePanel.Flat ∧ (∀ m ∈ moves, ∀ options, m ≠ .event (.attach options)) ∧
      taken 0 (attached.moments moves) = ["gate"] ∧
      ∃ s, final.panels[0]? = some s ∧
        final.tree.markup? s.results =
          some (String.join ((render (search [{ title := "Gates" }] "gate" {})).map
            Fragment.toHtml)) ∧
        final.marked s.input = true := by
  intro moves attached final
  have hbare : onePanel.Bare := ⟨rfl, rfl⟩
  have hflat : onePanel.Flat := by
    unfold Flat
    decide +kernel
  have hmoves : ∀ m ∈ moves, ∀ options, m ≠ .event (.attach options) := by
    rintro m hm options rfl
    simp [moves] at hm
  have htaken : taken 0 (attached.moments moves) = ["gate"] := by decide +kernel
  obtain ⟨s, hs⟩ : ∃ s, final.panels[0]? = some s :=
    Option.isSome_iff_exists.1 (by decide +kernel)
  have hdocs : final.obtained 0 (sent 0 (attached.moments moves)) = [{ title := "Gates" }] := by
    decide +kernel
  obtain ⟨-, hpanels, -⟩ := displays_last_taken hbare hflat .undefined hmoves
  obtain ⟨⟨o, ho, hconfig⟩, -, hshown, -⟩ := hpanels 0 s hs
  cases ho
  obtain ⟨-, hmarkup, hmark⟩ := hshown "gate" (by rw [htaken]; rfl)
  have hmin : ¬ "gate".length < s.controller.config.minChars := by
    rw [hconfig]
    decide
  rw [hdocs, if_neg hmin, hconfig] at hmarkup hmark
  refine ⟨hbare, hflat, hmoves, htaken, s, hs, hmarkup, hmark.2 ?_⟩
  decide +kernel

end SearchPanel.Page
