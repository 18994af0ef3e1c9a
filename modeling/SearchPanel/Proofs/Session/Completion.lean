import SearchPanel.LoadedIndex
import SearchPanel.Proofs.Session.Answered
import SearchPanel.Proofs.Session.Local

/-!
# A query brought to its end

* `Widget.load?`: the documents that a load of a widget gives at once, if it has not to wait.
* `Widget.index w docs`: the index of these documents with the settings of the widget.
* `Session.Completes s k text docs o t`: the query `text` of widget `k` starts in `s` and ends in
  `t` with the outcome `o`, at once or when it is polled after any run; its load gives `docs`.
* `Completes.eq_search`: a free widget then shows what the index of these documents finds.
  `exists_completes`: it ends at once, or when it is polled with an answer there.
-/

namespace SearchPanel

variable {H : Type}

/-! ## What a load gives -/

namespace Widget

/-- The documents that a load gives at once: those that have arrived, or else those of the answer
that the source gives without waiting. -/
def load? (w : Widget H) : Option (List Document) :=
  match w.cache with
  | some docs => some docs
  | none => w.source.fetch.1.map Loader.given

/-- The index of some documents with the settings of the widget. -/
def index (w : Widget H) (docs : List Document) : LoadedIndex := ⟨docs, w.controller.config⟩

/-- How a query of a free widget ends whose load gives `docs`. -/
def outcome (w : Widget H) (docs : List Document) (text : String) : Outcome :=
  if text.length < w.controller.config.minChars then .tooShort
  else .completed ((w.index docs).search text).length ((w.index docs).search text)

variable {w : Widget H} {docs : List Document} {text : String}

theorem load?_of_cache (hc : w.cache = some docs) : w.load? = some docs := by
  rw [load?, hc]

theorem load?_of_fetch {answer : Option (Except LoadError (List Document))} (hc : w.cache = none)
    (hl : w.source.fetch.1 = answer) : w.load? = answer.map Loader.given := by
  rw [load?, hc, hl]

theorem search_of_not_isLong (hs : ¬ w.IsLong text) : (w.index docs).search text = [] :=
  if_pos (Nat.not_le.1 hs)

theorem search_of_isLong (hs : w.IsLong text) :
    (w.index docs).search text = answers docs text w.controller.config :=
  if_neg (Nat.not_lt.2 hs)

theorem outcome_of_not_isLong (hs : ¬ w.IsLong text) : w.outcome docs text = .tooShort :=
  if_pos (Nat.not_le.1 hs)

theorem outcome_of_isLong (hs : w.IsLong text) :
    w.outcome docs text = w.ending docs (.query text) := by
  rw [outcome, if_neg (Nat.not_lt.2 hs), search_of_isLong hs]
  rfl

variable [Sub H] {r : Reaction (Option Outcome) (Widget H) H} {o : Outcome}

/-- A query of a free widget that ends at once. -/
theorem Started.eq_search (h : w.Started (.query text) r) (hf : w.inFlight = false)
    (hd : ∀ d, w.load? = some d → d = docs) (ho : r.result = some o) :
    o = w.outcome docs text ∧ r.after.view.fragments = (w.index docs).search text := by
  cases h with
  | dropped hf' => cases hf.symm.trans hf'
  | tooShort hf' hs =>
    rw [outcome_of_not_isLong hs, search_of_not_isLong hs]
    exact ⟨(Option.some.inj ho).symm, rfl⟩
  | cached ha hc =>
    obtain rfl := hd _ (load?_of_cache hc)
    rw [outcome_of_isLong ha.2, search_of_isLong ha.2]
    refine ⟨(Option.some.inj ho).symm, ?_⟩
    show (w.view.applyAll (_ ++ _)).fragments = _
    rw [View.applyAll_append]
    exact View.fragments_applyAll_showing _ _ _
  | waits ha hc hl => cases ho
  | answered ha hc hl =>
    obtain rfl := hd _ (load?_of_fetch hc hl)
    rw [outcome_of_isLong ha.2, search_of_isLong ha.2]
    exact ⟨(Option.some.inj ho).symm, View.fragments_applyAll_showing _ _ _⟩

/-- It ends at once if it is short or its load does. -/
theorem Started.result_of_load? (h : w.Started (.query text) r) (hf : w.inFlight = false)
    (hl : w.load? = some docs) : r.result = some (w.outcome docs text) := by
  cases hr : r.result with
  | none =>
    obtain ⟨hc, hn⟩ := h.of_result_eq_none hr
    cases hl.symm.trans (load?_of_fetch hc hn)
  | some o =>
    have hd : ∀ d, w.load? = some d → d = docs := fun d hd => Option.some.inj (hd.symm.trans hl)
    rw [(h.eq_search hf hd hr).1]

/-- A query that has to wait is long enough. -/
theorem Started.isLong_of_waits (h : w.Started (.query text) r) (hr : r.result = none) :
    w.IsLong text := by
  cases h with
  | dropped hf => cases hr
  | tooShort hf hs => cases hr
  | cached ha hc => cases hr
  | waits ha hc hl => exact ha.2
  | answered ha hc hl => cases hr

end Widget

namespace Session

variable [Sub H] {s t : Session H} {w : Widget H} {moments : List (Moment H)} {st : Step H}
  {r : Reply H} {p : Pass} {docs : List Document} {text : String} {k n : Nat} {o : Outcome}

/-! ## A number means one pass -/

/-- What waits under a number that was given before has waited before. -/
theorem Event.pass?_of_lt (h : s.Event st r t) (hn : n < s.passes.length) (hp : t.pass? n = some p) :
    s.pass? n = some p := by
  obtain ⟨k, work⟩ := p
  rcases h.pass?_cases hp with hp | ⟨rfl, rfl, -⟩
  · exact hp
  · cases h with
    | changed hw hc =>
      cases hc with
      | waits hr => exact absurd hn (Nat.lt_irrefl _)
      | tended ht => cases ht

theorem Leads.pass?_of_lt (h : s.Leads moments t) (hn : n < s.passes.length) :
    n < t.passes.length ∧ (t.pass? n = some p → s.pass? n = some p) := by
  induction h with
  | refl => exact ⟨hn, id⟩
  | sources h sources ih => exact ih
  | @step moments t h st ih =>
    obtain ⟨hlt, hpass⟩ := ih
    exact ⟨Nat.lt_of_lt_of_le hlt (length_passes_le_step t st),
      fun hp => hpass ((event_step t st).pass?_of_lt hlt hp)⟩

/-! ## A query and what its widget makes of it -/

/-- A query that ends at once, as its widget ends it. -/
theorem start_eq_of_some (hw : s.widgets[k]? = some w)
    (hr : (w.start (.query text)).result = some o) :
    (s.step (.start k (.query text))).result = .outcome o ∧
      (s.step (.start k (.query text))).after.widgets[k]? = some (w.start (.query text)).after := by
  have hf : s.IsFor k .load (.start k (.query text)) := rfl
  obtain ⟨hk, -⟩ := List.getElem?_eq_some_iff.1 hw
  rw [step_eq hw hf, Widget.act, hr]
  exact ⟨rfl, List.getElem?_set_self hk⟩

/-- A query that waits gets the next number. -/
theorem start_eq_of_none (hw : s.widgets[k]? = some w)
    (hr : (w.start (.query text)).result = none) :
    (s.step (.start k (.query text))).result = .pending s.passes.length ∧
      (s.step (.start k (.query text))).after.passes = s.passes ++ [some ⟨k, .query text⟩] := by
  have hf : s.IsFor k .load (.start k (.query text)) := rfl
  rw [step_eq hw hf, Widget.act, hr]
  exact ⟨rfl, rfl⟩

/-- A query that has waited ends as its widget ends it. -/
theorem poll_query_eq (hw : s.widgets[k]? = some w) (hp : s.pass? n = some ⟨k, .query text⟩)
    {answer : Except LoadError (List Document)} (hl : w.source.poll.1 = some answer) :
    (s.step (.poll n)).result = .outcome (w.ending (Loader.given answer) (.query text)) ∧
      ∃ w', (s.step (.poll n)).after.widgets[k]? = some w' ∧
        w'.view.fragments = answers (Loader.given answer) text w.controller.config := by
  have hf : s.IsFor k (.query text) (.poll n) := hp
  obtain ⟨hk, -⟩ := List.getElem?_eq_some_iff.1 hw
  rw [step_eq hw hf, Widget.act, Widget.poll, Widget.proceed_of_some hl]
  exact ⟨rfl, _, List.getElem?_set_self hk, View.fragments_applyAll_showing _ _ _⟩

/-! ## From its start to its end -/

/-- The query `text` of widget `k` starts in `s` and ends in `t` with the outcome `o`, and the load
that it comes to gives `docs`. -/
inductive Completes (s : Session H) (k : Nat) (text : String) (docs : List Document) :
    Outcome → Session H → Prop
  /-- It ends at once. -/
  | atOnce {w : Widget H} {o : Outcome} (hw : s.widgets[k]? = some w)
      (hd : ∀ d, w.load? = some d → d = docs)
      (ho : (s.step (.start k (.query text))).result = .outcome o) :
      Completes s k text docs o (s.step (.start k (.query text))).after
  /-- It waits, and is polled after a run when the source has an answer. -/
  | awaited {n : Nat} {moments : List (Moment H)} {t : Session H} {w : Widget H}
      {answer : Except LoadError (List Document)} {o : Outcome}
      (hr : (s.step (.start k (.query text))).result = .pending n)
      (h : (s.step (.start k (.query text))).after.Leads moments t)
      (hw : t.widgets[k]? = some w) (hl : w.source.poll.1 = some answer)
      (hd : Loader.given answer = docs) (ho : (t.step (.poll n)).result = .outcome o) :
      Completes s k text docs o (t.step (.poll n)).after

/-- A query of a free widget that is brought to its end shows what the index of its documents
finds. -/
theorem Completes.eq_search (h : s.Completes k text docs o t) (hw : s.widgets[k]? = some w)
    (hf : w.inFlight = false) : o = w.outcome docs text ∧
      ∃ w', t.widgets[k]? = some w' ∧ w'.view.fragments = (w.index docs).search text := by
  have hstart := w.started (.query text)
  cases h with
  | @atOnce w₁ o hw₁ hd ho =>
    obtain rfl := Option.some.inj (hw.symm.trans hw₁)
    cases hr : (w.start (.query text)).result with
    | none => cases ho.symm.trans (start_eq_of_none hw hr).1
    | some o' =>
      obtain ⟨hresult, hafter⟩ := start_eq_of_some hw hr
      cases ho.symm.trans hresult
      obtain ⟨houtcome, hview⟩ := hstart.eq_search hf hd hr
      exact ⟨houtcome, _, hafter, hview⟩
  | @awaited n moments t w₁ answer o hr h hw₁ hl hd ho =>
    subst hd
    cases hr' : (w.start (.query text)).result with
    | some o' => cases hr.symm.trans (start_eq_of_some hw hr').1
    | none =>
      obtain ⟨hresult, hpasses⟩ := start_eq_of_none hw hr'
      cases hr.symm.trans hresult
      have hlong := hstart.isLong_of_waits hr'
      -- Nothing else can have come to stand under the number of this query.
      have hlt : s.passes.length < (s.step (.start k (.query text))).after.passes.length := by
        rw [hpasses, List.length_append]
        exact Nat.lt_succ_self _
      have hbegan : (s.step (.start k (.query text))).after.pass? s.passes.length =
          some ⟨k, .query text⟩ := by
        rw [pass?, hpasses, List.getElem?_concat_length]
        rfl
      have hp : t.pass? s.passes.length = some ⟨k, .query text⟩ := by
        cases hp : t.pass? s.passes.length with
        | none =>
          rw [step, poll, hp] at ho
          cases ho
        | some p => exact ((h.pass?_of_lt hlt).2 hp).symm.trans hbegan
      have hrun : s.Leads _ t := (Leads.refl.step (.start k (.query text))).trans h
      obtain ⟨w₀, hw₀, hconfig⟩ := hrun.config hw₁
      obtain rfl := Option.some.inj (hw.symm.trans hw₀)
      obtain ⟨hend, w', hw', hview⟩ := poll_query_eq hw₁ hp hl
      cases ho.symm.trans hend
      rw [Widget.outcome_of_isLong hlong, Widget.search_of_isLong hlong]
      rw [hconfig] at hview
      refine ⟨?_, w', hw', hview⟩
      simp only [Widget.ending, Controller.fragments, hconfig]

/-- A query of a widget ends at once, or it waits; if it is not given up then it ends when it is
polled with an answer there. -/
theorem exists_completes (hw : s.widgets[k]? = some w) (hd : ∀ d, w.load? = some d → d = docs) :
    (∃ o, s.Completes k text docs o (s.step (.start k (.query text))).after) ∨
    ∃ n, (s.step (.start k (.query text))).result = .pending n ∧
      ∀ moments t w' answer, (s.step (.start k (.query text))).after.Leads moments t →
        t.Waits k n → t.widgets[k]? = some w' → w'.source.poll.1 = some answer →
        Loader.given answer = docs →
        ∃ o, s.Completes k text docs o (t.step (.poll n)).after := by
  cases hr : (w.start (.query text)).result with
  | some o => exact .inl ⟨o, .atOnce hw hd (start_eq_of_some hw hr).1⟩
  | none =>
    have hpending := (start_eq_of_none hw hr).1
    refine .inr ⟨_, hpending, fun moments t w' answer h hn hw' hl hgiven => ?_⟩
    obtain ⟨rendered, shown, ho⟩ := completed_of_waits hn hw' hl
    exact ⟨_, .awaited hpending h hw' hl hgiven ho⟩

end Session

end SearchPanel
