import SearchPanel.Proofs.Page.Orderly

/-!
# What one panel does in a move

* `Moment.taken? k`, `Moment.sent? k`: the query that the panel `k` takes with a moment, and the
  request that it sends. Every request is sent by a panel (`exists_sent?`).
* `Page.Acts p k s q c text number`: all that the panel can do in a move from `p` to `q`, one case
  for each way that it can go (`acts`). Most moves are none of its business.
* `Orderly.move`: every move keeps a page in order.
-/

namespace SearchPanel.Page

variable {p q : Page} {t : Task} {s s' : Section} {kept : Option Task} {before after : List Task}
  {c : Controller} {m : Move} {i k : Nat}

/-- The panel `k` is there, and no query of it waits. -/
def isFree (p : Page) (k : Nat) : Bool := (p.panels[k]?).any (!·.controller.inFlight)

namespace Moment

/-- The text of the query of the panel `k` that begins with the moment. -/
def begins? (k : Nat) (m : Moment) : Option String :=
  (m.begun?.filter (·.panel = k)).map (·.query)

/-- The text of the query that the panel `k` takes with the moment. -/
def taken? (k : Nat) (m : Moment) : Option String := (m.begins? k).filter fun _ => m.before.isFree k

/-- The panel whose task has its turn with the moment. -/
def worker? (m : Moment) : Option Nat :=
  match m.move with
  | .turn i => (m.before.turn? i).map (·.panel)
  | .event _ | .setValue .. => none

/-- The number of the request that is sent with the moment, if it is the turn of a task of the panel
`k`. -/
def sent? (k : Nat) (m : Moment) : Option Nat :=
  if m.worker? = some k ∧ m.before.requests.length < m.after.requests.length then
    some m.before.requests.length
  else none

end Moment

/-- `Acts p k s q c text number`: what the panel `k` of the page `p`, `s`, does in a move to `q`.
Then it has the controller `c`; `text` is that of the query it has taken, and `number` that of the
request it has sent. -/
inductive Acts (p : Page) (k : Nat) (s : Section) (q : Page) :
    Controller → Option String → Option Nat → Prop
  /-- Nothing that is to be seen. -/
  | rests (hw : q.waiters k = p.waiters k)
      (hd : ∀ fragments, p.Displays s fragments → q.Displays s fragments) :
      Acts p k s q s.controller none none
  /-- A query has too few characters. -/
  | cuts {text : String} (hf : s.controller.inFlight = false) (hs : s.IsShort text)
      (hw : q.waiters k = []) (hd : q.Displays s []) : Acts p k s q s.controller (some text) none
  /-- The answers to a query are there. -/
  | finds {text : String} {docs : List Document} (hf : s.controller.inFlight = false)
      (hs : ¬ s.IsShort text) (hc : s.controller.loader.cache = some docs)
      (hw : q.waiters k = []) (hd : q.Displays s (s.controller.fragments text docs)) :
      Acts p k s q s.controller (some text) none
  /-- A query has to wait for a request. -/
  | asks {text : String} (hf : s.controller.inFlight = false) (hs : ¬ s.IsShort text)
      (hc : s.controller.loader.cache = none)
      (hw : q.waiters k = [{ panel := k, query := text, stage := .waiting p.requests.length }])
      (hd : q.Displays s []) : Acts p k s q s.ask (some text) (some p.requests.length)
  /-- The query that waits is answered. -/
  | answers {t : Task} {r : Nat} {response : Response} (ht : t ∈ p.waiters k)
      (hst : t.stage = .waiting r) (hr : p.response? r = some response) (hw : q.waiters k = [])
      (hd : p.Displays s [] → q.Displays s (s.controller.fragments t.query response.given)) :
      Acts p k s q (s.answered response) none none

/-! ## Whose turn it is -/

theorem worker?_of_ne_turn (hm : ∀ i, m ≠ .turn i) : (Moment.mk p m).worker? = none := by
  cases m with
  | event e | setValue target text => rfl
  | turn i => exact absurd rfl (hm i)

theorem worker?_of_begun? {m : Moment} (h : m.begun? = some t) : m.worker? = some t.panel := by
  obtain ⟨p, m⟩ := m
  cases m with
  | event e | setValue target text => cases h
  | turn i =>
    obtain ⟨hturn, -⟩ := Option.filter_eq_some_iff.1 h
    exact congrArg (Option.map _) hturn

/-- A query that is taken begins. -/
theorem exists_begun_of_taken? {m : Moment} {query : String} (h : m.taken? k = some query) :
    ∃ t, m.begun? = some t ∧ t.panel = k ∧ t.query = query := by
  obtain ⟨hbegins, -⟩ := Option.filter_eq_some_iff.1 h
  obtain ⟨t, hbegun, hquery⟩ := Option.map_eq_some_iff.1 hbegins
  obtain ⟨hbegun, hpanel⟩ := Option.filter_eq_some_iff.1 hbegun
  exact ⟨t, hbegun, of_decide_eq_true hpanel, hquery⟩

theorem taken?_of_worker?_ne {m : Moment} (h : m.worker? ≠ some k) : m.taken? k = none := by
  refine Option.eq_none_iff_forall_ne_some.2 fun query htaken => ?_
  obtain ⟨t, hbegun, rfl, -⟩ := exists_begun_of_taken? htaken
  exact h (worker?_of_begun? hbegun)

theorem sent?_of_worker?_ne {m : Moment} (h : m.worker? ≠ some k) : m.sent? k = none :=
  if_neg fun hsent => h hsent.1

/-- Nothing is sent while no request is added. -/
theorem sent?_of_requests_eq {m : Moment} (h : m.after.requests = m.before.requests) :
    m.sent? k = none :=
  if_neg fun hsent => Nat.lt_irrefl _ (h ▸ hsent.2)

/-! ## The panel of a task that has its turn -/

section Own

variable (hp : p.Orderly) (hs : p.panels[t.panel]? = some s) (ht : p.Splits i before t after)
include ht

theorem worker?_turn : (Moment.mk p (.turn i)).worker? = some t.panel :=
  congrArg (Option.map _) ht.turn

theorem taken?_of_waiting {r : Nat} (hst : t.stage = .waiting r) :
    (Moment.mk p (.turn i)).taken? k = none := by
  refine Option.eq_none_iff_forall_ne_some.2 fun query htaken => ?_
  obtain ⟨t', hbegun, -⟩ := exists_begun_of_taken? htaken
  obtain ⟨hturn, hstarted⟩ := Option.filter_eq_some_iff.1 hbegun
  cases ht.turn.symm.trans hturn
  rw [isStarted_of_waiting hst] at hstarted
  cases hstarted

include hs

theorem taken?_of_started (hst : t.stage = .started) : (Moment.mk p (.turn i)).taken? t.panel =
    if s.controller.inFlight then none else some t.query := by
  have hbegun : (Moment.mk p (.turn i)).begun? = some t :=
    Option.filter_eq_some_iff.2 ⟨ht.turn, isStarted_of_started hst⟩
  have hbegins : (Moment.mk p (.turn i)).begins? t.panel = some t.query := by
    rw [Moment.begins?, hbegun]
    simp
  have hfree : p.isFree t.panel = !s.controller.inFlight := by
    rw [isFree, hs]
    rfl
  rw [Moment.taken?, hbegins]
  show (some t.query).filter (fun _ => p.isFree t.panel) = _
  rw [hfree]
  cases s.controller.inFlight <;> rfl

include hp

/-- What is left of the task is all of its panel that waits. -/
theorem waiters_of_kept (h : p.Turned t s kept c q)
    (hf : t.isStarted = false ∨ s.controller.inFlight = false) :
    (before ++ kept.toList ++ after).filter (Task.waitsFor t.panel) = kept.toList := by
  obtain ⟨hbefore, hafter⟩ := hp.waiters_around hs ht.tasks hf
  rw [List.filter_append, List.filter_append, hbefore, hafter, List.nil_append, List.append_nil,
    List.filter_eq_self]
  intro t' ht'
  have hk := Option.mem_toList.1 ht'
  rw [← h.panel_of_kept hk]
  exact waitsFor_self (h.isStarted_of_kept hk)

/-- The panel of a task that has its turn acts in one of the ways. -/
theorem acts_turned (h : p.Turned t s kept c q)
    (hq : p.takeTurn i = { q with tasks := before ++ kept.toList ++ after }) :
    p.Acts t.panel s (p.takeTurn i) c ((Moment.mk p (.turn i)).taken? t.panel)
      ((Moment.mk p (.turn i)).sent? t.panel) := by
  have hsilent : q.requests = p.requests → (Moment.mk p (.turn i)).sent? t.panel = none := by
    refine fun hrequests => sent?_of_requests_eq ?_
    show (p.takeTurn i).requests = p.requests
    rw [hq, hrequests]
  have hwaiters : t.isStarted = false ∨ s.controller.inFlight = false →
      (p.takeTurn i).waiters t.panel = kept.toList := by
    intro hf
    rw [hq]
    exact waiters_of_kept hp hs ht h hf
  have hhas := hp.has hs
  cases h with
  | dropped hst hf =>
    rw [hsilent rfl, taken?_of_started hs ht hst, hf, if_pos rfl, hq]
    refine .rests ?_ fun fragments hd => hd.of_tree rfl
    rw [waiters, waiters, ht.tasks]
    simp [waitsFor_of_started (isStarted_of_started hst)]
  | tooShort hst hf hshort =>
    rw [hsilent (requests_performAll ..), taken?_of_started hs ht hst, hf]
    refine .cuts hf hshort (hwaiters (.inr hf)) ?_
    rw [hq]
    exact (displays_clearing hhas).of_tree rfl
  | ready hst hf hshort hc =>
    rw [hsilent (by simp), taken?_of_started hs ht hst, hf]
    refine .finds hf hshort hc (hwaiters (.inr hf)) ?_
    rw [hq]
    have hcleared := displays_clearing (p := p) hhas
    exact (hcleared.showing (hhas.of_length (length_performAll ..)) _ _).of_tree rfl
  | waits hst hf hshort hc =>
    have hsent : (Moment.mk p (.turn i)).sent? t.panel = some p.requests.length := by
      refine if_pos ⟨worker?_turn ht, ?_⟩
      show p.requests.length < (p.takeTurn i).requests.length
      rw [hq]
      simp
    rw [hsent, taken?_of_started hs ht hst, hf]
    refine .asks hf hshort hc (hwaiters (.inr hf)) ?_
    rw [hq]
    have hset : (p.setController t.panel s.ask).Has s := hhas.of_length rfl
    exact (displays_clearing hset).of_tree rfl
  | waitsOn hst hr =>
    rw [hsilent rfl, taken?_of_waiting ht hst, hq]
    refine .rests ?_ fun fragments hd => hd.of_tree rfl
    rw [waiters, waiters, ht.tasks, Option.toList_some, List.append_assoc, List.singleton_append]
  | @answered r response hst hr =>
    have hmem : t ∈ p.waiters t.panel :=
      mem_waiters.2 ⟨ht.tasks ▸ List.mem_append_cons_self, rfl, isStarted_of_waiting hst⟩
    rw [hsilent (requests_showAnswers ..), taken?_of_waiting ht hst]
    refine .answers hmem hst hr (hwaiters (.inl (isStarted_of_waiting hst))) fun hd => ?_
    rw [hq]
    have hset : (p.setController t.panel (s.answered response)).Displays s [] := hd.of_tree rfl
    exact (hset.showing (hhas.of_length rfl) _ _).of_tree rfl

end Own

/-! ## Every move is one of the cases -/

/-- A panel rests while another one's task has its turn. -/
theorem rests_turned (hp : p.Orderly) (hs : p.panels[t.panel]? = some s)
    (ht : p.Splits i before t after) (h : p.Turned t s kept c q)
    (hs' : p.panels[k]? = some s') (hk : t.panel ≠ k) {u : Page}
    (hq : u = { q with tasks := before ++ kept.toList ++ after }) :
    p.Acts k s' u s'.controller none none := by
  subst hq
  refine .rests ?_ fun fragments hd => ?_
  · have hkept : kept.toList.filter (Task.waitsFor k) = [] :=
      List.filter_eq_nil_iff.2 fun t' ht' => by
        rw [waitsFor_of_ne (h.panel_of_kept (Option.mem_toList.1 ht') ▸ hk)]
        exact Bool.false_ne_true
    rw [waiters, waiters, ht.tasks]
    simp [hkept, waitsFor_of_ne hk]
  · exact (h.displays_of_apart (hp.apart hs hs' hk) hd).of_tree rfl

/-- Every move is one of the cases for each panel. -/
theorem acts (hp : p.Orderly) (hm : ∀ options, m ≠ .event (.attach options))
    (hs : p.panels[k]? = some s) : ∃ c, (p.move m).panels[k]? = some { s with controller := c } ∧
      p.Acts k s (p.move m) c ((Moment.mk p m).taken? k) ((Moment.mk p m).sent? k) := by
  have hrests : (Moment.mk p m).worker? ≠ some k →
      p.Acts k s (p.move m) s.controller none none →
      p.Acts k s (p.move m) s.controller ((Moment.mk p m).taken? k) ((Moment.mk p m).sent? k) := by
    intro hne h
    rwa [taken?_of_worker?_ne hne, sent?_of_worker?_ne hne]
  have hmoved := p.moved m hm
  generalize hq : p.move m = q at hmoved hrests ⊢
  cases hmoved with
  | told hne h =>
    refine ⟨s.controller, h.panels ▸ hs, hrests ?_ ?_⟩
    · rw [worker?_of_ne_turn hne]
      exact (Option.some_ne_none k).symm
    · exact .rests (h.waiters_eq k) fun fragments hd => h.shown.displays hd
  | @idle i ht =>
    refine ⟨s.controller, hs, hrests ?_ (.rests rfl fun fragments hd => hd)⟩
    show (p.turn? i).map _ ≠ _
    rw [ht]
    exact (Option.some_ne_none k).symm
  | @vanished i before after t ht hnone =>
    have hk : t.panel ≠ k := by
      rintro rfl
      cases hnone.symm.trans hs
    refine ⟨s.controller, hs, hrests ?_ (.rests ?_ fun fragments hd => hd.of_tree rfl)⟩
    · rw [worker?_turn ht]
      exact fun h => hk (Option.some.inj h)
    · rw [waiters, waiters, ht.tasks]
      simp [waitsFor_of_ne hk]
  | @turned i before after t s₁ kept c q ht hs₁ h =>
    by_cases hk : t.panel = k
    · subst hk
      cases hs.symm.trans hs₁
      exact ⟨c, h.getElem?_self hs, hq ▸ acts_turned hp hs ht h hq⟩
    · refine ⟨s.controller, (h.getElem?_of_ne hs₁ hk).trans hs, hrests ?_ ?_⟩
      · rw [worker?_turn ht]
        exact fun h => hk (Option.some.inj h)
      · exact rests_turned hp hs₁ ht h hs hk rfl

/-- A request is sent with the turn of a task. -/
theorem exists_sent? (hm : ∀ options, m ≠ .event (.attach options))
    (h : p.requests.length < (p.move m).requests.length) :
    ∃ k, (Moment.mk p m).sent? k = some p.requests.length := by
  have hmoved := p.moved m hm
  have hlt := h
  generalize p.move m = q at hmoved hlt
  cases hmoved with
  | told hne ht => exact absurd (ht.requests ▸ hlt) (Nat.lt_irrefl _)
  | idle ht => exact absurd hlt (Nat.lt_irrefl _)
  | vanished ht hs => exact absurd hlt (Nat.lt_irrefl _)
  | turned ht hs hturned => exact ⟨_, if_pos ⟨worker?_turn ht, h⟩⟩

/-- A panel is in flight after a move if a task of it waits then. -/
theorem Acts.length_waiters {text : Option String} {number : Option Nat}
    (h : p.Acts k s q c text number)
    (hbusy : (p.waiters k).length = s.controller.inFlight.toNat) :
    (q.waiters k).length = c.inFlight.toNat := by
  cases h with
  | rests hw hd => rw [hw, hbusy]
  | cuts hf hs hw hd => rw [hw, hf]; rfl
  | finds hf hs hc hw hd => rw [hw, hf]; rfl
  | asks hf hs hc hw hd => rw [hw]; rfl
  | answers ht hst hr hw hd => rw [hw]; rfl

/-- Every move keeps a page in order. -/
theorem Orderly.move (h : p.Orderly) (hm : ∀ options, m ≠ .event (.attach options)) :
    (p.move m).Orderly := by
  have hmoved := p.moved m hm
  refine ⟨fun hs' => ?_, fun hs' hs'' hne => ?_, fun hs' => ?_⟩
  · obtain ⟨s, hs, hb⟩ := hmoved.exists_becomes hs'
    exact hb.has ((h.has hs).of_length hmoved.length)
  · obtain ⟨s, hs, hb⟩ := hmoved.exists_becomes hs'
    obtain ⟨s₁, hs₁, hb₁⟩ := hmoved.exists_becomes hs''
    exact hb.apart hb₁ (h.apart hs hs₁ hne)
  · obtain ⟨s, hs, -⟩ := hmoved.exists_becomes hs'
    obtain ⟨c, hq, hacts⟩ := acts h hm hs
    cases hs'.symm.trans hq
    exact hacts.length_waiters (h.busy hs)

end SearchPanel.Page
