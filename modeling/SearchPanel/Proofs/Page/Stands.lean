import SearchPanel.Proofs.Page.Acts

/-!
# How a panel stands

* `taken k past`, `sent k past`: the texts of the queries that the panel `k` takes in some moments,
  and the numbers of the requests that it sends.
* `Page.Stands p k s texts numbers`: what holds of a panel that has taken and sent these. A move
  that the panel takes part in keeps it (`Stands.acts`), and so do all moves of an orderly page
  (`stands_play`).
* `Page.obtained p k numbers`: the documents for the last query, told by the requests alone. A panel
  that stands so displays what it finds in them (`Stands.displays_obtained`), and sends nothing once
  a request gave documents (`Stands.sent?_eq_none`).
-/

namespace SearchPanel.Page

variable {p q : Page} {s : Section} {c : Controller} {m : Move} {moves : List Move} {k : Nat}
  {texts : List String} {numbers : List Nat} {text : Option String} {number : Option Nat}

/-- The texts of the queries that the panel `k` takes in some moments. -/
def taken (k : Nat) (past : List Moment) : List String := past.filterMap (·.taken? k)

/-- The numbers of the requests that the panel `k` sends in some moments. -/
def sent (k : Nat) (past : List Moment) : List Nat := past.filterMap (·.sent? k)

/-- What a panel shows for a text once it has documents for it. -/
def Section.shown (s : Section) (text : String) (docs : List Document) : List Fragment :=
  if text.length < s.controller.config.minChars then [] else s.controller.fragments text docs

namespace Section

variable {query : String} {docs : List Document}

theorem shown_of_short (h : s.IsShort query) : s.shown query docs = [] := if_pos h

theorem shown_of_not_short (h : ¬ s.IsShort query) :
    s.shown query docs = s.controller.fragments query docs := if_neg h

end Section

/-- How the panel `k` of a page, `s`, stands when it has taken queries with the texts `texts` and
sent requests with the numbers `numbers`. -/
structure Stands (p : Page) (k : Nat) (s : Section) (texts : List String) (numbers : List Nat) :
    Prop where
  /-- The query that waits is the last one that was taken, and waits for the last request. -/
  waits : ∀ t ∈ p.waiters k, ∀ r, t.stage = .waiting r → s.controller.loader.cache = none ∧
    ¬ s.IsShort t.query ∧ texts.getLast? = some t.query ∧ numbers.getLast? = some r
  /-- The documents that are there came with the last request. -/
  cached : ∀ docs, s.controller.loader.cache = some docs → ∃ r response,
    numbers.getLast? = some r ∧ p.response? r = some response ∧ response.given = docs
  /-- For each request either a query waits, or it is answered; and if that gave documents then
  there are some. -/
  answered : ∀ r ∈ numbers, (∃ t ∈ p.waiters k, t.stage = .waiting r) ∨ ∃ response,
    p.response? r = some response ∧ (response.given ≠ [] → s.controller.loader.cache ≠ none)
  displays : ∀ text, texts.getLast? = some text → p.Displays s
    (if s.controller.inFlight then [] else s.shown text (s.controller.loader.cache.getD []))

/-- A panel that has just been attached. -/
theorem stands_fresh {config : Config} (hs : s.controller = { config }) (hw : p.waiters k = []) :
    p.Stands k s [] [] where
  waits := fun t ht => absurd (hw ▸ ht) List.not_mem_nil
  cached := fun docs hc => by
    rw [hs] at hc
    cases hc
  answered := fun r hr => absurd hr List.not_mem_nil
  displays := fun text ht => by cases ht

namespace Stands

section Step

variable (h : p.Stands k s texts numbers)
  (hresponses : ∀ r response, p.response? r = some response → q.response? r = some response)
include h hresponses

/-- A free panel has answers to all of its requests. -/
theorem answered_of_free (hw : p.waiters k = []) : ∀ r ∈ numbers, ∃ response,
    q.response? r = some response ∧ (response.given ≠ [] → s.controller.loader.cache ≠ none) := by
  intro r hr
  rcases h.answered r hr with ⟨t, ht, -⟩ | ⟨response, hresponse, hgiven⟩
  · exact absurd (hw ▸ ht) List.not_mem_nil
  · exact ⟨response, hresponses r response hresponse, hgiven⟩

theorem cached_of_responses (docs : List Document) (hc : s.controller.loader.cache = some docs) :
    ∃ r response, numbers.getLast? = some r ∧ q.response? r = some response ∧
      response.given = docs := by
  obtain ⟨r, response, hr, hresponse, hgiven⟩ := h.cached docs hc
  exact ⟨r, response, hr, hresponses r response hresponse, hgiven⟩

theorem rests (hw : q.waiters k = p.waiters k)
    (hd : ∀ fragments, p.Displays s fragments → q.Displays s fragments) :
    q.Stands k s texts numbers where
  waits := hw ▸ h.waits
  cached := h.cached_of_responses hresponses
  answered := fun r hr => (h.answered r hr).imp (fun hwaits => hw ▸ hwaits)
    fun ⟨response, hresponse, hgiven⟩ => ⟨response, hresponses r response hresponse, hgiven⟩
  displays := fun text ht => hd _ (h.displays text ht)

/-- A query that is answered at once, if only with nothing. -/
theorem shows {text : String} (hf : s.controller.inFlight = false) (hp : p.waiters k = [])
    (hq : q.waiters k = [])
    (hd : q.Displays s (s.shown text (s.controller.loader.cache.getD []))) :
    q.Stands k s (texts ++ [text]) numbers where
  waits := fun t ht => absurd (hq ▸ ht) List.not_mem_nil
  cached := h.cached_of_responses hresponses
  answered := fun r hr => .inr (h.answered_of_free hresponses hp r hr)
  displays := fun text' ht => by
    rw [List.getLast?_concat] at ht
    cases ht
    rw [hf]
    exact hd

theorem asks {text : String} (hs : ¬ s.IsShort text) (hc : s.controller.loader.cache = none)
    (hp : p.waiters k = [])
    (hq : q.waiters k = [{ panel := k, query := text, stage := .waiting p.requests.length }])
    (hd : q.Displays s []) :
    q.Stands k { s with controller := s.ask } (texts ++ [text])
      (numbers ++ [p.requests.length]) where
  waits := fun t ht r hst => by
    rw [hq] at ht
    cases List.mem_singleton.1 ht
    cases hst
    exact ⟨hc, hs, List.getLast?_concat, List.getLast?_concat⟩
  cached := fun docs hdocs => by cases hc.symm.trans hdocs
  answered := fun r hr => by
    rcases List.mem_append.1 hr with hr | hr
    · exact .inr (h.answered_of_free hresponses hp r hr)
    · cases List.mem_singleton.1 hr
      exact .inl ⟨_, hq ▸ List.mem_singleton_self _, rfl⟩
  displays := fun text' ht => hd.with_controller s.ask

theorem answers {t : Task} {r : Nat} {response : Response} (hf : s.controller.inFlight = true)
    (ht : t ∈ p.waiters k) (hst : t.stage = .waiting r) (hr : p.response? r = some response)
    (hq : q.waiters k = [])
    (hd : p.Displays s [] → q.Displays s (s.controller.fragments t.query response.given)) :
    q.Stands k { s with controller := s.answered response } texts numbers := by
  obtain ⟨hc, hshort, htext, hnumber⟩ := h.waits t ht r hst
  have hcache : (s.answered response).loader.cache =
      if response.given = [] then none else some response.given :=
    (Loader.cache_receive ..).trans (by rw [hc]; rfl)
  refine ⟨fun t ht => absurd (hq ▸ ht) List.not_mem_nil, fun docs hdocs => ?_, fun r' hr' => ?_,
    fun text ht => ?_⟩
  · refine ⟨r, response, hnumber, hresponses r response hr, ?_⟩
    have hdocs' := hcache.symm.trans hdocs
    split at hdocs'
    · cases hdocs'
    · exact Option.some.inj hdocs'
  · refine .inr ?_
    rcases h.answered r' hr' with ⟨t', ht', hst'⟩ | ⟨response', hresponse', hgiven⟩
    · cases hnumber.symm.trans (h.waits t' ht' r' hst').2.2.2
      refine ⟨response, hresponses r response hr, fun hne => ?_⟩
      show (s.answered response).loader.cache ≠ none
      rw [hcache, if_neg hne]
      exact Option.some_ne_none _
    · exact ⟨response', hresponses r' response' hresponse', fun hne => absurd hc (hgiven hne)⟩
  · cases htext.symm.trans ht
    have hempty := h.displays t.query htext
    rw [hf] at hempty
    have hgetD : (s.answered response).loader.cache.getD [] = response.given := by
      rw [hcache]
      split
      · next hnil => exact hnil.symm
      · rfl
    show q.Displays _ (s.shown t.query ((s.answered response).loader.cache.getD []))
    rw [hgetD, Section.shown_of_not_short hshort]
    exact (hd hempty).with_controller _

end Step

/-- How a panel stands after it has acted. -/
theorem acts (h : p.Stands k s texts numbers) (hp : p.Orderly) (hs : p.panels[k]? = some s)
    (hresponses : ∀ r response, p.response? r = some response → q.response? r = some response)
    (ha : p.Acts k s q c text number) :
    q.Stands k { s with controller := c } (texts ++ text.toList) (numbers ++ number.toList) := by
  cases ha with
  | rests hw hd =>
    rw [Option.toList_none, Option.toList_none, List.append_nil, List.append_nil]
    exact h.rests hresponses hw hd
  | cuts hf hshort hw hd =>
    rw [Option.toList_none, List.append_nil]
    refine h.shows hresponses hf (hp.waiters_eq_nil hs hf) hw ?_
    rwa [Section.shown_of_short hshort]
  | finds hf hshort hc hw hd =>
    rw [Option.toList_none, List.append_nil]
    refine h.shows hresponses hf (hp.waiters_eq_nil hs hf) hw ?_
    rwa [Section.shown_of_not_short hshort, hc]
  | asks hf hshort hc hw hd =>
    exact h.asks hresponses hshort hc (hp.waiters_eq_nil hs hf) hw hd
  | answers ht hst hr hw hd =>
    rw [Option.toList_none, Option.toList_none, List.append_nil, List.append_nil]
    exact h.answers hresponses (hp.inFlight_of_mem hs ht) ht hst hr hw hd

end Stands

/-! ## All moves -/

theorem taken_cons (k : Nat) (m : Moment) (past : List Moment) :
    taken k (m :: past) = (m.taken? k).toList ++ taken k past := by
  rw [taken, List.filterMap_cons]
  cases m.taken? k <;> rfl

theorem sent_cons (k : Nat) (m : Moment) (past : List Moment) :
    sent k (m :: past) = (m.sent? k).toList ++ sent k past := by
  rw [sent, List.filterMap_cons]
  cases m.sent? k <;> rfl

theorem stands_move (hp : p.Orderly) (hm : ∀ options, m ≠ .event (.attach options))
    (h : ∀ s, p.panels[k]? = some s → p.Stands k s texts numbers) {s : Section}
    (hs : (p.move m).panels[k]? = some s) :
    (p.move m).Stands k s (texts ++ ((Moment.mk p m).taken? k).toList)
      (numbers ++ ((Moment.mk p m).sent? k).toList) := by
  have hmoved := p.moved m hm
  obtain ⟨s₀, hs₀, -⟩ := hmoved.exists_becomes hs
  obtain ⟨c, hc, hacts⟩ := acts hp hm hs₀
  cases hs.symm.trans hc
  exact (h s₀ hs₀).acts hp hs₀ (fun r response hr => hmoved.response?_eq hr) hacts

theorem orderly_play (hp : p.Orderly)
    (hmoves : ∀ m ∈ moves, ∀ options, m ≠ .event (.attach options)) : (p.play moves).Orderly :=
  play_invariant (fun _ m hm h => h.move (hmoves m hm)) hp

/-- How a panel stands after some moves. -/
theorem stands_play (hp : p.Orderly)
    (hmoves : ∀ m ∈ moves, ∀ options, m ≠ .event (.attach options))
    (h : ∀ s, p.panels[k]? = some s → p.Stands k s texts numbers)
    (hs : (p.play moves).panels[k]? = some s) :
    (p.play moves).Stands k s (texts ++ taken k (p.moments moves))
      (numbers ++ sent k (p.moments moves)) := by
  induction moves generalizing p texts numbers with
  | nil =>
    rw [moments, taken, sent, List.filterMap_nil, List.filterMap_nil, List.append_nil,
      List.append_nil]
    exact h s hs
  | cons m moves ih =>
    have hm := hmoves m (.head _)
    rw [moments, taken_cons, sent_cons, ← List.append_assoc, ← List.append_assoc]
    refine ih (hp.move hm) (fun m hm => hmoves m (.tail _ hm)) (fun s hs => ?_) hs
    exact stands_move hp hm h hs

/-! ## What is to be seen of it -/

/-- The documents that the panel `k` has for the last query it has taken: those that its last
request gave, and none while the query waits. -/
def obtained (p : Page) (k : Nat) (numbers : List Nat) : List Document :=
  if (p.waiters k).isEmpty then ((numbers.getLast?.bind p.response?).map Response.given).getD []
  else []

namespace Stands

variable {query : String}

theorem shown_nil (s : Section) (query : String) : s.shown query [] = [] := by
  simp [Section.shown, Controller.fragments]

/-- The documents that a free panel has are those that its last request gave. -/
theorem getD_cache (h : p.Stands k s texts numbers) (hw : p.waiters k = []) :
    s.controller.loader.cache.getD [] = p.obtained k numbers := by
  rw [obtained, hw, List.isEmpty_nil, if_pos rfl]
  cases hc : s.controller.loader.cache with
  | some docs =>
    obtain ⟨r, response, hr, hresponse, hgiven⟩ := h.cached docs hc
    rw [hr, Option.bind_some, hresponse, ← hgiven]
    rfl
  | none =>
    cases hr : numbers.getLast? with
    | none => rfl
    | some r =>
      obtain ⟨response, hresponse, hgiven⟩ := h.answered_of_free (fun _ _ hr => hr) hw r
        (List.mem_of_getLast? hr)
      rw [Option.bind_some, hresponse]
      exact (Classical.byContradiction fun hne => hgiven (fun h => hne h.symm) hc)

theorem displays_obtained (h : p.Stands k s texts numbers) (hp : p.Orderly)
    (hs : p.panels[k]? = some s) (ht : texts.getLast? = some query) :
    p.Displays s (s.shown query (p.obtained k numbers)) := by
  have hd := h.displays query ht
  cases hf : s.controller.inFlight with
  | false =>
    rw [hf] at hd
    rw [← h.getD_cache (hp.waiters_eq_nil hs hf)]
    exact hd
  | true =>
    have hbusy := hp.busy hs
    rw [hf] at hd hbusy
    have hne : (p.waiters k).isEmpty = false := by
      cases hw : p.waiters k with
      | nil =>
        rw [hw] at hbusy
        cases hbusy
      | cons t rest => rfl
    rw [obtained, hne, if_neg Bool.false_ne_true, shown_nil]
    exact hd

/-- A panel one of whose requests gave documents sends none. -/
theorem sent?_eq_none (h : p.Stands k s texts numbers) (hp : p.Orderly)
    (hs : p.panels[k]? = some s) (hm : ∀ options, m ≠ .event (.attach options)) {r : Nat}
    {response : Response} (hr : r ∈ numbers) (hresponse : p.response? r = some response)
    (hgiven : response.given ≠ []) : (Moment.mk p m).sent? k = none := by
  obtain ⟨c, -, hacts⟩ := Page.acts hp hm hs
  generalize (Moment.mk p m).taken? k = text at hacts
  generalize (Moment.mk p m).sent? k = number at hacts ⊢
  cases hacts with
  | rests | cuts | finds | answers => rfl
  | asks hf hshort hc =>
    obtain ⟨response', hresponse', hsome⟩ :=
      h.answered_of_free (fun _ _ hr => hr) (hp.waiters_eq_nil hs hf) r hr
    cases hresponse.symm.trans hresponse'
    exact absurd hc (hsome hgiven)

end Stands

end SearchPanel.Page
