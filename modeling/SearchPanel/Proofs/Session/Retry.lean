import SearchPanel.Proofs.Session.Answered
import SearchPanel.Proofs.Session.Local

/-!
# Asking again until there are documents

A widget over a script of answers asks for the index with each query that is long enough, until an
answer has documents in it. These queries are numbered from `0`.

* `Script.firstFull?`: the place of the first answer that has documents.
* `Script.sent script n`, `Script.supply script n`: how many of the first `n` numbered queries ask the
  script, and the documents that are there after them.
* `Widget.Supplied script n w`: the widget `w` is as far as that. Each query leads on
  (`Supplied.tooShort`, `Supplied.next`), and so does every run of queries (`Supplied.run`).
* `asks_until_documents`: before the first answer with documents nothing is found; from then on
  everything is answered from these documents, and no other answer is looked at.
-/

namespace SearchPanel

/-! ## Scripts -/

/-- The answers that a source gives, one to each request. -/
abbrev Script := List (Except LoadError (List Document))

/-- The answer to a request has documents. -/
def Loader.brings : Except LoadError (List Document) → Bool
  | .ok docs => !docs.isEmpty
  | .error _ => false

theorem Loader.brings_iff {answer : Except LoadError (List Document)} :
    brings answer = true ↔ given answer ≠ [] := by
  rcases answer with e | docs <;> simp [brings, given]

namespace Script

/-- The place of the first answer that has documents. -/
def firstFull? (script : Script) : Option Nat := script.findIdx? Loader.brings

/-- The answer to the request with number `n`. -/
def answer (script : Script) (n : Nat) : Except LoadError (List Document) :=
  script[n]?.getD (.error (.network "script exhausted"))

/-- How many of the first `n` numbered queries ask the script: none after the first answer that has
documents. -/
def sent (script : Script) (n : Nat) : Nat :=
  match script.firstFull? with
  | some k => min n (k + 1)
  | none => n

/-- The documents that are there after `n` numbered queries. -/
def supply (script : Script) (n : Nat) : Option (List Document) :=
  match script.firstFull? with
  | some k => if k < n then some (Loader.given (script.answer k)) else none
  | none => none

variable {script : Script} {docs : List Document} {k n : Nat}

theorem sent_zero (script : Script) : script.sent 0 = 0 := by
  unfold sent
  cases script.firstFull? with
  | none => rfl
  | some k => exact Nat.zero_min _

theorem supply_zero (script : Script) : script.supply 0 = none := by
  unfold supply
  cases script.firstFull? <;> rfl

theorem supply_of_lt (hk : script.firstFull? = some k) (hlt : k < n) :
    script.supply n = some (Loader.given (script.answer k)) := by
  rw [supply, hk]
  exact if_pos hlt

theorem supply_eq_none (h : ∀ k, script.firstFull? = some k → n ≤ k) : script.supply n = none := by
  rw [supply]
  cases hk : script.firstFull? with
  | none => rfl
  | some k => exact if_neg (Nat.not_lt.2 (h k hk))

/-- The first answer that has documents. -/
theorem exists_of_firstFull? (hk : script.firstFull? = some k) :
    ∃ docs, script[k]? = some (.ok docs) ∧ docs ≠ [] ∧ Loader.given (script.answer k) = docs := by
  obtain ⟨hlt, hb, -⟩ := List.findIdx?_eq_some_iff_getElem.1 hk
  rw [answer, List.getElem?_eq_getElem hlt]
  have hne := Loader.brings_iff.1 hb
  cases ha : script[k] with
  | error e =>
    rw [ha] at hne
    exact absurd rfl hne
  | ok docs =>
    rw [ha] at hne
    exact ⟨docs, rfl, hne, rfl⟩

theorem given_answer_ne_nil (hk : script.firstFull? = some k) :
    Loader.given (script.answer k) ≠ [] := by
  obtain ⟨docs, -, hne, rfl⟩ := exists_of_firstFull? hk
  exact hne

/-- In front of the first answer that has documents none has. -/
theorem given_answer_eq_nil (h : ∀ k, script.firstFull? = some k → n < k) :
    Loader.given (script.answer n) = [] := by
  rw [answer]
  cases hn : script[n]? with
  | none => rfl
  | some a =>
    refine Classical.byContradiction fun hne => ?_
    have hb : Loader.brings a = true := Loader.brings_iff.2 hne
    cases hk : script.firstFull? with
    | none =>
      have hnone := List.findIdx?_eq_none_iff.1 hk a (List.mem_of_getElem? hn)
      cases hb.symm.trans hnone
    | some k =>
      obtain ⟨hlt, -, hbefore⟩ := List.findIdx?_eq_some_iff_getElem.1 hk
      obtain ⟨hlen, rfl⟩ := List.getElem?_eq_some_iff.1 hn
      exact hbefore n (h k hk) hb

/-- Where there are no documents yet, none of the answers in front has any. -/
theorem le_of_supply_eq_none (h : script.supply n = none) (hk : script.firstFull? = some k) :
    n ≤ k := by
  refine Nat.le_of_not_lt fun hlt => ?_
  cases h.symm.trans (supply_of_lt hk hlt)

theorem sent_of_supply_eq_none (h : script.supply n = none) :
    script.sent n = n ∧ script.sent (n + 1) = n + 1 := by
  unfold sent
  cases hk : script.firstFull? with
  | none => exact ⟨rfl, rfl⟩
  | some k =>
    have hle := le_of_supply_eq_none h hk
    exact ⟨Nat.min_eq_left (Nat.le_succ_of_le hle), Nat.min_eq_left (Nat.succ_le_succ hle)⟩

/-- Where there are no documents yet the next answer decides. -/
theorem supply_succ_of_eq_none (h : script.supply n = none) : script.supply (n + 1) =
    if Loader.given (script.answer n) = [] then none
    else some (Loader.given (script.answer n)) := by
  cases hk : script.firstFull? with
  | none =>
    have hnil := given_answer_eq_nil (n := n) fun k hk' => by cases hk.symm.trans hk'
    rw [if_pos hnil, supply, hk]
  | some k =>
    rw [supply, hk]
    show (if k < n + 1 then some (Loader.given (script.answer k)) else none) = _
    rcases Nat.lt_or_eq_of_le (le_of_supply_eq_none h hk) with hlt | rfl
    · have hnil := given_answer_eq_nil (n := n) fun k' hk' =>
        Option.some.inj (hk.symm.trans hk') ▸ hlt
      rw [if_neg (by omega), if_pos hnil]
    · rw [if_pos (Nat.lt_succ_self n), if_neg (given_answer_ne_nil hk)]

/-- Documents that are there stay, and the script is asked no more. -/
theorem supply_succ_of_eq_some (h : script.supply n = some docs) :
    script.supply (n + 1) = some docs ∧ script.sent (n + 1) = script.sent n := by
  unfold supply at h ⊢
  unfold sent
  cases hk : script.firstFull? with
  | none => simp [hk] at h
  | some k =>
    rw [hk] at h
    obtain ⟨hn, h⟩ := Option.ite_none_right_eq_some.1 h
    refine ⟨(if_pos (Nat.lt_succ_of_lt hn)).trans h, ?_⟩
    show min (n + 1) (k + 1) = min n (k + 1)
    omega

theorem fetch_scripted (script : Script) (n : Nat) :
    (Source.scripted (script.drop n) n).fetch =
      (some (script.answer n), .scripted (script.drop (n + 1)) (n + 1)) := by
  rw [answer]
  rcases Nat.lt_or_ge n script.length with hn | hn
  · rw [List.drop_eq_getElem_cons hn, List.getElem?_eq_getElem hn]
    rfl
  · rw [List.drop_eq_nil_of_le hn, List.drop_eq_nil_of_le (Nat.le_succ_of_le hn),
      List.getElem?_eq_none hn]
    rfl

end Script

theorem Loader.notices_receive (l l' : Loader) (answer : Except LoadError (List Document)) :
    (l.receive answer).2.2 = (l'.receive answer).2.2 := by
  rcases answer with e | _ | ⟨d, docs⟩ <;> rfl

/-! ## A widget over a script -/

variable {H : Type} {script : Script} {n : Nat}

namespace Widget

/-- The widget `w` has had `n` numbered queries. -/
structure Supplied (script : Script) (n : Nat) (w : Widget H) : Prop where
  source : w.source = .scripted (script.drop (script.sent n)) (script.sent n)
  cache : w.cache = script.supply n
  fetches : w.fetches = script.sent n
  free : w.inFlight = false

variable {w : Widget H} {text : String}

theorem supplied_zero (hsource : w.source = .scripted script 0) (hl : w.controller.loader = {})
    (hfree : w.inFlight = false) : w.Supplied script 0 := by
  refine ⟨?_, ?_, ?_, hfree⟩
  · rw [Script.sent_zero]
    exact hsource
  · rw [Script.supply_zero, Widget.cache, hl]
  · rw [Script.sent_zero, Widget.fetches, hl]

variable [Sub H]

/-- A query that is too short leaves the widget as far as it was, and asks nothing. -/
theorem Supplied.tooShort (h : w.Supplied script n) (hs : ¬ w.IsLong text) :
    w.start (.query text) =
      { result := some .tooShort, after := w.display clearing, calls := clearing } := by
  generalize hr : w.start (.query text) = r
  have hstart : w.Started (.query text) r := hr ▸ w.started (.query text)
  cases hstart with
  | dropped hf => cases h.free.symm.trans hf
  | tooShort hf hs => rfl
  | cached ha hc => exact absurd ha.2 hs
  | waits ha hc hl => exact absurd ha.2 hs
  | answered ha hc hl => exact absurd ha.2 hs

/-- A numbered query is answered at once, and leads on. -/
theorem Supplied.next (h : w.Supplied script n) (hs : w.IsLong text) :
    (w.start (.query text)).result =
        some (w.ending ((script.supply (n + 1)).getD []) (.query text)) ∧
      (w.start (.query text)).after.Supplied script (n + 1) ∧
      (script.supply n = none → (w.start (.query text)).notices =
        .fetching (n + 1) :: (w.controller.loader.receive (script.answer n)).2.2) := by
  generalize hr : w.start (.query text) = r
  have hstart : w.Started (.query text) r := hr ▸ w.started (.query text)
  cases hstart with
  | dropped hf => cases h.free.symm.trans hf
  | tooShort hf hs' => exact absurd hs hs'
  | @cached _ docs ha hc =>
    obtain ⟨hkept, hsent⟩ := Script.supply_succ_of_eq_some (h.cache.symm.trans hc)
    refine ⟨?_, ⟨?_, ?_, ?_, h.free⟩, fun hnone => ?_⟩
    · rw [hkept]
      rfl
    · rw [hsent]
      exact h.source
    · rw [hkept]
      exact hc
    · rw [hsent]
      exact h.fetches
    · cases hnone.symm.trans (h.cache.symm.trans hc)
  | waits ha hc hl =>
    rw [h.source, Script.fetch_scripted] at hl
    cases hl
  | @answered _ answer ha hc hl =>
    have hnone : script.supply n = none := h.cache.symm.trans hc
    obtain ⟨hsent, hsent'⟩ := Script.sent_of_supply_eq_none hnone
    have hkept := Script.supply_succ_of_eq_none hnone
    have hfetches : w.fetches = n := h.fetches.trans hsent
    have hfetch : w.source.fetch =
        (some (script.answer n), .scripted (script.drop (n + 1)) (n + 1)) := by
      rw [h.source, hsent, Script.fetch_scripted]
    rw [hfetch] at hl
    cases hl
    refine ⟨?_, ⟨?_, ?_, ?_, rfl⟩, fun _ => ?_⟩
    · rw [hkept]
      split
      · next hnil => rw [hnil]; rfl
      · rfl
    · rw [source_answered, hsent']
      exact congrArg Prod.snd hfetch
    · rw [cache_answered, hkept]
      split
      · exact (w.cache_ask _).trans hc
      · rfl
    · rw [fetches_answered, hsent', ← hfetches]
      exact w.fetches_ask _
    · rw [← hfetches]
      exact congrArg (_ :: ·) (Loader.notices_receive _ _ _)

end Widget

namespace Session

variable [Sub H] {s : Session H} {w : Widget H} {k : Nat}

/-! ## Queries one after the other -/

/-- Queries of widget `k`. -/
def asks (k : Nat) (queries : List String) : List (Step H) :=
  queries.map fun text => .start k (.query text)

/-- How many of some queries are long enough to be numbered. -/
def numbered (config : Config) (queries : List String) : Nat :=
  queries.countP fun text => config.minChars ≤ text.length

theorem numbered_cons (config : Config) (text : String) (queries : List String) :
    numbered config (text :: queries) =
      numbered config queries + if config.minChars ≤ text.length then 1 else 0 := by
  rw [numbered, List.countP_cons, numbered]
  simp only [decide_eq_true_eq]

/-- A query is what its widget makes of it. -/
theorem step_query_eq (hw : s.widgets[k]? = some w) (text : String) :
    (Moment.mk s (.start k (.query text))).reply =
        ((w.start (.query text)).result.map Reply.outcome).getD (.pending s.passes.length) ∧
      (Moment.mk s (.start k (.query text))).reaction.notices = (w.start (.query text)).notices ∧
      (s.step (.start k (.query text))).after.widgets[k]? = some (w.start (.query text)).after := by
  have hf : s.IsFor k .load (.start k (.query text)) := rfl
  obtain ⟨hk, -⟩ := List.getElem?_eq_some_iff.1 hw
  rw [Moment.reply, Moment.reaction, step_eq hw hf]
  exact ⟨rfl, rfl, List.getElem?_set_self hk⟩

theorem supplied_run (hw : s.widgets[k]? = some w) (h : w.Supplied script n)
    (queries : List String) : ∃ w', (s.run (asks k queries)).widgets[k]? = some w' ∧
      w'.Supplied script (n + numbered w.controller.config queries) ∧
      w'.controller.config = w.controller.config := by
  induction queries generalizing s w n with
  | nil => exact ⟨w, hw, h, rfl⟩
  | cons text queries ih =>
    obtain ⟨-, -, hw₁⟩ := step_query_eq hw text
    have hconfig : (w.start (.query text)).after.controller.config = w.controller.config :=
      (w.started (.query text)).config
    by_cases hs : w.controller.config.minChars ≤ text.length
    · obtain ⟨w', hw', h', hconfig'⟩ := ih hw₁ (h.next hs).2.1
      refine ⟨w', hw', ?_, hconfig'.trans hconfig⟩
      rw [hconfig, Nat.add_assoc, Nat.add_comm 1] at h'
      rw [numbered_cons, if_pos hs]
      exact h'
    · have h₁ : (w.start (.query text)).after.Supplied script n := by
        rw [h.tooShort hs]
        exact ⟨h.source, h.cache, h.fetches, h.free⟩
      obtain ⟨w', hw', h', hconfig'⟩ := ih hw₁ h₁
      refine ⟨w', hw', ?_, hconfig'.trans hconfig⟩
      rw [hconfig] at h'
      rw [numbered_cons, if_neg hs]
      exact h'

/-! ## Main result -/

/-- **Asking again until there are documents.** Queries of a widget over a script come one after the
other; those that are long enough are numbered from `0`. Each ends at once. A short one asks for
nothing and leaves the source and the controller as they are. A numbered one in front of the first
answer that has documents, or any if there is none, is answered with nothing; behind the end of the
script its request fails. The one with the number of that answer and all later ones are answered
from its documents. So often as there were numbered queries, but never past that answer, the source
was asked, and what stands behind it in the script is still there. -/
theorem asks_until_documents (hw : s.widgets[k]? = some w) (hsource : w.source = .scripted script 0)
    (hl : w.controller.loader = {}) (hfree : w.inFlight = false) (queries : List String) :
    let config := w.controller.config
    (∀ i text, queries[i]? = some text →
      let number := numbered config (queries.take i)
      let m : Moment H := ⟨s.run (asks k (queries.take i)), .start k (.query text)⟩
      (text.length < config.minChars →
        m.reply = .outcome .tooShort ∧ m.reaction.notices = [] ∧
          ∃ w₁ w₂, m.before.widgets[k]? = some w₁ ∧ m.reaction.after.widgets[k]? = some w₂ ∧
            w₂.source = w₁.source ∧ w₂.controller = w₁.controller) ∧
      (config.minChars ≤ text.length →
        (∀ j, script.firstFull? = some j → j ≤ number → ∃ docs, script[j]? = some (.ok docs) ∧
          let fragments := render (search docs text config)
          m.reply = .outcome (.completed fragments.length fragments)) ∧
        ((∀ j, script.firstFull? = some j → number < j) →
          m.reply = .outcome (.completed 0 []) ∧
          (script.length ≤ number → m.reaction.notices =
            [.fetching (number + 1), .loadFailed (.network "script exhausted")])))) ∧
    ∃ w', (s.run (asks k queries)).widgets[k]? = some w' ∧
      let calls := match script.firstFull? with
        | some j => min (numbered config queries) (j + 1)
        | none => numbered config queries
      w'.source = .scripted (script.drop calls) calls ∧ w'.fetches = calls := by
  intro config
  have hrun := supplied_run hw (Widget.supplied_zero hsource hl hfree)
  refine ⟨fun i text _ => ?_, ?_⟩
  · intro number m
    obtain ⟨w₁, hw₁, h₁, hconfig⟩ := hrun (queries.take i)
    rw [Nat.zero_add] at h₁
    obtain ⟨hreply, hnotices, hafter⟩ := step_query_eq hw₁ text
    refine ⟨fun hs => ?_, fun hs => ?_⟩
    · have hshort : ¬ w₁.IsLong text := by
        rw [Widget.IsLong, hconfig]
        exact Nat.not_le.2 hs
      rw [h₁.tooShort hshort] at hreply hnotices hafter
      exact ⟨hreply, hnotices, w₁, _, hw₁, hafter, rfl, rfl⟩
    · have hlong : w₁.IsLong text := by rwa [Widget.IsLong, hconfig]
      obtain ⟨hresult, -, htold⟩ := h₁.next hlong
      rw [hresult] at hreply
      refine ⟨fun j hj hle => ?_, fun hnone => ?_⟩
      · obtain ⟨docs, hdocs, -, hgiven⟩ := Script.exists_of_firstFull? hj
        have hsupply : script.supply (number + 1) = some docs :=
          hgiven ▸ Script.supply_of_lt hj (Nat.lt_succ_of_le hle)
        refine ⟨docs, hdocs, hreply.trans ?_⟩
        rw [hsupply]
        show Reply.outcome (.completed (answers docs text w₁.controller.config).length
          (answers docs text w₁.controller.config)) = _
        rw [hconfig]
        rfl
      · have hempty : script.supply (number + 1) = none := Script.supply_eq_none hnone
        have hbefore : script.supply number = none :=
          Script.supply_eq_none fun j hj => Nat.le_of_lt (hnone j hj)
        refine ⟨hreply.trans ?_, fun hend => hnotices.trans ?_⟩
        · rw [hempty]
          show Reply.outcome (.completed (answers [] text w₁.controller.config).length
            (answers [] text w₁.controller.config)) = _
          rw [answers_nil]
          rfl
        · rw [htold hbefore, Script.answer, List.getElem?_eq_none hend]
          rfl
  · obtain ⟨w', hw', h', -⟩ := hrun queries
    rw [Nat.zero_add] at h'
    exact ⟨w', hw', h'.source, h'.fetches⟩

/-- A failure, an empty index, and then documents. The second query is too short to count, the last
two are answered from what the third request gave, and the fourth answer is not looked at. -/
theorem asks_until_documents_third :
    let docs : List Document := [{ title := "Alpha" }]
    let script : Script := [.error (.status 503), .ok [], .ok docs, .ok []]
    let s : Session Nat :=
      { widgets := [{ source := .scripted script 0, controller := {}, layout := ⟨500, 100⟩ }] }
    let queries := ["alpha", "al", "alpha", "alpha", "beta"]
    let fragments := render (search docs "beta" {})
    (Moment.mk (s.run (asks 0 (queries.take 2))) (.start 0 (.query "alpha"))).reply =
        .outcome (.completed 0 []) ∧
      (Moment.mk (s.run (asks 0 (queries.take 4))) (.start 0 (.query "beta"))).reply =
        .outcome (.completed fragments.length fragments) ∧
      ∃ w', (s.run (asks 0 queries)).widgets[0]? = some w' ∧ w'.source = .scripted [.ok []] 3 := by
  intro docs script s queries fragments
  have hfull : script.firstFull? = some 2 := rfl
  obtain ⟨heach, w', hw', hsource, -⟩ :=
    asks_until_documents (s := s) (k := 0) rfl rfl rfl rfl queries
  obtain ⟨-, hthird⟩ := heach 2 "alpha" rfl
  obtain ⟨-, hlast⟩ := heach 4 "beta" rfl
  refine ⟨?_, ?_, w', hw', hsource⟩
  · refine ((hthird (by decide)).2 fun j hj => ?_).1
    cases hfull.symm.trans hj
    decide
  · obtain ⟨docs', hdocs, hreply⟩ := (hlast (by decide)).1 2 hfull (by decide)
    cases hdocs
    exact hreply

end Session

end SearchPanel
