import SearchPanel.Session.Source

/-!
# Requests at a source

* `Source.Waiting s`: a request waits at `s`, so `s` is a gate. A request that has to wait makes it
  so (`waiting_fetch_of_none`), and any other that comes then is refused at once
  (`fetch_of_waiting`).
* `calls?_fetch` and its like: a source that counts counts the requests, and nothing else.
-/

namespace SearchPanel.Source

variable {s : Source}

/-! ## Waiting requests -/

/-- A request waits. -/
def Waiting : Source → Prop
  | gated gate _ => gate.receiver = .waiting
  | fixed _ | scripted .. | file _ => False

/-- A second request is refused, and the first one waits on. -/
theorem fetch_of_waiting (h : s.Waiting) :
    (∃ e, s.fetch.1 = some (.error e)) ∧ s.fetch.2.Waiting := by
  cases s with
  | gated gate calls =>
    have hr : gate.receiver = .waiting := h
    simp only [fetch, Gate.fetch, hr]
    exact ⟨⟨_, rfl⟩, hr⟩
  | fixed docs => exact h.elim
  | scripted script calls => exact h.elim
  | file content => exact h.elim

theorem waiting_poll_of_none {gate : Gate} (h : gate.poll.1 = none) :
    gate.poll.2.receiver = .waiting := by
  unfold Gate.poll at h ⊢
  cases ha : gate.answer? with
  | none => rfl
  | some answer =>
    rw [ha] at h
    cases h

/-- Only a gate lets a request wait. -/
theorem waiting_fetch_of_none (h : s.fetch.1 = none) : s.fetch.2.Waiting := by
  cases s with
  | gated gate calls =>
    cases hr : gate.receiver with
    | free =>
      simp only [fetch, Gate.fetch, hr] at h ⊢
      exact waiting_poll_of_none h
    | waiting =>
      simp only [fetch, Gate.fetch, hr] at h
      cases h
    | gone =>
      simp only [fetch, Gate.fetch, hr] at h
      cases h
  | fixed docs => cases h
  | scripted script calls => cases script <;> cases h
  | file content => cases h

/-- A request that has to wait on waits on. -/
theorem Waiting.poll (hw : s.Waiting) (h : s.poll.1 = none) : s.poll.2.Waiting := by
  cases s with
  | gated gate calls => exact waiting_poll_of_none h
  | fixed docs => exact hw
  | scripted script calls => exact hw
  | file content => exact hw

theorem Waiting.release (h : s.Waiting) (docs : List Document) : (s.release docs).2.Waiting := by
  cases s with
  | gated gate calls =>
    have hr : gate.receiver = .waiting := h
    simp only [Source.release, Gate.release, Waiting]
    split <;> exact hr
  | fixed docs => exact h
  | scripted script calls => exact h
  | file content => exact h

theorem Waiting.giveUp (h : s.Waiting) : s.giveUp.2.Waiting := by
  cases s with
  | gated gate calls => exact h
  | fixed docs => exact h
  | scripted script calls => exact h
  | file content => exact h

theorem Waiting.replaceFile (h : s.Waiting) (content : Option StoredFile) :
    (s.replaceFile content).Waiting := by
  cases s with
  | file content => exact h.elim
  | gated gate calls => exact h
  | fixed docs => exact h
  | scripted script calls => exact h

/-! ## Counted requests -/

theorem calls?_fetch (s : Source) : s.fetch.2.calls? = s.calls?.map (· + 1) := by
  cases s with
  | scripted script calls => cases script <;> rfl
  | fixed docs => rfl
  | gated gate calls => rfl
  | file content => rfl

theorem calls?_poll (s : Source) : s.poll.2.calls? = s.calls? := by cases s <;> rfl

theorem calls?_abandon (s : Source) : s.abandon.calls? = s.calls? := by cases s <;> rfl

theorem calls?_release (s : Source) (docs : List Document) :
    (s.release docs).2.calls? = s.calls? := by
  cases s <;> rfl

theorem calls?_giveUp (s : Source) : s.giveUp.2.calls? = s.calls? := by cases s <;> rfl

theorem calls?_replaceFile (s : Source) (content : Option StoredFile) :
    (s.replaceFile content).calls? = s.calls? := by
  cases s <;> rfl

end SearchPanel.Source
