import SearchPanel.Proofs.Session.Local

/-!
# A widget by itself

* `rank own n`: the number of pass `n` among the passes of its widget alone.
* `Step.concerns own k`, `Step.alone`: the steps that concern widget `k`, and what they are where it
  is the only widget.
* `Session.Part s own k t`: the session `t` is what widget `k` is by itself in `s`. This stays so
  when the widget changes in both (`Part.passesAfter`), and when another one changes in `s`
  (`Part.passesAfter_other`).
-/

namespace SearchPanel

variable {H : Type}

/-! ## Numbers of passes -/

/-- How many of the passes in front of pass `n` are its own. -/
def rank (own : Nat → Bool) (n : Nat) : Nat := (List.range n).countP own

section Rank

variable {own : Nat → Bool} {m n : Nat}

theorem rank_succ (own : Nat → Bool) (n : Nat) :
    rank own (n + 1) = rank own n + if own n then 1 else 0 := by
  rw [rank, rank, List.range_succ, List.countP_append, List.countP_singleton]

theorem rank_mono (own : Nat → Bool) (h : m ≤ n) : rank own m ≤ rank own n := by
  induction h with
  | refl => exact Nat.le_refl _
  | step _ ih =>
    rw [rank_succ]
    omega

theorem rank_lt (hm : own m = true) (h : m < n) : rank own m < rank own n := by
  have hnext : rank own m + 1 ≤ rank own n := by
    have hle := rank_mono own (Nat.succ_le_of_lt h)
    rwa [Nat.succ_eq_add_one, rank_succ, if_pos hm] at hle
  exact hnext

/-- Different passes of a widget have different numbers. -/
theorem rank_inj (hm : own m = true) (hn : own n = true) : rank own m = rank own n ↔ m = n := by
  refine ⟨fun h => ?_, fun h => h ▸ rfl⟩
  rcases Nat.lt_trichotomy m n with hlt | heq | hlt
  · exact absurd h (Nat.ne_of_lt (rank_lt hm hlt))
  · exact heq
  · exact absurd h (Nat.ne_of_gt (rank_lt hn hlt))

end Rank

/-! ## What concerns a widget -/

/-- The step concerns widget `k`: it is for the widget, or for one of its own passes. -/
def Step.concerns (own : Nat → Bool) (k : Nat) : Step H → Bool
  | .poll n | .abandon n => own n
  | .start l _ | .release l _ | .giveUp l | .adjust l | .resize l _ | .replaceFile l _ => l = k

/-- The step where its widget is the only one and its passes have other numbers. -/
def Step.alone (number : Nat → Nat) : Step H → Step H
  | .start _ work => .start 0 work
  | .poll n => .poll (number n)
  | .abandon n => .abandon (number n)
  | .release _ docs => .release 0 docs
  | .giveUp _ => .giveUp 0
  | .adjust _ => .adjust 0
  | .resize _ container => .resize 0 container
  | .replaceFile _ content => .replaceFile 0 content

/-- The number of the pass that waits now. -/
def Reply.pending? : Reply H → Option Nat
  | .pending n => some n
  | .outcome _ | .noSuchPass | .abandoned _ | .sent _ | .gaveUp _ | .applied _ | .done
  | .noSuchWidget => none

/-- The reply with another number for the pass that waits. -/
def Reply.renumber (number : Nat → Nat) : Reply H → Reply H
  | .pending n => .pending (number n)
  | r => r

theorem Reply.renumber_of_pending? {r : Reply H} (h : r.pending? = none) (number : Nat → Nat) :
    r.renumber number = r := by
  cases r <;> first | rfl | cases h

theorem Reply.renumber_id (r : Reply H) : r.renumber id = r := by cases r <;> rfl

variable {st : Step H} {waits : Bool}

theorem Step.begun?_alone (number : Nat → Nat) :
    (st.alone number).begun? waits = st.begun? waits := by
  cases st <;> rfl

theorem Step.gone?_alone (number : Nat → Nat) :
    (st.alone number).gone? waits = (st.gone? waits).map number := by
  cases st with
  | poll n => cases waits <;> rfl
  | start l work | abandon n | release l docs | giveUp l | adjust l | resize l c
  | replaceFile l c => rfl

theorem Step.pass?_eq_some_of_gone? {n : Nat} (h : st.gone? waits = some n) :
    st.pass? = some n := by
  cases st with
  | poll m =>
    rw [gone?] at h
    split at h
    · cases h
    · exact h
  | abandon m => exact h
  | start l work | release l docs | giveUp l | adjust l | resize l c | replaceFile l c => cases h

namespace Session

variable {s t : Session H} {w : Widget H} {work : Work} {own : Nat → Bool} {k l : Nat}

/-! ## A widget by itself -/

/-- The session `t` is what widget `k` is by itself in `s`, where its passes have other numbers. -/
structure Part (s : Session H) (own : Nat → Bool) (k : Nat) (t : Session H) : Prop where
  widget : ∃ w, s.widgets[k]? = some w ∧ t.widgets[0]? = some w
  pass : ∀ n, own n = true → t.pass? (rank own n) = (s.pass? n).map fun p => ⟨0, p.work⟩
  mine : ∀ n p, s.pass? n = some p → (own n = true ↔ p.widget = k)
  length : t.passes.length = rank own s.passes.length

theorem Part.widget_eq (h : s.Part own k t) : s.widgets[k]? = t.widgets[0]? := by
  obtain ⟨w, hw, hw'⟩ := h.widget
  rw [hw, hw']

theorem Part.of_passes_eq_nil (hw : s.widgets[k]? = some w) (hp : s.passes = []) :
    s.Part own k { widgets := [w] } := by
  have hnone : ∀ n, s.pass? n = none := fun n => by rw [pass?, hp]; rfl
  refine ⟨⟨w, hw, rfl⟩, fun n _ => ?_, fun n p h => ?_, ?_⟩
  · rw [hnone]
    rfl
  · cases (hnone n).symm.trans h
  · rw [hp]
    rfl

/-- A step that concerns the widget polls or gives up a pass of it, or one that has ended. -/
theorem Part.isFor_or_gone (h : s.Part own k t) (hc : st.concerns own k = true) :
    (∃ work, s.IsFor k work st) ∨
      ∃ n, (st = .poll n ∨ st = .abandon n) ∧ own n = true ∧ s.pass? n = none := by
  have hpass : ∀ n, own n = true → (∃ work, s.pass? n = some ⟨k, work⟩) ∨ s.pass? n = none := by
    intro n hn
    cases hp : s.pass? n with
    | none => exact .inr rfl
    | some p =>
      obtain ⟨j, work⟩ := p
      obtain rfl : j = k := (h.mine n _ hp).1 hn
      exact .inl ⟨work, rfl⟩
  cases st with
  | poll n =>
    rcases hpass n hc with ⟨work, hp⟩ | hp
    · exact .inl ⟨work, hp⟩
    · exact .inr ⟨n, .inl rfl, hc, hp⟩
  | abandon n =>
    rcases hpass n hc with ⟨work, hp⟩ | hp
    · exact .inl ⟨work, hp⟩
    · exact .inr ⟨n, .inr rfl, hc, hp⟩
  | start j work | release j docs | giveUp j | adjust j | resize j c | replaceFile j c =>
    have hj : j = k := of_decide_eq_true hc
    exact .inl ⟨.load, hj⟩

theorem Part.isFor_alone (h : s.Part own k t) (hf : s.IsFor k work st) :
    t.IsFor 0 work (st.alone (rank own)) := by
  cases st with
  | poll n | abandon n =>
    have hp : s.pass? n = some ⟨k, work⟩ := hf
    refine (h.pass n ((h.mine n _ hp).2 rfl)).trans ?_
    rw [hp]
    rfl
  | start j work | release j docs | giveUp j | adjust j | resize j c | replaceFile j c => rfl

/-- What a step of the widget leaves is again what the widget is by itself. -/
theorem Part.passesAfter (h : s.Part own k t) (hf : s.IsFor k work st) (waits : Bool)
    (hbegun : ∀ new, st.begun? waits = some new → own s.passes.length = true) (w : Widget H) :
    (Session.mk (s.widgets.set k w) (s.passesAfter k waits st)).Part own k
      (Session.mk (t.widgets.set 0 w) (t.passesAfter 0 waits (st.alone (rank own)))) := by
  obtain ⟨w₀, hw, hw'⟩ := h.widget
  obtain ⟨hk, -⟩ := List.getElem?_eq_some_iff.1 hw
  obtain ⟨h0, -⟩ := List.getElem?_eq_some_iff.1 hw'
  have hgone : ∀ {n}, st.gone? waits = some n → own n = true := fun hn =>
    (h.mine _ _ (hf.pass? (Step.pass?_eq_some_of_gone? hn))).2 rfl
  refine ⟨⟨w, List.getElem?_set_self hk, List.getElem?_set_self h0⟩, fun n hn => ?_,
    fun n p hp => ?_, ?_⟩
  · have hpass := h.pass n hn
    rw [pass?_after, pass?_after, Step.begun?_alone, Step.gone?_alone, h.length]
    by_cases hnew : n = s.passes.length
    · subst hnew
      rw [if_pos rfl, if_pos rfl, Option.map_map]
      rfl
    · have hends : (st.gone? waits).map (rank own) = some (rank own n) ↔
          st.gone? waits = some n := by
        rw [Option.map_eq_some_iff]
        constructor
        · rintro ⟨m, hm, hrank⟩
          rwa [← (rank_inj (hgone hm) hn).1 hrank]
        · exact fun hm => ⟨n, hm, rfl⟩
      rw [if_neg hnew]
      simp only [hends]
      cases hb : st.begun? waits with
      | some new =>
        have hne : rank own n ≠ rank own s.passes.length := fun heq =>
          hnew ((rank_inj hn (hbegun new hb)).1 heq)
        rw [if_neg hne, hpass]
        split <;> rfl
      | none =>
        -- Nothing new waits, so there is no pass with the next number on either side.
        rw [Option.map_none, hpass]
        split
        · next heq =>
          rw [← h.length] at heq
          have hout : t.pass? (rank own n) = none := heq ▸ pass?_length
          rw [hpass] at hout
          split
          · rfl
          · exact hout.symm
        · split <;> rfl
  · rw [pass?_after] at hp
    split at hp
    · next hnew =>
      obtain ⟨new, hb, rfl⟩ := Option.map_eq_some_iff.1 hp
      exact ⟨fun _ => rfl, fun _ => hnew ▸ hbegun new hb⟩
    · split at hp
      · cases hp
      · exact h.mine n p hp
  · show (t.passesAfter 0 waits (st.alone (rank own))).length =
      rank own (s.passesAfter k waits st).length
    rw [length_passesAfter, length_passesAfter, Step.begun?_alone, h.length]
    cases hb : st.begun? waits with
    | none => rfl
    | some new =>
      rw [Option.toList_some, List.length_singleton, rank_succ, if_pos (hbegun new hb)]

/-- The widget takes no notice of what is done to another one. -/
theorem Part.passesAfter_other (h : s.Part own k t) (hl : l ≠ k) (hf : s.IsFor l work st)
    (hbegun : ∀ new, st.begun? waits = some new → own s.passes.length = false) (w : Widget H) :
    (Session.mk (s.widgets.set l w) (s.passesAfter l waits st)).Part own k t := by
  obtain ⟨w₀, hw, hw'⟩ := h.widget
  have hgone : ∀ {n}, st.gone? waits = some n → own n ≠ true := fun hn how =>
    hl ((h.mine _ _ (hf.pass? (Step.pass?_eq_some_of_gone? hn))).1 how)
  refine ⟨⟨w₀, (List.getElem?_set_ne hl).trans hw, hw'⟩, fun n hn => ?_, fun n p hp => ?_, ?_⟩
  · rw [h.pass n hn, pass?_after, if_neg (c := st.gone? waits = some n) fun hm => hgone hm hn]
    split
    · next hnew =>
      subst hnew
      rw [pass?_length]
      cases hb : st.begun? waits with
      | none => rfl
      | some new => cases hn.symm.trans (hbegun new hb)
    · rfl
  · rw [pass?_after] at hp
    split at hp
    · next hnew =>
      subst hnew
      obtain ⟨new, hb, rfl⟩ := Option.map_eq_some_iff.1 hp
      rw [hbegun new hb]
      exact ⟨nofun, fun h => absurd h hl⟩
    · split at hp
      · cases hp
      · exact h.mine n p hp
  · show t.passes.length = rank own (s.passesAfter l waits st).length
    rw [length_passesAfter, h.length]
    cases hb : st.begun? waits with
    | none => rfl
    | some new =>
      rw [Option.toList_some, List.length_singleton, rank_succ, hbegun new hb]
      rfl

end Session

variable [Sub H]

theorem Widget.act_alone (w : Widget H) (work : Work) (st : Step H) (number : Nat → Nat) :
    w.act work (st.alone number) = w.act work st := by
  cases st <;> rfl

/-- What a widget gives at once has no number in it. -/
theorem Widget.renumber_act {w : Widget H} {work : Work} {r : Reply H}
    (h : (w.act work st).result = some r) (number : Nat → Nat) : r.renumber number = r := by
  refine Reply.renumber_of_pending? ?_ number
  cases st with
  | start l work =>
    obtain ⟨o, -, rfl⟩ := Option.map_eq_some_iff.1 h
    rfl
  | poll n =>
    obtain ⟨o, -, rfl⟩ := Option.map_eq_some_iff.1 h
    rfl
  | abandon n | release l docs | giveUp l | adjust l | resize l c | replaceFile l c =>
    cases h
    rfl

end SearchPanel
