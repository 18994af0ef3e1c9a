import SearchPanel.Proofs.Session.Commute

/-!
# Widgets do not interfere

* `Moment.seen k`: what a moment shows of widget `k`: reply, notices, calls, and the widget
  afterwards.
* `Session.owns moments k n`: pass `n` of a run is one of widget `k`. No two widgets have a pass with
  the same number (`begins_unique`).
* `Part.step`, `Part.step_other`: a step that concerns a widget shows what it does where the widget
  is alone, and no other step shows anything of it.
* `Session.Commute s st st'`: two steps give and leave the same in either order, but for the numbers
  of the passes that they let wait.
* `seen_eq_seen_alone`: a widget among others does what it does alone, and steps of different widgets
  commute.
-/

namespace SearchPanel

variable {H : Type}

variable [Sub H] {st : Step H}

/-- With the moment work of widget `k` begins to wait as pass `n`. -/
def Moment.begins (k n : Nat) (m : Moment H) : Bool :=
  (m.step.work? k).isSome && m.reply.pending? = some n

/-- What a moment shows of a widget. -/
structure Seen (H : Type) where
  reply : Reply H
  notices : List Notice
  calls : List (ViewCall H)
  after : Option (Widget H)

/-- What a moment shows of widget `k`, with other numbers for its passes. -/
def Moment.seen (k : Nat) (number : Nat → Nat) (m : Moment H) : Seen H :=
  { reply := m.reply.renumber number
    notices := m.reaction.notices
    calls := m.reaction.calls
    after := m.reaction.after.widgets[k]? }

namespace Session

variable {s t new : Session H} {w : Widget H} {work : Work} {own : Nat → Bool} {k l m n : Nat}
  {steps : List (Step H)}

/-- Pass `n` of the run is one of widget `k`. -/
def owns (moments : List (Moment H)) (k n : Nat) : Bool := moments.any (·.begins k n)

/-- The steps of a run that concern a widget, as steps of this widget alone. -/
def stepsAlone (own : Nat → Bool) (k : Nat) (steps : List (Step H)) : List (Step H) :=
  (steps.filter (·.concerns own k)).map (·.alone (rank own))

/-! ## Passes that begin -/

/-- A pass begins to wait with a start that has no result, and gets the next number. -/
theorem begins_start_iff (hw : s.widgets[l]? = some w) :
    (Moment.mk s (.start l work)).begins k n = true ↔
      l = k ∧ (w.start work).result = none ∧ s.passes.length = n := by
  have hf : s.IsFor l .load (.start l work) := rfl
  have hreply : (Moment.mk s (.start l work)).reply =
      (w.act .load (.start l work)).result.getD (.pending s.passes.length) :=
    congrArg Reaction.result (step_eq hw hf)
  rw [Moment.begins, hreply, Widget.act]
  cases (w.start work).result <;> simp [Step.work?, Reply.pending?]

theorem begins_of_begun? (hw : s.widgets[k]? = some w) (hf : s.IsFor k work st) {new : Work}
    (hb : st.begun? (w.act work st).result.isNone = some new) :
    (Moment.mk s st).begins k s.passes.length = true := by
  cases st with
  | start j work' =>
    obtain rfl : j = k := hf
    refine (begins_start_iff hw).2 ⟨rfl, ?_, rfl⟩
    cases hr : (w.start work').result with
    | none => rfl
    | some o =>
      rw [Widget.act, hr] at hb
      cases hb
  | poll j | abandon j | release j docs | giveUp j | adjust j | resize j c | replaceFile j c =>
    cases hb

/-- After a pass that begins the next one gets a greater number. -/
theorem number_of_begins (h : (Moment.mk s st).begins k n = true) :
    n = s.passes.length ∧ (s.step st).after.passes.length = n + 1 := by
  cases st with
  | start j work =>
    cases hw : s.widgets[j]? with
    | none => simp [Moment.begins, Moment.reply, Moment.reaction, step, start, hw, Reply.pending?] at h
    | some w =>
      obtain ⟨rfl, hr, rfl⟩ := (begins_start_iff hw).1 h
      have hf : s.IsFor j .load (.start j work) := rfl
      rw [step_eq hw hf, length_passesAfter, Widget.act, hr]
      exact ⟨rfl, rfl⟩
  | poll j | abandon j | release j docs | giveUp j | adjust j | resize j c | replaceFile j c =>
    cases h

theorem length_passes_le_of_mem_history {m : Moment H} (hm : m ∈ s.history steps) :
    s.passes.length ≤ m.before.passes.length := by
  induction steps generalizing s with
  | nil => cases hm
  | cons st steps ih =>
    rcases List.mem_cons.1 hm with rfl | hm
    · exact Nat.le_refl _
    · exact Nat.le_trans (length_passes_le_step s st) (ih hm)

/-- No two widgets have a pass with the same number. -/
theorem begins_unique {m m' : Moment H} (hm : m ∈ s.history steps) (hm' : m' ∈ s.history steps)
    (hb : m.begins k n = true) (hb' : m'.begins l n = true) : k = l := by
  have hlater : ∀ {s : Session H} {st : Step H} {steps : List (Step H)} {m : Moment H} {i j : Nat},
      (Moment.mk s st).begins i n = true → m ∈ (s.step st).after.history steps →
      m.begins j n = true → False := by
    intro s st steps m i j hb hm hb'
    have hlen := (number_of_begins hb).2 ▸ length_passes_le_of_mem_history hm
    have := (number_of_begins hb').1
    omega
  induction steps generalizing s with
  | nil => cases hm
  | cons st steps ih =>
    rcases List.mem_cons.1 hm with rfl | hm <;> rcases List.mem_cons.1 hm' with rfl | hm'
    · rw [Moment.begins, Bool.and_eq_true] at hb hb'
      cases st with
      | start j work =>
        have hk : j = k := by simpa [Step.work?] using hb.1
        have hl : j = l := by simpa [Step.work?] using hb'.1
        exact hk.symm.trans hl
      | poll j | abandon j | release j docs | giveUp j | adjust j | resize j c
      | replaceFile j c => cases hb.1
    · exact (hlater hb hm' hb').elim
    · exact (hlater hb' hm hb).elim
    · exact ih hm hm'

theorem owns_iff_of_begins {m : Moment H} (hm : m ∈ s.history steps)
    (hb : m.begins l n = true) : owns (s.history steps) k n = true ↔ l = k := by
  rw [owns, List.any_eq_true]
  constructor
  · rintro ⟨m', hm', hb'⟩
    exact begins_unique hm hm' hb hb'
  · rintro rfl
    exact ⟨m, hm, hb⟩

/-! ## Steps of a widget and of others -/

/-- A step that concerns the widget shows and leaves what it does where the widget is alone. -/
theorem Part.step (h : s.Part own k t) (hc : st.concerns own k = true)
    (hown : ∀ l n, (Moment.mk s st).begins l n = true → (own n = true ↔ l = k)) :
    (Moment.mk s st).seen k (rank own) = (Moment.mk t (st.alone (rank own))).seen 0 id ∧
      (s.step st).after.Part own k (t.step (st.alone (rank own))).after := by
  rcases h.isFor_or_gone hc with ⟨work, hf⟩ | ⟨n, hst, hn, hp⟩
  · obtain ⟨w, hw, hw'⟩ := h.widget
    obtain ⟨hk, -⟩ := List.getElem?_eq_some_iff.1 hw
    obtain ⟨h0, -⟩ := List.getElem?_eq_some_iff.1 hw'
    have hpart := h.passesAfter hf (w.act work st).result.isNone
      (fun new hb => (hown k _ (begins_of_begun? hw hf hb)).2 rfl) (w.act work st).after
    rw [Moment.seen, Moment.seen, Moment.reply, Moment.reply, Moment.reaction, Moment.reaction,
      step_eq hw hf, step_eq hw' (h.isFor_alone hf), Widget.act_alone]
    refine ⟨?_, hpart⟩
    rw [List.getElem?_set_self hk, List.getElem?_set_self h0, Reply.renumber_id]
    congr 1
    cases hr : (w.act work st).result with
    | some r => exact Widget.renumber_act hr _
    | none =>
      show Reply.pending (rank own (s.number st)) = .pending (t.number (st.alone (rank own)))
      rw [number, number]
      cases st <;> first | rfl | exact congrArg Reply.pending h.length.symm
  · have hp' : t.pass? (rank own n) = none := by rw [h.pass n hn, hp]; rfl
    obtain ⟨w, hw, hw'⟩ := h.widget
    rcases hst with rfl | rfl
    · simp [Moment.seen, Moment.reply, Moment.reaction, Session.step, Step.alone, poll, hp, hp',
        Reply.renumber, hw, hw', h]
    · simp [Moment.seen, Moment.reply, Moment.reaction, Session.step, Step.alone, abandon, hp,
        hp', Reply.renumber, hw, hw', h]

/-- A step that does not concern the widget leaves it, and what it is by itself. -/
theorem Part.step_other (h : s.Part own k t) (hc : st.concerns own k = false)
    (hown : ∀ l n, (Moment.mk s st).begins l n = true → (own n = true ↔ l = k)) :
    (s.step st).after.Part own k t := by
  by_cases hex : ∃ l w work, s.widgets[l]? = some w ∧ s.IsFor l work st
  · obtain ⟨l, w, work, hw, hf⟩ := hex
    have hl : l ≠ k := by
      rintro rfl
      cases st with
      | poll n | abandon n => cases hc.symm.trans ((h.mine n _ hf).2 rfl)
      | start j work | release j docs | giveUp j | adjust j | resize j c | replaceFile j c =>
        have hj : ¬ j = l := of_decide_eq_false hc
        exact hj hf
    rw [step_eq hw hf]
    refine h.passesAfter_other hl hf (fun new hb => ?_) _
    have hiff := hown l _ (begins_of_begun? hw hf hb)
    exact Bool.eq_false_iff.2 fun how => hl (hiff.1 how)
  · have hsame := after_step_of_not_isFor fun l w work hw hf => hex ⟨l, w, work, hw, hf⟩
    exact hsame.symm ▸ h

/-- A run shows of a widget what the steps that concern it show where it is alone; the others leave
it as it is. -/
theorem Part.history (h : s.Part own k t) (hown : ∀ m ∈ s.history steps, ∀ l n,
      m.begins l n = true → (own n = true ↔ l = k)) :
    ((s.history steps).filter (·.step.concerns own k)).map (·.seen k (rank own)) =
        (t.history (stepsAlone own k steps)).map (·.seen 0 id) ∧
      (∀ m ∈ s.history steps, m.step.concerns own k = false →
        m.reaction.after.widgets[k]? = m.before.widgets[k]?) ∧
      (s.run steps).Part own k (t.run (stepsAlone own k steps)) := by
  induction steps generalizing s t with
  | nil => exact ⟨rfl, nofun, h⟩
  | cons st steps ih =>
    have hhead := hown ⟨s, st⟩ (.head _)
    have htail := fun m hm => hown m (.tail _ hm)
    cases hc : st.concerns own k with
    | true =>
      obtain ⟨hseen, hpart⟩ := h.step hc hhead
      obtain ⟨hrest, hkept, hend⟩ := ih hpart htail
      simp only [Session.history, stepsAlone, List.filter_cons, hc, if_true, List.map_cons]
      refine ⟨congrArg₂ List.cons hseen hrest, fun m hm hcm => ?_, hend⟩
      rcases List.mem_cons.1 hm with rfl | hm
      · cases hc.symm.trans hcm
      · exact hkept m hm hcm
    | false =>
      have hpart := h.step_other hc hhead
      obtain ⟨hrest, hkept, hend⟩ := ih hpart htail
      simp only [Session.history, stepsAlone, List.filter_cons, hc, Bool.false_eq_true, if_false]
      refine ⟨hrest, fun m hm hcm => ?_, hend⟩
      rcases List.mem_cons.1 hm with rfl | hm
      · exact hpart.widget_eq.trans h.widget_eq.symm
      · exact hkept m hm hcm

/-! ## Main result -/

/-- **Widgets do not interfere.** Take of any run the steps that concern one widget: those on the
widget itself and those that poll or give up its own passes. Where the widget is the only one they
have, one by one, the same replies but for the numbers of its passes, the same notices and calls, and
they leave the same widget. The other steps of the run leave the widget as it is. At each time of the
run a step for the widget and one for another one can be taken in either order. -/
theorem seen_eq_seen_alone (hp : new.passes = []) (hw : new.widgets[k]? = some w)
    (steps : List (Step H)) :
    let own := owns (new.history steps) k
    let alone : Session H := { widgets := [w] }
    ((new.history steps).filter (·.step.concerns own k)).map (·.seen k (rank own)) =
        (alone.history (stepsAlone own k steps)).map (·.seen 0 id) ∧
      (new.run steps).widgets[k]? = (alone.run (stepsAlone own k steps)).widgets[0]? ∧
      (∀ m ∈ new.history steps, m.step.concerns own k = false →
        m.reaction.after.widgets[k]? = m.before.widgets[k]?) ∧
      ∀ st st' l w', l ≠ k → (new.run steps).target? st = some k →
        (new.run steps).target? st' = some l → (new.run steps).widgets[l]? = some w' →
        (new.run steps).Commute st st' := by
  intro own alone
  have hpart : new.Part own k alone := .of_passes_eq_nil hw hp
  obtain ⟨hseen, hkept, hend⟩ := hpart.history fun m hm l n => owns_iff_of_begins hm
  refine ⟨hseen, hend.widget_eq, hkept, fun st st' l w' hl ht ht' hw' => ?_⟩
  obtain ⟨w, hw, -⟩ := hend.widget
  obtain ⟨work, hf⟩ := exists_isFor_of_target? ht
  obtain ⟨work', hf'⟩ := exists_isFor_of_target? ht'
  exact commute_of_isFor hl hw hf hw' hf'

/-- Queries of two widgets wait at gates. The second one has pass `1`, which is its pass `0` where it
is alone. -/
theorem seen_eq_seen_alone_gated :
    let w : Widget Nat := { source := .gated {} 0, controller := {}, layout := ⟨500, 100⟩ }
    let two : Session Nat := { widgets := [w, w] }
    let alone : Session Nat := { widgets := [w] }
    let steps : List (Step Nat) := [.start 0 (.query "gate"), .start 1 (.query "late"),
      .release 0 [{ title := "Gates" }], .poll 1, .poll 0, .abandon 1]
    let own := owns (two.history steps) 1
    stepsAlone own 1 steps = [.start 0 (.query "late"), .poll 0, .abandon 0] ∧
      ((two.history steps).filter (·.step.concerns own 1)).map (·.seen 1 (rank own)) =
        (alone.history (stepsAlone own 1 steps)).map (·.seen 0 id) ∧
      two.Commute (.start 1 (.query "late")) (.start 0 (.query "gate")) := by
  intro w two alone steps own
  have hw : two.widgets[1]? = some w := rfl
  obtain ⟨hseen, -, -, -⟩ := seen_eq_seen_alone rfl hw steps
  obtain ⟨-, -, -, hcommute⟩ := seen_eq_seen_alone rfl hw []
  exact ⟨rfl, hseen, hcommute _ _ 0 w (by decide) rfl rfl rfl⟩

end Session

end SearchPanel
