import SearchPanel.Proofs.Session.Run

/-!
# A step is the deed of one widget

* `Session.IsFor s k work st`: the step is for widget `k`; `work` is what the pass is for that it
  polls or gives up.
* `Widget.act w work st`: what the widget makes of such a step. Neither its number nor that of a pass
  has a part in it.
* `step_eq`: the step puts this reaction in the widget's place, and adds or ends at most one pass
  (`pass?_after`). All that is said of single widgets follows from this one equation.
-/

namespace SearchPanel

variable {H : Type}

/-! ## Passes that a step adds or ends -/

/-- The pass that a step polls or gives up. -/
def Step.pass? : Step H → Option Nat
  | .poll n | .abandon n => some n
  | .start .. | .release .. | .giveUp _ | .adjust _ | .resize .. | .replaceFile .. => none

/-- The pass that the step ends, told by whether what it does has to wait. -/
def Step.gone? (waits : Bool) : Step H → Option Nat
  | .poll n => if waits then none else some n
  | .abandon n => some n
  | .start .. | .release .. | .giveUp _ | .adjust _ | .resize .. | .replaceFile .. => none

/-- The work that begins to wait with the step. -/
def Step.begun? (waits : Bool) : Step H → Option Work
  | .start _ work => if waits then some work else none
  | .poll _ | .abandon _ | .release .. | .giveUp _ | .adjust _ | .resize .. | .replaceFile .. => none

namespace Session

variable {s : Session H} {st : Step H} {work : Work} {k n : Nat}

/-- The passes without the one that the step ends. -/
def kept (s : Session H) (waits : Bool) (st : Step H) : List (Option Pass) :=
  (st.gone? waits).elim s.passes fun n => s.passes.set n none

/-- The passes after a step of widget `k`. -/
def passesAfter (s : Session H) (k : Nat) (waits : Bool) (st : Step H) : List (Option Pass) :=
  s.kept waits st ++ (st.begun? waits).toList.map fun work => some ⟨k, work⟩

theorem length_kept (s : Session H) (waits : Bool) (st : Step H) :
    (s.kept waits st).length = s.passes.length := by
  rw [kept]
  cases st.gone? waits with
  | none => rfl
  | some n => exact List.length_set

theorem getElem?_kept (s : Session H) (waits : Bool) (st : Step H) (n : Nat) :
    ((s.kept waits st)[n]?).join = if st.gone? waits = some n then none else s.pass? n := by
  rw [kept]
  cases st.gone? waits with
  | none => rfl
  | some m =>
    rw [Option.elim_some, pass?]
    by_cases hm : m = n
    · subst hm
      rw [if_pos rfl, List.getElem?_set_self']
      cases s.passes[m]? <;> rfl
    · rw [if_neg fun h => hm (Option.some.inj h), List.getElem?_set_ne hm]

theorem length_passesAfter (s : Session H) (k : Nat) (waits : Bool) (st : Step H) :
    (s.passesAfter k waits st).length = s.passes.length + (st.begun? waits).toList.length := by
  rw [passesAfter, List.length_append, length_kept, List.length_map]

theorem pass?_after (s : Session H) (widgets : List (Widget H)) (k : Nat) (waits : Bool)
    (st : Step H) (n : Nat) : (Session.mk widgets (s.passesAfter k waits st)).pass? n =
      if n = s.passes.length then (st.begun? waits).map (⟨k, ·⟩)
      else if st.gone? waits = some n then none else s.pass? n := by
  have hlen := s.length_kept waits st
  rw [pass?, passesAfter]
  rcases Nat.lt_trichotomy n s.passes.length with hn | rfl | hn
  · rw [if_neg (Nat.ne_of_lt hn), List.getElem?_append_left (hlen ▸ hn), getElem?_kept]
  · rw [if_pos rfl, List.getElem?_append_right (Nat.le_of_eq hlen), hlen, Nat.sub_self]
    cases st.begun? waits <;> rfl
  · have hout : s.passes[n]? = none := List.getElem?_eq_none (Nat.le_of_lt hn)
    rw [if_neg (Nat.ne_of_gt hn), pass?, hout, List.getElem?_eq_none, Option.join_none, ite_self]
    have hone : (st.begun? waits).toList.length ≤ 1 := by cases st.begun? waits <;> simp
    rw [List.length_append, List.length_map, hlen]
    omega

/-! ## Steps for one widget -/

/-- The step is for widget `k`; if it polls or gives up a pass, `work` is what that is for. -/
def IsFor (s : Session H) (k : Nat) (work : Work) : Step H → Prop
  | .poll n | .abandon n => s.pass? n = some ⟨k, work⟩
  | .start l _ | .release l _ | .giveUp l | .adjust l | .resize l _ | .replaceFile l _ => l = k

theorem exists_isFor_of_target? (h : s.target? st = some k) : ∃ work, s.IsFor k work st := by
  cases st with
  | poll n | abandon n =>
    obtain ⟨⟨l, work⟩, hp, rfl⟩ := Option.map_eq_some_iff.1 h
    exact ⟨work, hp⟩
  | start l work | release l docs | giveUp l | adjust l | resize l c | replaceFile l c =>
    exact ⟨.load, Option.some.inj h⟩

theorem IsFor.target? (h : s.IsFor k work st) : s.target? st = some k := by
  cases st with
  | poll n | abandon n => exact (congrArg (Option.map _) h).trans rfl
  | start l work | release l docs | giveUp l | adjust l | resize l c | replaceFile l c =>
    exact congrArg some h

theorem IsFor.pass? (h : s.IsFor k work st) (hp : st.pass? = some n) :
    s.pass? n = some ⟨k, work⟩ := by
  cases st <;> cases hp <;> exact h

/-- The number that a pass has after the step if it waits. -/
def number (s : Session H) (st : Step H) : Nat := st.pass?.getD s.passes.length

end Session

variable [Sub H]

/-- What a widget makes of a step that is for it, without a result if it has to wait. If the step
polls or gives up a pass, `work` is what that is for. -/
def Widget.act (w : Widget H) (work : Work) : Step H → Reaction (Option (Reply H)) (Widget H) H
  | .start _ work => { w.start work with result := (w.start work).result.map .outcome }
  | .poll _ => { w.poll work with result := (w.poll work).result.map .outcome }
  | .abandon _ => { result := some (.abandoned true), after := w.abandon work }
  | .release _ docs =>
    { result := some (.sent (w.source.release docs).1)
      after := { w with source := (w.source.release docs).2 } }
  | .giveUp _ =>
    { result := some (.gaveUp w.source.giveUp.1), after := { w with source := w.source.giveUp.2 } }
  | .adjust _ => { w.adjust with result := some (.applied w.adjust.result) }
  | .resize _ container => { result := some .done, after := w.resize container }
  | .replaceFile _ content =>
    { result := some .done, after := { w with source := w.source.replaceFile content } }

namespace Session

variable {s : Session H} {w : Widget H} {st : Step H} {work : Work} {k n : Nat}

/-- A step is what its widget makes of it; the passes only keep what waits. -/
theorem step_eq (hw : s.widgets[k]? = some w) (hf : s.IsFor k work st) :
    s.step st =
      { result := (w.act work st).result.getD (.pending (s.number st))
        after :=
          { widgets := s.widgets.set k (w.act work st).after
            passes := s.passesAfter k (w.act work st).result.isNone st }
        calls := (w.act work st).calls
        notices := (w.act work st).notices } := by
  cases st with
  | start l work' =>
    obtain rfl : l = k := hf
    cases hr : (w.start work').result <;>
      simp [step, start, hw, hr, Widget.act, setWidget, passesAfter, kept, Step.gone?, Step.begun?,
        number, Step.pass?]
  | poll n =>
    have hp : s.pass? n = some ⟨k, work⟩ := hf
    cases hr : (w.poll work).result <;>
      simp [step, poll, hp, hw, hr, Widget.act, setWidget, endPass, passesAfter, kept, Step.gone?,
        Step.begun?, number, Step.pass?]
  | abandon n =>
    have hp : s.pass? n = some ⟨k, work⟩ := hf
    simp [step, abandon, hp, hw, Widget.act, setWidget, endPass, passesAfter, kept, Step.gone?,
      Step.begun?]
  | release l docs | giveUp l | adjust l | resize l c | replaceFile l c =>
    obtain rfl : l = k := hf
    simp [step, onWidget, hw, Widget.act, setWidget, passesAfter, kept, Step.gone?, Step.begun?]

/-- A step that is for no widget, or for one that is not there, changes nothing. -/
theorem after_step_of_not_isFor (h : ∀ k w work, s.widgets[k]? = some w → ¬ s.IsFor k work st) :
    (s.step st).after = s := by
  generalize hr : (s.step st).result = r, hs : (s.step st).after = s'
  have he : s.Event st r s' := hr ▸ hs ▸ event_step s st
  cases he with
  | noWidget ht hw => rfl
  | pollNone hp => rfl
  | abandonNone hp => rfl
  | changed hw hc =>
    obtain ⟨work, hf⟩ := exists_isFor_of_target? hc.target
    exact absurd hf (h _ _ _ hw)

/-- Numbers of passes are not given twice. -/
theorem length_passes_le_step (s : Session H) (st : Step H) :
    s.passes.length ≤ (s.step st).after.passes.length := by
  by_cases h : ∃ k w work, s.widgets[k]? = some w ∧ s.IsFor k work st
  · obtain ⟨k, w, work, hw, hf⟩ := h
    rw [step_eq hw hf, length_passesAfter]
    exact Nat.le_add_right _ _
  · have hsame := after_step_of_not_isFor fun k w work hw hf => h ⟨k, w, work, hw, hf⟩
    exact Nat.le_of_eq (congrArg (fun s : Session H => s.passes.length) hsame.symm)

end Session

end SearchPanel
