import Mathlib.Logic.Equiv.Basic
import SearchPanel.Proofs.Session.Part

/-!
# Steps of two widgets

* `Session.Commute s st st'`: the two steps give and leave the same in either order, but for the
  numbers of the passes that they let wait.
* `swapNew`: these other numbers. Where both steps let a pass wait, the two change places
  (`pass?_after_swap`).
* `commute_of_isFor`: steps of different widgets commute.
-/

namespace SearchPanel.Session

variable {H : Type} {s : Session H} {st st' : Step H} {w w' : Widget H} {work work' : Work}
  {k l n : Nat}

/-! ## Numbers of passes in either order -/

/-- The other numbers of the passes that two steps let wait: if both do, they change places. -/
def swapNew (count : Nat) : Option Work → Option Work → Equiv.Perm Nat
  | some _, some _ => Equiv.swap count (count + 1)
  | _, _ => Equiv.refl Nat

theorem swapNew_comm (count : Nat) (b b' : Option Work) :
    swapNew count b b' = swapNew count b' b := by
  cases b <;> cases b' <;> rfl

theorem swapNew_of_lt {count : Nat} (h : n < count) (b b' : Option Work) :
    swapNew count b b' n = n := by
  cases b with
  | none => rfl
  | some work =>
    cases b' with
    | none => rfl
    | some work' =>
      exact Equiv.swap_apply_of_ne_of_ne (Nat.ne_of_lt h) (Nat.ne_of_lt (Nat.lt_succ_of_lt h))

theorem swapNew_self (count : Nat) (work : Work) (b' : Option Work) :
    swapNew count (some work) b' count = count + b'.toList.length := by
  cases b' with
  | none => rfl
  | some work' => exact Equiv.swap_apply_left ..

/-! ## Passes in either order -/

/-- What another widget does leaves a step for the widget that it is for. -/
theorem IsFor.after_other (hl : l ≠ k) (hf : s.IsFor k work st) (hf' : s.IsFor l work' st')
    (widgets : List (Widget H)) (waits : Bool) :
    (Session.mk widgets (s.passesAfter l waits st')).IsFor k work st := by
  have hpass : ∀ {n}, s.pass? n = some ⟨k, work⟩ →
      (Session.mk widgets (s.passesAfter l waits st')).pass? n = some ⟨k, work⟩ := by
    intro n hp
    have hgone : st'.gone? waits ≠ some n := by
      intro hg
      have hp' := hf'.pass? (Step.pass?_eq_some_of_gone? hg)
      exact hl (congrArg Pass.widget (Option.some.inj (hp'.symm.trans hp)))
    have hnew : n ≠ s.passes.length := by
      rintro rfl
      cases pass?_length.symm.trans hp
    rw [pass?_after, if_neg hnew, if_neg hgone, hp]
  cases st with
  | poll n | abandon n => exact hpass hf
  | start j work | release j docs | giveUp j | adjust j | resize j c | replaceFile j c => exact hf

theorem IsFor.lt_length (hf : s.IsFor k work st) {waits : Bool} (hg : st.gone? waits = some n) :
    n < s.passes.length := by
  refine Nat.lt_of_not_le fun hle => ?_
  have hp : s.pass? n = some ⟨k, work⟩ := hf.pass? (Step.pass?_eq_some_of_gone? hg)
  rw [Session.pass?, List.getElem?_eq_none hle] at hp
  cases hp

/-- The passes after two steps, in either order. -/
theorem pass?_after_swap (hf : s.IsFor k work st) (hf' : s.IsFor l work' st') (waits waits' : Bool)
    (widgets widgets₁ widgets₂ : List (Widget H)) (n : Nat) :
    (Session.mk widgets ((Session.mk widgets₁ (s.passesAfter l waits' st')).passesAfter k waits
      st)).pass? (swapNew s.passes.length (st.begun? waits) (st'.begun? waits') n) =
    (Session.mk widgets ((Session.mk widgets₂ (s.passesAfter k waits st)).passesAfter l waits'
      st')).pass? n := by
  have hg : ∀ {n}, s.passes.length ≤ n → st.gone? waits ≠ some n := fun hle hg =>
    Nat.not_lt.2 hle (hf.lt_length hg)
  have hg' : ∀ {n}, s.passes.length ≤ n → st'.gone? waits' ≠ some n := fun hle hg =>
    Nat.not_lt.2 hle (hf'.lt_length hg)
  have hnone : ∀ {n}, s.passes.length ≤ n → s.pass? n = none := fun hle => by
    rw [pass?, List.getElem?_eq_none hle]
    rfl
  simp only [pass?_after, length_passesAfter]
  rcases Nat.lt_or_ge n s.passes.length with hn | hn
  · -- An old pass ends with the one step, with the other, or with neither.
    have hold : ∀ d, n ≠ s.passes.length + d := fun d => by omega
    rw [swapNew_of_lt hn]
    simp only [hold, Nat.ne_of_lt hn, if_false]
    by_cases h₁ : st.gone? waits = some n <;> by_cases h₂ : st'.gone? waits' = some n <;>
      simp only [h₁, h₂, if_true, if_false]
  · cases hb : st.begun? waits with
    | none =>
      cases hb' : st'.begun? waits' with
      | none => simp [swapNew, hg hn, hg' hn, hnone hn]
      | some new' =>
        simp [swapNew, hg hn, hg' hn, hnone hn]
        omega
    | some new =>
      cases hb' : st'.begun? waits' with
      | none =>
        simp [swapNew, hg hn, hg' hn, hnone hn]
        omega
      | some new' =>
        by_cases h₀ : n = s.passes.length
        · simp [swapNew, h₀, hg' (Nat.le_refl _)]
        · by_cases h₁ : n = s.passes.length + 1
          · simp [swapNew, h₁, hg (Nat.le_refl _)]
          · have hne := Equiv.swap_apply_of_ne_of_ne h₀ h₁
            simp [swapNew, hne, h₀, h₁, hg hn, hg' hn]

/-! ## Reactions in either order -/

/-- The reaction `r'` gives what `r` gives, but for the number of the pass that waits. -/
structure SameDeed (number : Nat → Nat) (r r' : Reaction (Reply H) (Session H) H) : Prop where
  result : r'.result = r.result.renumber number
  notices : r'.notices = r.notices
  calls : r'.calls = r.calls

variable [Sub H]

/-- A widget that is left alone by a step gives the same after it. -/
theorem sameDeed_after_other (hl : l ≠ k) (hw : s.widgets[k]? = some w)
    (hf : s.IsFor k work st) (hw' : s.widgets[l]? = some w') (hf' : s.IsFor l work' st') :
    SameDeed (swapNew s.passes.length (st.begun? (w.act work st).result.isNone)
        (st'.begun? (w'.act work' st').result.isNone))
      (s.step st) ((s.step st').after.step st) := by
  have hw₁ : (s.widgets.set l (w'.act work' st').after)[k]? = some w := by
    rw [List.getElem?_set_ne hl, hw]
  have hf₁ := hf.after_other hl hf' (s.widgets.set l (w'.act work' st').after)
    (w'.act work' st').result.isNone
  rw [step_eq hw' hf', step_eq hw₁ hf₁, step_eq hw hf]
  refine ⟨?_, rfl, rfl⟩
  cases hr : (w.act work st).result with
  | some r => exact (Widget.renumber_act hr _).symm
  | none =>
    refine congrArg Reply.pending ?_
    cases st with
    | poll n =>
      have hn : n < s.passes.length := by
        refine Nat.lt_of_not_le fun hle => ?_
        rw [IsFor, pass?, List.getElem?_eq_none hle] at hf
        cases hf
      exact (swapNew_of_lt hn ..).symm
    | start j work =>
      refine Eq.trans ?_ (swapNew_self s.passes.length work _).symm
      exact s.length_passesAfter ..
    | abandon n | release j docs | giveUp j | adjust j | resize j c | replaceFile j c => cases hr

/-- The steps `st` and `st'` commute in `s`: each gives the same as the first one and as the second
one, and they leave the same widgets and the same passes, but for the numbers of those that they let
wait. -/
def Commute (s : Session H) (st st' : Step H) : Prop :=
  ∃ number : Equiv.Perm Nat, (∀ n < s.passes.length, number n = n) ∧
    SameDeed number (s.step st) ((s.step st').after.step st) ∧
    SameDeed number (s.step st') ((s.step st).after.step st') ∧
    ((s.step st').after.step st).after.widgets = ((s.step st).after.step st').after.widgets ∧
    ∀ n, ((s.step st').after.step st).after.pass? (number n) =
      ((s.step st).after.step st').after.pass? n

/-- Steps of different widgets commute. -/
theorem commute_of_isFor (hl : l ≠ k) (hw : s.widgets[k]? = some w) (hf : s.IsFor k work st)
    (hw' : s.widgets[l]? = some w') (hf' : s.IsFor l work' st') : s.Commute st st' := by
  refine ⟨_, fun n hn => swapNew_of_lt hn .., sameDeed_after_other hl hw hf hw' hf', ?_, ?_, ?_⟩
  · rw [swapNew_comm]
    exact sameDeed_after_other hl.symm hw' hf' hw hf
  all_goals
    have hw₁ : (s.widgets.set l (w'.act work' st').after)[k]? = some w := by
      rw [List.getElem?_set_ne hl, hw]
    have hw₂ : (s.widgets.set k (w.act work st).after)[l]? = some w' := by
      rw [List.getElem?_set_ne hl.symm, hw']
    have hf₁ := hf.after_other hl hf' (s.widgets.set l (w'.act work' st').after)
      (w'.act work' st').result.isNone
    have hf₂ := hf'.after_other hl.symm hf (s.widgets.set k (w.act work st).after)
      (w.act work st).result.isNone
    rw [step_eq hw' hf', step_eq hw₁ hf₁, step_eq hw hf, step_eq hw₂ hf₂]
  · exact List.set_comm _ _ hl
  · intro n
    rw [List.set_comm _ _ hl]
    exact pass?_after_swap hf hf' ..

end SearchPanel.Session
