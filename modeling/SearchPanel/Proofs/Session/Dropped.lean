import SearchPanel.Proofs.Session.Started

/-!
# Dropped queries leave no trace

* `after_of_isDropped`: the session after a dropped query is the session before it.
* `Session.undropped s steps`: the steps of a run without the queries that are dropped in it.
* `undropped_same_moments`: the run of these is the rest of the run, moment by moment.
-/

namespace SearchPanel

variable {H : Type} [Sub H]

namespace Widget

variable {w : Widget H} {work : Work} {r : Reaction (Option Outcome) (Widget H) H}

/-- Only a busy widget drops, and is left as it is. -/
theorem Started.after_of_isDropped (h : w.Started work r) (hr : r.result.any Outcome.isDropped) :
    r.after = w := by
  cases h with
  | dropped hf => rfl
  | tooShort hf hs => cases hr
  | cached ha hc =>
    rw [Option.any_some, isDropped_ending] at hr
    cases hr
  | waits ha hc hl => cases hr
  | answered ha hc hl =>
    rw [Option.any_some, isDropped_ending] at hr
    cases hr

/-- A pass that has waited is not dropped any more. -/
theorem Polled.isDropped (h : w.Polled work r) : r.result.any Outcome.isDropped = false := by
  cases h with
  | waits hl => rfl
  | answered hl => exact isDropped_ending ..

end Widget

namespace Session

variable {s t : Session H} {st : Step H} {r : Reply H} {moments : List (Moment H)}

/-- A dropped query changes nothing: neither its widget nor any pass. -/
theorem Event.after_of_isDropped (h : s.Event st r t) (hr : r.isDropped = true) : t = s := by
  cases h with
  | noWidget ht hw => rfl
  | pollNone hp => rfl
  | abandonNone hp => rfl
  | @changed k w w' st r passes hw hc =>
    cases hc with
    | started ho =>
      rw [(w.started _).after_of_isDropped (ho ▸ hr)]
      have hset : s.widgets.set k w = s.widgets := by
        obtain ⟨hk, rfl⟩ := List.getElem?_eq_some_iff.1 hw
        exact List.set_getElem_self hk
      rw [hset]
    | @ended n work o hp ho =>
      have hno := (w.polled work).isDropped
      rw [ho] at hno
      cases hno.symm.trans hr
    | tended ht =>
      rw [Reply.isDropped, ht.outcome?_eq_none] at hr
      cases hr
    | waits ho => cases hr
    | waitsOn hp ho => cases hr
    | abandoned hp => cases hr

/-- The steps of a run without the queries that are dropped in it. -/
def undropped (s : Session H) (steps : List (Step H)) : List (Step H) :=
  ((s.history steps).filter fun m => !m.reply.isDropped).map Moment.step

theorem undropped_cons_of_isDropped {steps : List (Step H)}
    (hd : (s.step st).result.isDropped = true) :
    s.undropped (st :: steps) = s.undropped steps := by
  have hsame : (s.step st).after = s := (event_step s st).after_of_isDropped hd
  simp [undropped, history, Moment.reply, Moment.reaction, hd, hsame]

theorem undropped_cons_of_not_isDropped {steps : List (Step H)}
    (hd : (s.step st).result.isDropped = false) :
    s.undropped (st :: steps) = st :: (s.step st).after.undropped steps := by
  simp [undropped, history, Moment.reply, Moment.reaction, hd]

theorem history_undropped (s : Session H) (steps : List (Step H)) :
    s.history (s.undropped steps) =
      (s.history steps).filter fun m => !m.reply.isDropped := by
  induction steps generalizing s with
  | nil => rfl
  | cons st steps ih =>
    cases hd : (s.step st).result.isDropped with
    | true =>
      -- The step is taken out, and the rest of the run starts from the same session.
      have hsame : (s.step st).after = s := (event_step s st).after_of_isDropped hd
      rw [undropped_cons_of_isDropped hd, ih]
      simp [history, Moment.reply, Moment.reaction, hd, hsame]
    | false =>
      rw [undropped_cons_of_not_isDropped hd, history, ih]
      simp [history, Moment.reply, Moment.reaction, hd]

theorem run_undropped (s : Session H) (steps : List (Step H)) :
    s.run (s.undropped steps) = s.run steps := by
  induction steps generalizing s with
  | nil => rfl
  | cons st steps ih =>
    cases hd : (s.step st).result.isDropped with
    | true =>
      have hsame : (s.step st).after = s := (event_step s st).after_of_isDropped hd
      rw [undropped_cons_of_isDropped hd, ih, run_cons, hsame]
    | false => rw [undropped_cons_of_not_isDropped hd, run_cons, run_cons, ih]

theorem Leads.filter_not_isDropped (h : s.Leads moments t) :
    s.Leads (moments.filter fun m => !m.reply.isDropped) t := by
  induction h with
  | refl => exact .refl
  | sources _ sources ih => exact ih.sources sources
  | @step moments t _ st ih =>
    rw [List.filter_append]
    cases hd : (Moment.mk t st).reply.isDropped with
    | true =>
      have hsame : (t.step st).after = t := (event_step t st).after_of_isDropped hd
      simpa [hd, hsame] using ih
    | false => simpa [hd] using ih.step st

/-- **Dropped queries leave no trace.** Without the queries that are dropped in it a run has the
same moments and the same end: each other step is taken in the same session, and so it has the same
reply, pass numbers included, tells the same, makes the same calls and leaves the same widgets and
passes. This is so from every session, and also if its sources change between the steps. -/
theorem undropped_same_moments (s : Session H) :
    (∀ steps, s.history (s.undropped steps) =
        (s.history steps).filter (fun m => !m.reply.isDropped) ∧
      s.run (s.undropped steps) = s.run steps) ∧
    ∀ moments t, s.Leads moments t → s.Leads (moments.filter fun m => !m.reply.isDropped) t :=
  ⟨fun steps => ⟨history_undropped s steps, run_undropped s steps⟩,
    fun _ _ h => h.filter_not_isDropped⟩

/-- A query that comes while another one waits is taken out. -/
theorem undropped_same_moments_gated :
    let steps : List (Step Nat) :=
      [.start 0 (.query "gate"), .start 0 (.query "late"), .giveUp 0, .poll 0]
    let kept : List (Step Nat) := [.start 0 (.query "gate"), .giveUp 0, .poll 0]
    gated.undropped steps = kept ∧
      gated.history kept = (gated.history steps).filter (fun m => !m.reply.isDropped) ∧
      gated.run kept = gated.run steps ∧
      gated.Leads ((gated.history steps).filter fun m => !m.reply.isDropped) (gated.run steps) := by
  intro steps kept
  have hkept : gated.undropped steps = kept := rfl
  obtain ⟨hrun, hleads⟩ := undropped_same_moments gated
  obtain ⟨hsame, hend⟩ := hrun steps
  rw [hkept] at hsame hend
  exact ⟨hkept, hsame, hend, hleads _ _ (leads_history gated steps)⟩

end Session

end SearchPanel
