import SearchPanel.Proofs.Panel.Shown
import SearchPanel.Proofs.Session.InFlight
import SearchPanel.Proofs.Session.Started

/-!
# What a widget shows

* `Event.content`: what a step makes of the content of a widget. A query that is taken empties it,
  and an answer fills it.
* `Widget.Tidy w`: the mark stands over a list that is not empty, and only there; while a query
  waits the list is empty.
* `Leads.content_of_free`: what a widget shows stays until a query is taken, if none waits.
-/

namespace SearchPanel

variable {H : Type}

/-! ## Tidy widgets -/

/-- The mark stands over a list that is not empty, and only there. While a query waits the list is
empty. -/
structure Widget.Tidy (w : Widget H) : Prop where
  marked : w.view.Marked
  waiting : w.inFlight = true → w.view.fragments = []

namespace Session

variable {s : Session H}

/-- Every widget is tidy. -/
def Tidy (s : Session H) : Prop := ∀ (k : Nat) (w : Widget H), s.widgets[k]? = some w → w.Tidy

theorem Fresh.tidy (h : s.Fresh) : s.Tidy := by
  intro k w hw
  have hview := (h.widget hw).view
  exact ⟨by simp [hview, View.Marked], fun _ => by rw [hview]⟩

theorem Tidy.withSources (h : s.Tidy) (sources : Nat → Source) : (s.withSources sources).Tidy := by
  intro k w' hw'
  obtain ⟨w, hw, rfl⟩ := exists_of_getElem?_withSources hw'
  exact ⟨(h k w hw).marked, (h k w hw).waiting⟩

theorem Tidy.empty_of_busy (hi : s.Tidy) {k : Nat} {w : Widget H}
    (hw : s.widgets[k]? = some w) (hbusy : w.inFlight = true) :
    w.view.fragments = [] ∧ w.view.hasResults = false := by
  have hempty := (hi k w hw).waiting hbusy
  exact ⟨hempty, Bool.eq_false_iff.2 fun hon => (hi k w hw).marked.1 hon hempty⟩

theorem Guarded.withSources (hg : s.Guarded) (sources : Nat → Source) :
    (s.withSources sources).Guarded := by
  refine ⟨fun {k w'} hw' => ?_, hg.alone⟩
  obtain ⟨w, hw, rfl⟩ := exists_of_getElem?_withSources hw'
  exact hg.flag (w := w) hw

end Session

/-! ## What a step makes of the content -/

namespace Widget

theorem content_applyAll_opening (v : View H) (work : Work) :
    (v.applyAll work.opening).content = v.content.changed work.isQuery none := by
  cases work <;> rfl

variable [Sub H] {w w' : Widget H} {work : Work} {r : Reaction (Option Outcome) (Widget H) H}

theorem content_applyAll_closing (w : Widget H) (v : View H) (docs : List Document) (work : Work) :
    (v.applyAll (w.closing docs work)).content =
      v.content.changed false (w.ending docs work).shown? := by
  cases work with
  | load => rfl
  | query text => exact View.content_applyAll_showing ..

/-- The content after a pass that was admitted and has its documents. -/
theorem content_applyAll_opening_closing (w : Widget H) (docs : List Document) (work : Work) :
    ((w.view.applyAll work.opening).applyAll (w.closing docs work)).content =
      w.view.content.changed (work.isQuery && !(w.ending docs work).isDropped)
        (w.ending docs work).shown? := by
  rw [content_applyAll_closing, content_applyAll_opening, View.changed_changed]
  cases work <;> rfl

theorem Started.content (h : w.Started work r) :
    r.after.view.content =
      w.view.content.changed (work.isQuery && !r.result.any Outcome.isDropped)
        (r.result.bind Outcome.shown?) := by
  cases h with
  | dropped hf => rfl
  | tooShort hf hs => rfl
  | cached ha hc =>
    rw [display, View.applyAll_append]
    exact content_applyAll_opening_closing ..
  | waits ha hc hl =>
    rw [view_ask, content_applyAll_opening]
    cases work <;> rfl
  | answered ha hc hl =>
    rw [view_answered, closing_ask, view_ask]
    exact content_applyAll_opening_closing ..

theorem Polled.content (h : w.Polled work r) :
    r.after.view.content = w.view.content.changed false (r.result.bind Outcome.shown?) := by
  cases h with
  | waits hl => rfl
  | answered hl =>
    rw [view_answered]
    exact content_applyAll_closing w w.view _ work

theorem Started.honestAlong (h : w.Started work r) (hw : w.view.Honest) :
    w.view.HonestAlong r.calls := by
  have hpass : ∀ docs, w.view.HonestAlong (work.opening ++ w.closing docs work) := by
    intro docs
    cases work with
    | load => exact hw
    | query text => exact hw.along_clearing.append (View.honestAlong_showing rfl ..)
  cases h with
  | dropped hf => exact hw
  | tooShort hf hs => exact hw.along_clearing
  | cached ha hc => exact hpass _
  | waits ha hc hl =>
    cases work with
    | load => exact hw
    | query text => exact hw.along_clearing
  | answered ha hc hl => exact hpass _

theorem Polled.honestAlong (h : w.Polled work r) (hw : w.view.Honest)
    (hoff : work ≠ .load → w.view.hasResults = false) : w.view.HonestAlong r.calls := by
  cases h with
  | waits hl => exact hw
  | answered hl =>
    cases work with
    | load => exact hw
    | query text => exact View.honestAlong_showing (hoff nofun) ..

theorem Started.shown?_load (h : w.Started .load r) : r.result.bind Outcome.shown? = none := by
  cases h <;> rfl

theorem Polled.shown?_load (h : w.Polled .load r) : r.result.bind Outcome.shown? = none := by
  cases h <;> rfl

/-- Only a free widget takes a query. -/
theorem Started.inFlight_of_takes (h : w.Started work r) (hq : work.isQuery = true)
    (hd : r.result.any Outcome.isDropped = false) : w.inFlight = false := by
  have hadmits : w.Admits work → w.inFlight = false := by
    cases work with
    | load => cases hq
    | query text => exact And.left
  cases h with
  | dropped hf => cases hd
  | tooShort hf hs => exact hf
  | cached ha hc => exact hadmits ha
  | waits ha hc hl => exact hadmits ha
  | answered ha hc hl => exact hadmits ha

theorem Tended.content {k : Nat} {st : Step H} {r : Reply H} (h : w.Tended k st r w') :
    w'.view.content = w.view.content := by
  cases h with
  | adjust =>
    unfold Widget.adjust
    cases w.layout.adjust w.view.fragments.length <;> rfl
  | release docs => rfl
  | giveUp => rfl
  | resize container => rfl
  | replaceFile content => rfl

end Widget

namespace Session

variable [Sub H] {s s' t : Session H} {w w' : Widget H} {st : Step H} {r : Reply H}
  {passes : List (Option Pass)} {moments later : List (Moment H)} {k n : Nat}

theorem Change.content (h : s.Change k w st r w' passes) :
    w'.view.content =
      w.view.content.changed (st.isQueryOf k && !r.isDropped) r.shown? := by
  cases h with
  | @started work o hr =>
    have hc := (w.started work).content
    rw [hr] at hc
    simpa [Step.isQueryOf, Reply.isDropped, Reply.shown?, Reply.outcome?] using hc
  | @waits work hr =>
    have hc := (w.started work).content
    rw [hr] at hc
    simpa [Step.isQueryOf, Reply.isDropped, Reply.shown?, Reply.outcome?] using hc
  | @ended m work o hp hr =>
    have hc := (w.polled work).content
    rw [hr] at hc
    exact hc
  | @waitsOn m work hp hr =>
    have hc := (w.polled work).content
    rw [hr] at hc
    exact hc
  | @abandoned m work hp => cases work <;> rfl
  | tended ht =>
    rw [ht.content, Step.isQueryOf, ht.work?_eq_none, Reply.shown?, ht.outcome?_eq_none]
    rfl

/-- The content of one widget among all: a step for another widget leaves it as it is. -/
theorem Event.content (h : s.Event st r s') (hw' : s'.widgets[k]? = some w') :
    ∃ w, s.widgets[k]? = some w ∧ w'.view.content =
      w.view.content.changed (st.isQueryOf k && !r.isDropped)
        (if s.target? st = some k then r.shown? else none) := by
  rcases h.widget_cases hw' with ⟨w, hw, hc⟩ | ⟨ht, hw⟩
  · exact ⟨w, hw, by rw [if_pos hc.target, hc.content]⟩
  · refine ⟨w', hw, ?_⟩
    rw [if_neg ht, Step.isQueryOf, work?_eq_none_of_target?_ne ht]
    rfl

/-! ## Queries that are taken and queries that are answered -/

/-- An answer is shown for a query that a free widget takes, or for one that has waited. -/
theorem Event.takes_or_ends_of_shown (h : s.Event st r s') (hs : r.shown?.isSome = true)
    (ht : s.target? st = some k) :
    (st.isQueryOf k = true ∧ r.isDropped = false ∧
      ∃ w, s.widgets[k]? = some w ∧ w.inFlight = false) ∨ ∃ n, s.Waits k n ∧ st.Ends r n := by
  cases h with
  | noWidget ht' hw => cases hs
  | pollNone hp => cases hs
  | abandonNone hp => cases hs
  | @changed l w w' st r passes hw hc =>
    obtain rfl := Option.some.inj (hc.target.symm.trans ht)
    cases hc with
    | @started work o hr =>
      cases work with
      | query text =>
        have hd : o.isDropped = false := by cases o <;> first | rfl | cases hs
        have hfree := (w.started (.query text)).inFlight_of_takes rfl (hr ▸ hd)
        exact .inl ⟨by simp [Step.isQueryOf, Work.isQuery], hd, w, hw, hfree⟩
      | load =>
        have hno := (w.started .load).shown?_load
        rw [hr] at hno
        rw [Reply.shown?, Reply.outcome?, hno] at hs
        cases hs
    | waits hr => cases hs
    | @ended n work o hp hr =>
      cases work with
      | query text => exact .inr ⟨n, ⟨text, hp⟩, .inl ⟨rfl, o, rfl⟩⟩
      | load =>
        have hno := (w.polled .load).shown?_load
        rw [hr] at hno
        rw [Reply.shown?, Reply.outcome?, hno] at hs
        cases hs
    | waitsOn hp hr => cases hs
    | abandoned hp => cases hs
    | tended ht =>
      rw [Reply.shown?, ht.outcome?_eq_none] at hs
      cases hs

/-- After an answer no query of the widget waits. -/
theorem Guarded.free_of_shown (hg : s.Guarded) (h : s.Event st r s') (hs : r.shown?.isSome = true)
    (ht : s.target? st = some k) (n : Nat) : ¬ s'.Waits k n := by
  rcases h.takes_or_ends_of_shown hs ht with ⟨-, -, w, hw, hfree⟩ | ⟨m, hm, hend⟩
  · intro hn
    rcases h.waits_iff.1 hn with ⟨hn, -⟩ | ⟨-, hr⟩
    · cases hfree.symm.trans ((hg.flag hw).2 ⟨n, hn⟩)
    · rw [hr] at hs
      cases hs
  · exact hg.free_of_ends h hm hend n

theorem Leads.guarded (h : s.Leads moments t) (hg : s.Guarded) : t.Guarded :=
  h.invariant (fun sources hg => hg.withSources sources) (fun he hg => hg.event he) hg

/-! ## Every step leaves tidy widgets -/

/-- A query that has waited finds the list empty when it is answered. -/
theorem Tidy.fragments_of_shown (hi : s.Tidy) (hg : s.Guarded) (h : s.Event st r s')
    (hw : s.widgets[k]? = some w) (ht : s.target? st = some k) (hs : r.shown?.isSome = true)
    (htaken : (st.isQueryOf k && !r.isDropped) = false) : w.view.fragments = [] := by
  rcases h.takes_or_ends_of_shown hs ht with ⟨hq, hd, -⟩ | ⟨n, hn, -⟩
  · simp [hq, hd] at htaken
  · exact (hi k w hw).waiting ((hg.flag hw).2 ⟨n, hn⟩)

/-- A widget that is busy after a step shows nothing then: either its query was taken with this
step, or it has waited since before, and nothing was shown in between. -/
theorem Tidy.fragments_of_busy (hi : s.Tidy) (hg : s.Guarded) (h : s.Event st r s')
    (hw' : s'.widgets[k]? = some w') (hbusy : w'.inFlight = true) : w'.view.fragments = [] := by
  obtain ⟨n, hn⟩ := ((hg.event h).flag hw').1 hbusy
  obtain ⟨w, hw, hc⟩ := h.content hw'
  have hnone : (if s.target? st = some k then r.shown? else none) = none := by
    refine Option.eq_none_iff_forall_ne_some.2 fun fragments hs => ?_
    obtain ⟨ht, hs⟩ := Option.ite_none_right_eq_some.1 hs
    exact hg.free_of_shown h (hs ▸ rfl) ht n hn
  rw [hnone] at hc
  show w'.view.content.fragments = []
  rw [hc]
  cases htaken : st.isQueryOf k && !r.isDropped with
  | true => rfl
  | false =>
    have hkept : s.Waits k n := by
      rcases h.waits_iff.1 hn with ⟨hn, -⟩ | ⟨⟨text, rfl⟩, rfl⟩
      · exact hn
      · simp [Step.isQueryOf, Work.isQuery, Reply.isDropped, Reply.outcome?] at htaken
    exact (hi k w hw).waiting ((hg.flag hw).2 ⟨n, hkept⟩)

theorem Tidy.event (hi : s.Tidy) (hg : s.Guarded) (h : s.Event st r s') : s'.Tidy := by
  intro k w' hw'
  refine ⟨?_, hi.fragments_of_busy hg h hw'⟩
  obtain ⟨w, hw, hc⟩ := h.content hw'
  have hm : w'.view.content.Marked := by
    rw [hc]
    refine View.Marked.changed (v := w.view.content) (hi k w hw).marked fun htaken hs => ?_
    split at hs
    · next ht => exact hi.fragments_of_shown hg h hw ht hs htaken
    · cases hs
  exact hm

theorem Leads.tidy (h : s.Leads moments t) (hg : s.Guarded) (hi : s.Tidy) : t.Tidy := by
  have hboth : t.Guarded ∧ t.Tidy := by
    refine h.invariant (I := fun t => t.Guarded ∧ t.Tidy) ?_ ?_ ⟨hg, hi⟩
    · exact fun sources h => ⟨h.1.withSources sources, h.2.withSources sources⟩
    · exact fun he h => ⟨h.1.event he, h.2.event h.1 he⟩
  exact hboth.2

/-! ## Between two queries -/

/-- What a widget shows stays until a query is taken, if none waits. -/
theorem Leads.content_of_free (h : s.Leads later t) (hfree : ∀ n, ¬ s.Waits k n)
    (htakes : ∀ m ∈ later, m.takesQuery k = false) (hw : s.widgets[k]? = some w) :
    (∀ n, ¬ t.Waits k n) ∧
      ∃ w', t.widgets[k]? = some w' ∧ w'.view.content = w.view.content := by
  induction h with
  | refl => exact ⟨hfree, w, hw, rfl⟩
  | sources h sources ih =>
    obtain ⟨hfree, w', hw', hc⟩ := ih htakes
    exact ⟨hfree, { w' with source := sources k }, by simp [getElem?_withSources, hw'], hc⟩
  | @step later t h st ih =>
    obtain ⟨hfree, w₁, hw₁, hc₁⟩ := ih fun m hm => htakes m (List.mem_append_left _ hm)
    have htakes : (st.isQueryOf k && !(t.step st).result.isDropped) = false :=
      htakes ⟨t, st⟩ (List.mem_append_right _ (List.mem_singleton.2 rfl))
    have he := event_step t st
    refine ⟨fun n hn => ?_, ?_⟩
    · rcases he.waits_iff.1 hn with ⟨hn, -⟩ | ⟨⟨text, rfl⟩, hr⟩
      · exact hfree n hn
      · simp [Step.isQueryOf, Work.isQuery, Reply.isDropped, Reply.outcome?, hr] at htakes
    · obtain ⟨w', hw'⟩ := he.exists_widget hw₁
      obtain ⟨w₂, hw₂, hc⟩ := he.content hw'
      obtain rfl : w₁ = w₂ := Option.some.inj (hw₁.symm.trans hw₂)
      have hnone : (if t.target? st = some k then (t.step st).result.shown? else none) = none := by
        refine Option.eq_none_iff_forall_ne_some.2 fun fragments hs => ?_
        obtain ⟨ht, hs⟩ := Option.ite_none_right_eq_some.1 hs
        rcases he.takes_or_ends_of_shown (hs ▸ rfl) ht with ⟨hq, hd, -⟩ | ⟨n, hn, -⟩
        · simp [hq, hd] at htakes
        · exact hfree n hn
      rw [htakes, hnone] at hc
      exact ⟨w', hw', hc.trans hc₁⟩

end Session

end SearchPanel
