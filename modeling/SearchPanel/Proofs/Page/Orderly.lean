import SearchPanel.Proofs.Page.Attach

/-!
# Orderly pages

* `Page.waiters p k`: the tasks of the panel `k` that wait.
* `Page.Orderly p`: the elements of the panels are there and stand apart, and a panel is in flight
  with exactly one task that waits, or free and without one.
* `Page.Fresh p options`: so it is once panels were attached to a bare page (`fresh_attach`).
* `Orderly.waiters_around`: around a task that waits, no other one of its panel does.
-/

namespace SearchPanel.Page

variable {p q : Page} {t : Task} {s s' : Section} {before after new : List Task} {k r : Nat}

/-- The task is one of the panel `k`, and waits. -/
def Task.waitsFor (k : Nat) (t : Task) : Bool := t.panel = k && !t.isStarted

/-- The tasks of the panel `k` that wait. -/
def waiters (p : Page) (k : Nat) : List Task := p.tasks.filter (Task.waitsFor k)

/-- The elements of the panels are there and stand apart. For each panel in flight one task waits,
and none for the others. -/
structure Orderly (p : Page) : Prop where
  has : ∀ {k : Nat} {s : Section}, p.panels[k]? = some s → p.Has s
  apart : ∀ {j k : Nat} {s s' : Section}, p.panels[j]? = some s → p.panels[k]? = some s' →
    j ≠ k → s.Apart s'
  busy : ∀ {k : Nat} {s : Section}, p.panels[k]? = some s →
    (p.waiters k).length = s.controller.inFlight.toNat

/-- A page to which nothing is attached yet. -/
structure Bare (p : Page) : Prop where
  panels : p.panels = []
  tasks : p.tasks = []

/-- Panels were attached with some options, and nothing has happened since. -/
structure Fresh (p : Page) (options : OptionValue) : Prop where
  orderly : p.Orderly
  tasks : p.tasks = []
  controller : ∀ {k : Nat} {s : Section}, p.panels[k]? = some s →
    ∃ o, PageOptions.ofValue options = .ok o ∧ s.controller = { config := o.toConfig }

/-- The panels that are attached to a bare page are new and in order. -/
theorem fresh_attach (hbare : p.Bare) (hflat : p.Flat) (options : OptionValue) :
    (p.move (.event (.attach options))).Fresh options := by
  obtain ⟨config, roots, new, h, hconfig⟩ := wired_attach hflat options
  have hpanels : (p.move (.event (.attach options))).panels = new :=
    h.panels.trans (by rw [hbare.panels, List.nil_append])
  have htasks : (p.move (.event (.attach options))).tasks = [] := h.tasks.trans hbare.tasks
  have hmem : ∀ {k : Nat} {s : Section},
      (p.move (.event (.attach options))).panels[k]? = some s → s ∈ new := fun hs =>
    hpanels ▸ List.mem_of_getElem? hs
  refine ⟨⟨fun hs => ?_, fun {j k s s'} hs hs' hne => ?_, fun {k s} hs => ?_⟩, htasks,
    fun hs => ?_⟩
  · exact (h.has _ (hmem hs)).of_length h.frame.length
  · rw [hpanels] at hs hs'
    obtain ⟨hj, rfl⟩ := List.getElem?_eq_some_iff.1 hs
    obtain ⟨hk, rfl⟩ := List.getElem?_eq_some_iff.1 hs'
    rcases Nat.lt_or_gt_of_ne hne with hlt | hlt
    · exact List.pairwise_iff_getElem.1 h.apart j k hj hk hlt
    · exact (List.pairwise_iff_getElem.1 h.apart k j hk hj hlt).symm
  · rw [waiters, htasks, h.fresh s (hmem hs)]
    rfl
  · obtain ⟨o, ho, rfl⟩ := hconfig (List.ne_nil_of_mem (hmem hs))
    exact ⟨o, ho, h.fresh _ (hmem hs)⟩

/-! ## Tasks that wait -/

theorem waitsFor_of_started (h : t.isStarted = true) (k : Nat) : t.waitsFor k = false := by
  rw [Task.waitsFor, h, Bool.not_true, Bool.and_false]

theorem waitsFor_of_ne (h : t.panel ≠ k) : t.waitsFor k = false := by
  rw [Task.waitsFor, decide_eq_false h, Bool.false_and]

theorem waitsFor_self (h : t.isStarted = false) : t.waitsFor t.panel = true := by
  rw [Task.waitsFor, h, decide_eq_true rfl]
  rfl

theorem mem_waiters : t ∈ p.waiters k ↔ t ∈ p.tasks ∧ t.panel = k ∧ t.isStarted = false := by
  simp [waiters, Task.waitsFor]

namespace Orderly

/-- No task of a free panel waits. -/
theorem waiters_eq_nil (h : p.Orderly) (hs : p.panels[k]? = some s)
    (hf : s.controller.inFlight = false) : p.waiters k = [] := by
  have hbusy := h.busy hs
  rw [hf] at hbusy
  exact List.eq_nil_of_length_eq_zero hbusy

/-- A panel is in flight when a task of it waits. -/
theorem inFlight_of_mem (h : p.Orderly) (hs : p.panels[k]? = some s) (ht : t ∈ p.waiters k) :
    s.controller.inFlight = true := by
  cases hf : s.controller.inFlight with
  | true => rfl
  | false =>
    rw [h.waiters_eq_nil hs hf] at ht
    cases ht

/-- Around a task that waits, and around all tasks of a free panel, no other one of it waits. -/
theorem waiters_around (h : p.Orderly) (hs : p.panels[t.panel]? = some s)
    (ht : p.tasks = before ++ t :: after)
    (hf : t.isStarted = false ∨ s.controller.inFlight = false) :
    before.filter (Task.waitsFor t.panel) = [] ∧ after.filter (Task.waitsFor t.panel) = [] := by
  have hbusy := h.busy hs
  rw [waiters, ht, List.filter_append, List.length_append] at hbusy
  have hle : s.controller.inFlight.toNat ≤ 1 := Bool.toNat_le _
  rcases hf with hw | hf
  · rw [List.filter_cons_of_pos (waitsFor_self hw), List.length_cons] at hbusy
    exact ⟨List.eq_nil_of_length_eq_zero (by omega), List.eq_nil_of_length_eq_zero (by omega)⟩
  · have hnone := h.waiters_eq_nil hs hf
    rw [waiters, ht, List.filter_append, List.append_eq_nil_iff] at hnone
    exact ⟨hnone.1, List.sublist_nil.1 (hnone.2 ▸ (List.sublist_cons_self t after).filter _)⟩

end Orderly

/-- Queries that have not begun do not wait. -/
theorem Told.waiters_eq (h : p.Told new q) (k : Nat) : q.waiters k = p.waiters k := by
  have hnew : new.filter (Task.waitsFor k) = [] := List.filter_eq_nil_iff.2 fun t ht => by
    rw [waitsFor_of_started (isStarted_of_started (h.captures t ht).1)]
    exact Bool.false_ne_true
  rw [waiters, h.tasks, List.filter_append, hnew, List.append_nil, waiters]

end SearchPanel.Page
