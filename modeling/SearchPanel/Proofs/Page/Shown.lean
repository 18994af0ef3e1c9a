import SearchPanel.Page.Basic
import SearchPanel.Proofs.Page.Tree
import SearchPanel.Proofs.Panel.Shown

/-!
# What a panel shows in its page

* `Section.Apart s s'`: two panels have their inputs and their lists for themselves.
* `Page.Shows p s v`: list and input of the panel `s` are as the view `v` says. The calls that a
  panel makes change the page as they change the view (`Shows.performAll`); what stands apart they
  leave as it is (`Shows.performAll_of_apart`).
* `Page.Displays p s fragments`: the fragments are shown, and the input is marked if there are any.
  Clearing displays none (`displays_clearing`), and over an empty list the calls of an answer
  display this answer (`Displays.showing`).
* `Tree.SameShown t t'`: all lists and marks are the same in both trees.
-/

namespace SearchPanel

/-! ## The markup of fragments -/

theorem Fragment.listHtml_eq_empty_iff {fragments : List Fragment} :
    listHtml fragments = "" ↔ fragments = [] := by
  constructor
  · intro h
    cases fragments with
    | nil => rfl
    | cons f rest =>
      have hlist := congrArg String.toList h
      simp [listHtml, toHtml, beforeHref] at hlist
  · rintro rfl
    rfl

namespace Page

/-- The elements of two panels are not the same. -/
structure Section.Apart (s s' : Section) : Prop where
  input : s.input ≠ s'.input
  results : s.results ≠ s'.results

theorem Section.Apart.symm {s s' : Section} (h : s.Apart s') : s'.Apart s :=
  ⟨h.input.symm, h.results.symm⟩

/-- The elements of a panel are in the page. -/
structure Has (p : Page) (s : Section) : Prop where
  input : s.input < p.tree.elements.length
  results : s.results < p.tree.elements.length

theorem Has.of_length {p q : Page} {s : Section} (h : p.Has s)
    (hlen : q.tree.elements.length = p.tree.elements.length) : q.Has s :=
  ⟨hlen ▸ h.input, hlen ▸ h.results⟩

/-- An element is marked as an input that has results. -/
def marked (p : Page) (k : Nat) : Bool := p.tree.found (.ofClass hasResultsClass) k

/-- List and input of a panel are as the view says. -/
structure Shows (p : Page) (s : Section) (v : View Int) : Prop where
  list : p.tree.markup? s.results = some (Fragment.listHtml v.fragments)
  mark : p.marked s.input = v.hasResults

variable {p q : Page} {s s' : Section} {v : View Int} {calls : List (ViewCall Int)}
  {call : ViewCall Int} {fragments : List Fragment}

/-! ## Calls leave the rest of the page as it is -/

section Rest

variable (p s calls)

theorem perform_eq (call : ViewCall Int) : ∃ tree : Tree, p.perform s call = { p with tree } ∧
    tree.elements.length = p.tree.elements.length := by
  cases call with
  | setHasResults on => cases on <;> exact ⟨_, rfl, Tree.length_modify ..⟩
  | clearResults => exact ⟨_, rfl, Tree.length_fill ..⟩
  | setResults fs => exact ⟨_, rfl, Tree.length_fill ..⟩
  | setMaxHeight h => exact ⟨_, rfl, Tree.length_modify ..⟩

/-- The calls of a panel change the elements alone, and none is added. -/
theorem performAll_eq : ∃ tree : Tree, p.performAll s calls = { p with tree } ∧
    tree.elements.length = p.tree.elements.length := by
  induction calls generalizing p with
  | nil => exact ⟨p.tree, rfl, rfl⟩
  | cons call calls ih =>
    obtain ⟨tree, hp, hlen⟩ := p.perform_eq s call
    obtain ⟨tree', hp', hlen'⟩ := ih (p.perform s call)
    refine ⟨tree', ?_, ?_⟩
    · rw [performAll, List.foldl_cons, ← performAll, hp', hp]
    · rw [hlen', hp, hlen]

@[simp]
theorem panels_performAll : (p.performAll s calls).panels = p.panels := by
  obtain ⟨tree, hp, -⟩ := p.performAll_eq s calls
  rw [hp]

@[simp]
theorem tasks_performAll : (p.performAll s calls).tasks = p.tasks := by
  obtain ⟨tree, hp, -⟩ := p.performAll_eq s calls
  rw [hp]

@[simp]
theorem requests_performAll : (p.performAll s calls).requests = p.requests := by
  obtain ⟨tree, hp, -⟩ := p.performAll_eq s calls
  rw [hp]

@[simp]
theorem length_performAll :
    (p.performAll s calls).tree.elements.length = p.tree.elements.length := by
  obtain ⟨tree, hp, hlen⟩ := p.performAll_eq s calls
  rw [hp]
  exact hlen

end Rest

/-! ## Calls change lists and marks -/

/-- The call fills the list. -/
def fills : ViewCall Int → Bool
  | .clearResults | .setResults _ => true
  | .setHasResults _ | .setMaxHeight _ => false

/-- The call sets or takes away the mark. -/
def marks : ViewCall Int → Bool
  | .setHasResults _ => true
  | .clearResults | .setResults _ | .setMaxHeight _ => false

theorem markup?_perform_of_not_fills (h : fills call = false) (k : Nat) :
    (p.perform s call).tree.markup? k = p.tree.markup? k := by
  cases call with
  | setHasResults on =>
    cases on
    · exact Tree.markup?_modify fun e => rfl
    · exact Tree.markup?_modify fun e => markup_addClass e _
  | clearResults => cases h
  | setResults fs => cases h
  | setMaxHeight height => exact Tree.markup?_modify fun e => rfl

theorem marked_perform_of_not_marks (h : marks call = false) (k : Nat) :
    (p.perform s call).marked k = p.marked k := by
  cases call with
  | setHasResults on => cases h
  | clearResults => exact Tree.found_fill _
  | setResults fs => exact Tree.found_fill _
  | setMaxHeight height => exact Tree.found_modify fun e => rfl

theorem markup?_perform_ne (h : s.results ≠ s'.results) :
    (p.perform s call).tree.markup? s'.results = p.tree.markup? s'.results := by
  cases hc : fills call with
  | false => exact markup?_perform_of_not_fills hc _
  | true =>
    cases call with
    | clearResults | setResults fs => exact Tree.markup?_fill_ne h _
    | setHasResults on | setMaxHeight height => cases hc

theorem marked_perform_ne (h : s.input ≠ s'.input) :
    (p.perform s call).marked s'.input = p.marked s'.input := by
  cases hc : marks call with
  | false => exact marked_perform_of_not_marks hc _
  | true =>
    cases call with
    | setHasResults on => cases on <;> exact Tree.found_modify_ne h
    | clearResults | setResults fs | setMaxHeight height => cases hc

/-- The calls of a panel leave what stands apart from it as it is. -/
theorem Shows.performAll_of_apart (h : p.Shows s' v) (ha : s.Apart s') :
    (p.performAll s calls).Shows s' v := by
  induction calls generalizing p with
  | nil => exact h
  | cons call calls ih =>
    exact ih
      ⟨(markup?_perform_ne ha.results).trans h.list, (marked_perform_ne ha.input).trans h.mark⟩

/-- A call changes the page as it changes the view. -/
theorem Shows.perform (h : p.Shows s v) (hs : p.Has s) :
    (p.perform s call).Shows s (v.apply call) := by
  cases call with
  | setHasResults on =>
    refine ⟨(markup?_perform_of_not_fills rfl _).trans h.list, ?_⟩
    cases on
    · exact Tree.found_modify_self hs.input fun e => finds_removeClass e _
    · exact Tree.found_modify_self hs.input fun e => finds_addClass e _
  | clearResults =>
    exact ⟨Tree.markup?_fill_self hs.results _, (marked_perform_of_not_marks rfl _).trans h.mark⟩
  | setResults fs =>
    exact ⟨Tree.markup?_fill_self hs.results _, (marked_perform_of_not_marks rfl _).trans h.mark⟩
  | setMaxHeight height =>
    exact ⟨(markup?_perform_of_not_fills rfl _).trans h.list,
      (marked_perform_of_not_marks rfl _).trans h.mark⟩

theorem Has.perform (h : p.Has s) (s' : Section) (call : ViewCall Int) :
    (p.perform s' call).Has s := by
  obtain ⟨tree, hp, hlen⟩ := p.perform_eq s' call
  rw [hp]
  exact h.of_length hlen

theorem Shows.performAll (h : p.Shows s v) (hs : p.Has s) :
    (p.performAll s calls).Shows s (v.applyAll calls) := by
  induction calls generalizing p v with
  | nil => exact h
  | cons call calls ih => exact ih (h.perform hs) (hs.perform s call)

/-! ## Fragments on display -/

/-- Some fragments are shown, and the input is marked if there are any. -/
def Displays (p : Page) (s : Section) (fragments : List Fragment) : Prop :=
  p.Shows s { fragments, hasResults := !fragments.isEmpty }

theorem Displays.list (h : p.Displays s fragments) :
    p.tree.markup? s.results = some (Fragment.listHtml fragments) := Shows.list h

theorem Displays.marked_iff (h : p.Displays s fragments) :
    p.marked s.input = true ↔ Fragment.listHtml fragments ≠ "" := by
  rw [Ne, Fragment.listHtml_eq_empty_iff, Shows.mark h]
  cases fragments <;> simp

/-- Clearing displays nothing, whatever was shown. -/
theorem displays_clearing (hs : p.Has s) : (p.performAll s clearing).Displays s [] := by
  have hmark : ((p.perform s (.setHasResults false)).perform s .clearResults).marked s.input =
      (p.perform s (.setHasResults false)).marked s.input := marked_perform_of_not_marks rfl _
  refine ⟨Tree.markup?_fill_self (hs.perform s (.setHasResults false)).results _, ?_⟩
  exact hmark.trans (Tree.found_modify_self hs.input fun e => finds_removeClass e _)

/-- Over an empty list the calls of an answer display this answer. -/
theorem Displays.showing (h : p.Displays s []) (hs : p.Has s) (g : Layout Int)
    (fragments : List Fragment) :
    (p.performAll s (SearchPanel.showing g fragments)).Displays s fragments := by
  have hcontent := View.content_applyAll_showing { hasResults := false } g fragments
  have hshown : (p.performAll s (SearchPanel.showing g fragments)).Shows s
      (({ hasResults := false } : View Int).applyAll (SearchPanel.showing g fragments)).content :=
    ⟨(Shows.performAll h hs).list, (Shows.performAll h hs).mark⟩
  rw [hcontent] at hshown
  exact ⟨hshown.list, hshown.mark.trans (Bool.false_or _)⟩

theorem Displays.performAll_of_apart (h : p.Displays s' fragments) (ha : s.Apart s') :
    (p.performAll s calls).Displays s' fragments := Shows.performAll_of_apart h ha

/-- What is displayed depends on the elements alone. -/
theorem Displays.of_tree (h : p.Displays s fragments) (htree : q.tree = p.tree) :
    q.Displays s fragments :=
  ⟨htree ▸ Shows.list h, (congrArg (Tree.found · _ _) htree).trans (Shows.mark h)⟩

theorem Displays.with_controller (h : p.Displays s fragments) (c : Controller) :
    p.Displays { s with controller := c } fragments := by
  obtain ⟨hlist, hmark⟩ := h
  exact ⟨hlist, hmark⟩

/-! ## Trees that show the same -/

/-- All lists and marks are the same, and there are as many elements. -/
structure Tree.SameShown (t t' : Tree) : Prop where
  length : t'.elements.length = t.elements.length
  list : ∀ k, t'.markup? k = t.markup? k
  mark : ∀ k, t'.found (.ofClass hasResultsClass) k = t.found (.ofClass hasResultsClass) k

namespace Tree.SameShown

variable {t t' u : Tree}

theorem refl (t : Tree) : t.SameShown t := ⟨rfl, fun _ => rfl, fun _ => rfl⟩

theorem trans (h : t.SameShown t') (h' : t'.SameShown u) : t.SameShown u :=
  ⟨h'.length.trans h.length, fun k => (h'.list k).trans (h.list k),
    fun k => (h'.mark k).trans (h.mark k)⟩

theorem displays (h : p.tree.SameShown q.tree) (hd : p.Displays s fragments) :
    q.Displays s fragments :=
  ⟨(h.list _).trans (Shows.list hd), (h.mark _).trans (Shows.mark hd)⟩

end Tree.SameShown

/-- A change of an element that is neither its markup nor its classes. -/
theorem Tree.sameShown_modify (t : Tree) (k : Nat) {f : Element → Element}
    (hmarkup : ∀ e, (f e).markup = e.markup) (hclasses : ∀ e, (f e).classes = e.classes) :
    t.SameShown (t.modify k f) :=
  ⟨length_modify .., fun _ => markup?_modify hmarkup,
    fun _ => found_modify fun e => congrArg (List.contains · _) (hclasses e)⟩

end Page

end SearchPanel
