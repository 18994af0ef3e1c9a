import Mathlib.Data.List.Forall2
import Mathlib.Data.List.Pairwise
import SearchPanel.Proofs.Page.Shortcut

/-!
# Which sections get a panel

* `Page.completeSections p`: the search sections that have an input and a place for results, if the
  page has a sidebar. Whether a section is one is told by what stands in it.
* `Page.PanelFor p config root s`: `s` is the new panel for the section `root`. On a page of HTML
  elements whose sections do not stand in each other, a section has one exactly if it is complete
  (`sectionOf_eq_ok_iff`, `exists_panelFor_iff`).
* `get?_foldl_adjust`: lists that belong to different panels each get their own height.
* `Page.listeners p target`: the panels that listen to an element. Wiring a panel adds it once
  (`listeners_append`).
* `attach_wires_complete`: what the attaching of panels does.
-/

namespace SearchPanel.Page

variable {p q : Page} {t : Tree} {s s' : Section} {sections new : List Section} {config : Config}
  {selector : Selector} {lack : Lack} {root j k : Nat}

/-! ## Complete sections -/

/-- The elements that stand in an element, in document order. -/
def Tree.within (t : Tree) (root : Nat) : List Element :=
  ((List.range t.elements.length).filter fun k => (t.ancestors k).contains root).filterMap t.get?

/-- There is all that a panel needs of its section: an input for text and a place for results. -/
def Complete (content : List Element) : Prop :=
  (∃ e ∈ content, Selector.searchInput.finds e = true) ∧
    ∃ e ∈ content, resultsSelector.finds e = true

instance (content : List Element) : Decidable (Complete content) :=
  inferInstanceAs (Decidable (_ ∧ _))

/-- The page has a sidebar. -/
def HasSidebar (p : Page) : Prop := p.tree.selectAll sidebarSelector ≠ []

instance (p : Page) : Decidable p.HasSidebar := inferInstanceAs (Decidable (_ ≠ _))

/-- The search sections that have all that a panel needs, in document order; none without a
sidebar. -/
def completeSections (p : Page) : List Nat :=
  (p.tree.selectAll sectionSelector).filter fun root =>
    Complete (p.tree.within root) ∧ p.HasSidebar

/-- The new panel for a section: it works on the first input and the first place for results there,
on the first sidebar of the page, and on the section itself. -/
structure PanelFor (p : Page) (config : Config) (root : Nat) (s : Section) : Prop where
  controller : s.controller = { config }
  input : p.tree.selectIn root .searchInput = some s.input
  results : p.tree.selectIn root resultsSelector = some s.results
  sidebar : (p.tree.selectAll sidebarSelector).head? = some s.sidebar
  box : s.box = root

theorem Tree.mem_within {e : Element} :
    e ∈ t.within root ↔ ∃ k, t.get? k = some e ∧ root ∈ t.ancestors k := by
  simp only [within, List.mem_filterMap, List.mem_filter, List.mem_range, List.contains_iff_mem]
  constructor
  · rintro ⟨k, ⟨-, hin⟩, he⟩
    exact ⟨k, he, hin⟩
  · rintro ⟨k, he, hin⟩
    exact ⟨k, ⟨(List.getElem?_eq_some_iff.1 he).1, hin⟩, he⟩

/-- A selector finds something in an element if it finds one of the elements there. -/
theorem Tree.isSome_selectIn_iff :
    (t.selectIn root selector).isSome = true ↔ ∃ e ∈ t.within root, selector.finds e = true := by
  rw [selectIn, List.find?_isSome]
  simp only [List.mem_range, Bool.and_eq_true, List.contains_iff_mem, found_iff, mem_within]
  constructor
  · rintro ⟨k, -, ⟨e, he, hfinds⟩, hin⟩
    exact ⟨e, ⟨k, he, hin⟩, hfinds⟩
  · rintro ⟨e, ⟨k, he, hin⟩, hfinds⟩
    exact ⟨k, (List.getElem?_eq_some_iff.1 he).1, ⟨e, he, hfinds⟩, hin⟩

/-- A complete section has exactly what is asked for in it. -/
theorem exists_panelFor_iff (p : Page) (config : Config) (root : Nat) :
    (∃ s, p.PanelFor config root s) ↔ Complete (p.tree.within root) ∧ p.HasSidebar := by
  rw [Complete, ← Tree.isSome_selectIn_iff, ← Tree.isSome_selectIn_iff, HasSidebar,
    ← List.isSome_head?]
  simp only [Option.isSome_iff_exists]
  constructor
  · rintro ⟨s, h⟩
    exact ⟨⟨⟨_, h.input⟩, _, h.results⟩, _, h.sidebar⟩
  · rintro ⟨⟨⟨input, hi⟩, results, hr⟩, sidebar, hs⟩
    exact ⟨⟨input, results, sidebar, root, { config }⟩, rfl, hi, hr, hs, rfl⟩

/-! ## The section around an input -/

/-- The section around an input is the one that it was found in. -/
theorem closest_section (hflat : p.Flat) (hroot : root ∈ p.tree.selectAll sectionSelector)
    (hin : root ∈ p.tree.ancestors k) : p.tree.closest k sectionSelector = some root := by
  obtain ⟨hfound, hattached⟩ := Tree.mem_selectAll.1 hroot
  have hsome : (p.tree.closest k sectionSelector).isSome = true :=
    List.find?_isSome.2 ⟨root, .tail _ hin, hfound⟩
  obtain ⟨box, hbox⟩ := Option.isSome_iff_exists.1 hsome
  have hfoundBox : p.tree.found sectionSelector box = true := List.find?_some hbox
  rw [hbox]
  rcases List.mem_cons.1 (List.mem_of_find?_eq_some hbox) with rfl | hmem
  · have hsection : box ∈ p.tree.selectAll sectionSelector :=
      Tree.mem_selectAll.2 ⟨hfoundBox, (Tree.attached_of_mem hin) ▸ hattached⟩
    exact absurd hin (hflat root hroot box hsection)
  · have hsection : box ∈ p.tree.selectAll sectionSelector :=
      Tree.mem_selectAll.2 ⟨hfoundBox,
        (Tree.attached_of_mem hmem).trans ((Tree.attached_of_mem hin).symm.trans hattached)⟩
    rcases Tree.mem_ancestors_or_mem_ancestors hmem hin with rfl | hb | hr
    · rfl
    · exact absurd hb (hflat box hsection root hroot)
    · exact absurd hr (hflat root hroot box hsection)

/-! ## The panel for a section -/

/-- A page without drawings. -/
def AllHtml (p : Page) : Prop := ∀ e ∈ p.tree.elements, e.isHtml = true

theorem needHtml_eq_ok_iff (hhtml : p.AllHtml) {found : Option Nat}
    (hfound : ∀ l, found = some l → l < p.tree.elements.length) :
    p.needHtml lack found = .ok k ↔ found = some k := by
  constructor
  · exact eq_some_of_needHtml
  · rintro rfl
    have hk := hfound k rfl
    have he : ((p.tree.get? k).map (·.isHtml)).getD false = true := by
      rw [Tree.get?_eq_getElem hk]
      exact hhtml _ (List.getElem_mem hk)
    exact if_pos he

theorem Tree.lt_of_selectIn (h : t.selectIn root selector = some k) : k < t.elements.length :=
  (mem_of_selectIn h).1

/-- A section gets a panel exactly if it has all that the panel needs, and the panel is new and
works on what stands in the section. -/
theorem sectionOf_eq_ok_iff (hhtml : p.AllHtml) (hflat : p.Flat)
    (hroot : root ∈ p.tree.selectAll sectionSelector) :
    p.sectionOf config root = .ok s ↔ p.PanelFor config root s := by
  have hsidebar : ∀ l, (p.tree.selectAll sidebarSelector).head? = some l →
      l < p.tree.elements.length := fun l hl =>
    List.mem_range.1 (List.mem_filter.1 (List.mem_of_head? hl)).1
  have hsection : root < p.tree.elements.length :=
    List.mem_range.1 (List.mem_filter.1 hroot).1
  constructor
  · intro h
    obtain ⟨input, hi, h⟩ := exists_of_bind_eq_ok h
    obtain ⟨results, hr, h⟩ := exists_of_bind_eq_ok h
    obtain ⟨sidebar, hs, h⟩ := exists_of_bind_eq_ok h
    obtain ⟨box, hb, h⟩ := exists_of_bind_eq_ok h
    cases h
    have hinput := eq_some_of_needHtml hi
    have hbox := closest_section hflat hroot (Tree.mem_of_selectIn hinput).2
    refine ⟨rfl, hinput, eq_some_of_needHtml hr, eq_some_of_needHtml hs, ?_⟩
    exact Option.some.inj ((eq_some_of_needHtml hb).symm.trans hbox)
  · rintro ⟨hcontroller, hinput, hresults, hside, hbox⟩
    obtain ⟨input, results, sidebar, box, controller⟩ := s
    obtain rfl : controller = { config } := hcontroller
    obtain rfl : box = root := hbox
    have hclosest := closest_section hflat hroot (Tree.mem_of_selectIn hinput).2
    have hi : p.needHtml .input (p.tree.selectIn box .searchInput) = .ok input :=
      (needHtml_eq_ok_iff hhtml fun _ => Tree.lt_of_selectIn).2 hinput
    have hr : p.needHtml .results (p.tree.selectIn box resultsSelector) = .ok results :=
      (needHtml_eq_ok_iff hhtml fun _ => Tree.lt_of_selectIn).2 hresults
    have hs : p.needHtml .sidebar (p.tree.selectAll sidebarSelector).head? = .ok sidebar :=
      (needHtml_eq_ok_iff hhtml hsidebar).2 hside
    have hb : p.needHtml .enclosing (p.tree.closest input sectionSelector) = .ok box :=
      (needHtml_eq_ok_iff hhtml fun l hl => Option.some.inj (hclosest.symm.trans hl) ▸ hsection).2
        hclosest
    rw [sectionOf, hi, hr, hs]
    show (p.needHtml .enclosing (p.tree.closest input sectionSelector) >>= _) = _
    rw [hb]
    rfl

/-- The panels for some sections are those for the complete ones among them, in their order. -/
theorem forall₂_panelsOf (hhtml : p.AllHtml) (hflat : p.Flat) (config : Config) {roots : List Nat}
    (hroots : ∀ root ∈ roots, root ∈ p.tree.selectAll sectionSelector) :
    List.Forall₂ (p.PanelFor config)
      (roots.filter fun root => Complete (p.tree.within root) ∧ p.HasSidebar)
      (p.panelsOf config roots) := by
  induction roots with
  | nil => exact .nil
  | cons root rest ih =>
    obtain ⟨hroot, hrest⟩ := List.forall_mem_cons.1 hroots
    cases hs : p.sectionOf config root with
    | error lack =>
      have hlacks : ¬ (Complete (p.tree.within root) ∧ p.HasSidebar) := by
        rw [← p.exists_panelFor_iff config]
        rintro ⟨s, h⟩
        cases hs.symm.trans ((sectionOf_eq_ok_iff hhtml hflat hroot).2 h)
      rw [List.filter_cons_of_neg (by rwa [decide_eq_true_iff]), panelsOf,
        List.filterMap_cons_none (by rw [hs]; rfl)]
      exact ih hrest
    | ok s =>
      have hpanel := (sectionOf_eq_ok_iff hhtml hflat hroot).1 hs
      have hcomplete := (p.exists_panelFor_iff config root).1 ⟨s, hpanel⟩
      rw [List.filter_cons_of_pos (by rwa [decide_eq_true_iff]), panelsOf,
        List.filterMap_cons_some (by rw [hs]; rfl)]
      exact .cons hpanel (ih hrest)

/-! ## Heights -/

theorem get?_adjust (p : Page) (s : Section) (j : Nat) : (p.adjust s).tree.get? j =
    if s.results = j ∧ p.tree.childCount s.results ≠ 0 then
      (p.tree.get? j).map fun e => { e with maxHeight := some (p.layoutOf s).maxHeight }
    else p.tree.get? j := by
  unfold adjust Layout.adjust
  by_cases hc : p.tree.childCount s.results = 0
  · rw [if_pos hc, if_neg fun h => h.2 hc]
    rfl
  · rw [if_neg hc]
    show (p.tree.modify s.results _).get? j = _
    rw [Tree.get?_modify]
    by_cases hj : s.results = j
    · rw [if_pos hj, if_pos ⟨hj, hc⟩]
    · rw [if_neg hj, if_neg fun h => hj h.1]

/-- As much stands in each element of one tree as in the other, and it is as high. -/
structure Tree.SameMeasures (t t' : Tree) : Prop where
  length : t'.elements.length = t.elements.length
  childCount : ∀ k, t'.childCount k = t.childCount k
  height : ∀ k, (t'.get? k).map (·.height) = (t.get? k).map (·.height)

theorem Tree.SameMeasures.layoutOf (h : p.tree.SameMeasures q.tree) (s : Section) :
    q.layoutOf s = p.layoutOf s := by
  simp only [Page.layoutOf, heightOf, h.height]

theorem Tree.SameMeasures.trans {t t' u : Tree} (h : t.SameMeasures t') (h' : t'.SameMeasures u) :
    t.SameMeasures u :=
  ⟨h'.length.trans h.length, fun k => (h'.childCount k).trans (h.childCount k),
    fun k => (h'.height k).trans (h.height k)⟩

theorem Tree.SameMeasures.refl (t : Tree) : t.SameMeasures t := ⟨rfl, fun _ => rfl, fun _ => rfl⟩

/-- How much stands in an element is told by the places of all elements, and by its own markup. -/
theorem Tree.childCount_modify {f : Element → Element} (hplace : ∀ e, (f e).place = e.place)
    (hitems : ∀ e, (f e).items = e.items) (t : Tree) (j k : Nat) :
    (t.modify j f).childCount k = t.childCount k := by
  have hparent : ∀ l, (t.modify j f).parent? l = t.parent? l := fun l =>
    parent?_congr (map_get?_modify hplace t j l)
  rw [childCount, childCount, map_get?_modify hitems, children, children, length_modify]
  simp only [hparent]

theorem sameMeasures_adjust (p : Page) (s : Section) :
    p.tree.SameMeasures (p.adjust s).tree := by
  unfold adjust
  cases (p.layoutOf s).adjust (p.tree.childCount s.results) with
  | none => exact .refl p.tree
  | some h =>
    let f : Element → Element := fun e => { e with maxHeight := some h }
    exact ⟨p.tree.length_modify s.results f,
      Tree.childCount_modify (f := f) (fun _ => rfl) (fun _ => rfl) p.tree s.results,
      Tree.map_get?_modify (f := f) (fun _ => rfl) p.tree s.results⟩

theorem sameMeasures_foldl_adjust (p : Page) (sections : List Section) :
    p.tree.SameMeasures (sections.foldl adjust p).tree := by
  induction sections generalizing p with
  | nil => exact .refl p.tree
  | cons s rest ih => exact (p.sameMeasures_adjust s).trans (ih (p.adjust s))

theorem length_setHeights (p : Page) (heights : List (Nat × Int)) :
    (p.setHeights heights).tree.elements.length = p.tree.elements.length :=
  (p.kept_setHeights heights).tree.length

theorem childCount_setHeights (p : Page) (heights : List (Nat × Int)) (k : Nat) :
    (p.setHeights heights).tree.childCount k = p.tree.childCount k := by
  have hall : ∀ t : Tree, (heights.foldl (fun t h =>
      t.modify h.1 fun e => { e with height := h.2 }) t).childCount k = t.childCount k := by
    induction heights with
    | nil => exact fun _ => rfl
    | cons h rest ih =>
      let f : Element → Element := fun e => { e with height := h.2 }
      exact fun t => (ih _).trans
        (Tree.childCount_modify (f := f) (fun _ => rfl) (fun _ => rfl) t h.1 k)
  exact hall p.tree

/-- Lists that belong to different panels each get their own height, if there is anything in them. -/
theorem get?_foldl_adjust (p : Page) (hapart : sections.Pairwise Section.Apart) (j : Nat) :
    (sections.foldl adjust p).tree.get? j =
      match sections.find? fun s => s.results = j ∧ p.tree.childCount s.results ≠ 0 with
      | some s => (p.tree.get? j).map fun e => { e with maxHeight := some (p.layoutOf s).maxHeight }
      | none => p.tree.get? j := by
  induction sections generalizing p with
  | nil => rfl
  | cons s rest ih =>
    obtain ⟨hs, hrest⟩ := List.pairwise_cons.1 hapart
    have hsame := p.sameMeasures_adjust s
    rw [List.foldl_cons, ih (p.adjust s) hrest, get?_adjust]
    simp only [hsame.childCount, hsame.layoutOf]
    by_cases hj : s.results = j ∧ p.tree.childCount s.results ≠ 0
    · -- No other list is the one that has got its height.
      have hnone : rest.find? (fun s => s.results = j ∧ p.tree.childCount s.results ≠ 0) = none := by
        rw [List.find?_eq_none]
        intro s' hs' h'
        exact (hs s' hs').results (hj.1.trans (of_decide_eq_true h').1.symm)
      rw [List.find?_cons_of_pos (by rwa [decide_eq_true_iff]), hnone]
      exact if_pos hj
    · rw [List.find?_cons_of_neg (by rwa [decide_eq_true_iff])]
      simp only [if_neg hj]

instance : Std.Symm Section.Apart where
  symm _ _ h := h.symm

theorem get?_foldl_adjust_of_mem (hapart : sections.Pairwise Section.Apart) (hs : s ∈ sections)
    (hc : p.tree.childCount s.results ≠ 0) :
    (sections.foldl adjust p).tree.get? s.results = (p.tree.get? s.results).map fun e =>
      { e with maxHeight := some (p.layoutOf s).maxHeight } := by
  have hsome : (sections.find? fun s' =>
      s'.results = s.results ∧ p.tree.childCount s'.results ≠ 0).isSome = true :=
    List.find?_isSome.2 ⟨s, hs, decide_eq_true ⟨rfl, hc⟩⟩
  obtain ⟨s', hs'⟩ := Option.isSome_iff_exists.1 hsome
  have hresults := List.find?_some hs'
  rw [decide_eq_true_iff] at hresults
  obtain rfl : s' = s := by
    by_contra hne
    exact (hapart.forall (List.mem_of_find?_eq_some hs') hs hne).results
      hresults.1
  rw [p.get?_foldl_adjust hapart, hs']

theorem get?_foldl_adjust_of_forall (hapart : sections.Pairwise Section.Apart)
    (hk : ∀ s ∈ sections, s.results = k → p.tree.childCount k = 0) :
    (sections.foldl adjust p).tree.get? k = p.tree.get? k := by
  have hnone : (sections.find? fun s => s.results = k ∧ p.tree.childCount s.results ≠ 0) = none := by
    rw [List.find?_eq_none]
    intro s hs h
    obtain ⟨hresults, hc⟩ := of_decide_eq_true h
    exact hc (hresults ▸ hk s hs hresults)
  rw [p.get?_foldl_adjust hapart, hnone]

theorem tree_adjust_congr (h : p.tree = q.tree) (s : Section) :
    (p.adjust s).tree = (q.adjust s).tree := by
  have hlayout : p.layoutOf s = q.layoutOf s := by simp only [layoutOf, heightOf, h]
  unfold adjust
  rw [h, hlayout]
  cases (q.layoutOf s).adjust (q.tree.childCount s.results) with
  | none => exact h
  | some height => exact congrArg (Tree.modify · _ _) h

theorem tree_foldl_adjust_congr (h : p.tree = q.tree) (sections : List Section) :
    (sections.foldl adjust p).tree = (sections.foldl adjust q).tree := by
  induction sections generalizing p q with
  | nil => exact h
  | cons s rest ih => exact ih (tree_adjust_congr h s)

/-- The tree after some sections were wired: the lists of their panels got their heights. -/
theorem tree_wireAll (p : Page) (config : Config) (roots : List Nat) :
    (p.wireAll config roots).2.1.tree = ((p.panelsOf config roots).foldl adjust p).tree := by
  induction roots generalizing p with
  | nil => rfl
  | cons root rest ih =>
    unfold wireAll
    cases hs : p.sectionOf config root with
    | error lack =>
      rw [panelsOf, List.filterMap_cons_none (by rw [hs]; rfl)]
      exact ih p
    | ok s =>
      rw [panelsOf, List.filterMap_cons_some (by rw [hs]; rfl), List.foldl_cons]
      refine (ih (p.wire s)).trans ?_
      rw [panelsOf]
      simp only [sectionOf_wire]
      have hwire : (p.wire s).tree = (p.adjust s).tree :=
        tree_adjust_congr (p := { p with panels := p.panels ++ [s] }) (q := p) rfl s
      exact tree_foldl_adjust_congr hwire _

/-! ## Listening -/

/-- The panels that listen to an element. -/
def listeners (p : Page) (target : Nat) : List Nat :=
  (p.panels.zipIdx.filter (·.1.input = target)).map (·.2)

/-- Every panel that listens starts one query. -/
theorem tasks_startQueries (p : Page) (target : Nat) : (p.startQueries target).tasks =
    p.tasks ++ (p.listeners target).map fun k => { panel := k, query := p.valueOf target } := rfl

theorem tasks_type (hk : k < p.tree.elements.length) (text : String) :
    (p.handle (.type k text)).2.1.tasks =
      p.tasks ++ (p.listeners k).map fun j => { panel := j, query := text } := by
  show (Page.startQueries _ k).tasks = _
  rw [tasks_startQueries, valueOf, Tree.get?_modify, if_pos rfl, Tree.get?_eq_getElem hk]
  rfl

theorem tasks_focus (hk : p.active ≠ some k) : (p.handle (.focus k)).2.1.tasks =
    p.tasks ++ (p.listeners k).map fun j => { panel := j, query := p.valueOf k } := by
  show (p.focus k).tasks = _
  rw [focus, if_neg hk]
  rfl

/-- Panels with inputs of their own each listen once. -/
theorem filter_zipIdx_input (hapart : new.Pairwise Section.Apart) (hs : new[k]? = some s) (n : Nat) :
    (new.zipIdx n).filter (·.1.input = s.input) = [(s, n + k)] := by
  have hnone : ∀ (l : List Section) m, (∀ s' ∈ l, s'.input ≠ s.input) →
      (l.zipIdx m).filter (·.1.input = s.input) = [] := by
    intro l m hl
    rw [List.filter_eq_nil_iff]
    intro e he
    rw [decide_eq_true_iff]
    exact hl e.1 (List.fst_mem_of_mem_zipIdx he)
  induction new generalizing k n with
  | nil => cases hs
  | cons s' rest ih =>
    obtain ⟨hfirst, hrest⟩ := List.pairwise_cons.1 hapart
    cases k with
    | zero =>
      obtain rfl : s' = s := Option.some.inj hs
      rw [List.zipIdx_cons, List.filter_cons_of_pos (by simp),
        hnone rest (n + 1) fun s'' h => (hfirst s'' h).input.symm]
      rfl
    | succ k =>
      have hne : s'.input ≠ s.input := (hfirst s (List.mem_of_getElem? hs)).input
      rw [List.zipIdx_cons, List.filter_cons_of_neg (by simpa using hne), ih hrest hs (n + 1)]
      simp only [List.cons.injEq, Prod.mk.injEq, true_and, and_true]
      omega

/-- A new panel listens to its input, behind those that were there before. -/
theorem listeners_append (hpanels : q.panels = p.panels ++ new)
    (hapart : new.Pairwise Section.Apart) (hs : new[k]? = some s) :
    q.listeners s.input = p.listeners s.input ++ [p.panels.length + k] := by
  rw [listeners, hpanels, List.zipIdx_append, List.filter_append, List.map_append,
    filter_zipIdx_input hapart hs, Nat.zero_add]
  rfl

/-- To other elements no new panel listens. -/
theorem listeners_of_ne (hpanels : q.panels = p.panels ++ new) (hk : ∀ s ∈ new, s.input ≠ k) :
    q.listeners k = p.listeners k := by
  have hnone : (new.zipIdx (0 + p.panels.length)).filter (·.1.input = k) = [] := by
    rw [List.filter_eq_nil_iff]
    intro e he
    rw [decide_eq_true_iff]
    exact hk e.1 (List.fst_mem_of_mem_zipIdx he)
  rw [listeners, hpanels, List.zipIdx_append, List.filter_append, hnone, List.append_nil]
  rfl

/-! ## Main result -/

/-- A call that returns makes a panel for each section that lacks nothing, and gives the lists of
these panels their heights. -/
theorem attach_eq_ok {options : OptionValue} {n : Nat} (h : (p.attach options).1 = .ok n) :
    ∃ o new, PageOptions.ofValue options = .ok o ∧
      new = p.panelsOf o.toConfig (p.tree.selectAll sectionSelector) ∧ n = new.length ∧
      (p.attach options).2.1.panels = p.panels ++ new ∧
      (p.attach options).2.1.tasks = p.tasks ∧
      (p.attach options).2.1.tree = (new.foldl adjust p).tree := by
  revert h
  unfold attach
  cases ho : PageOptions.ofValue options with
  | error e => exact fun h => by cases h
  | ok o =>
    simp only
    split
    · exact fun h => by cases h
    · split
      · exact fun h => by cases h
      · split
        · next hsections =>
          intro h
          cases h
          rw [show p.tree.selectAll sectionSelector = [] from hsections]
          exact ⟨o, [], rfl, rfl, rfl, (List.append_nil _).symm, rfl, rfl⟩
        · next first rest hsections =>
          intro h
          obtain ⟨hwired, hpanels, htasks, -, -⟩ :=
            (p.setVerbosity Level.info.rank).wireAll_spec o.toConfig (first :: rest)
          rw [show p.tree.selectAll sectionSelector = first :: rest from hsections]
          refine ⟨o, _, rfl, rfl, ?_, hpanels, htasks, ?_⟩
          · exact (Except.ok.inj h).symm.trans hwired
          · exact (tree_wireAll _ o.toConfig (first :: rest)).trans
              (tree_foldl_adjust_congr (p := p.setVerbosity Level.info.rank) (q := p) rfl _)

theorem pairwise_apart_panelsOf (hflat : p.Flat) (config : Config) :
    (p.panelsOf config (p.tree.selectAll sectionSelector)).Pairwise Section.Apart := by
  obtain ⟨new, hwired⟩ := p.wired_wireAll config (Tree.pairwise_unnested hflat)
  obtain ⟨-, hpanels, -⟩ := p.wireAll_spec config (p.tree.selectAll sectionSelector)
  rw [← List.append_cancel_left (hwired.panels.symm.trans hpanels)]
  exact hwired.apart

/-- **Which sections get a panel.** Panels are attached to a page of HTML elements none of whose
search sections stands in another one, and the call returns `n`.

* `n` is the number of complete sections: those in which an input and a place for results stand,
  while the page has a sidebar. Each of them gets one new panel, in document order, and no other
  section does. Whether a section is complete is told by what stands in it.
* No two of the panels share an input or a list. Typing into an input of theirs, or focusing it,
  starts one query for its panel, besides those of panels that listened before. They listen to
  nothing else.
* A list with anything in it gets the height that its section leaves of the sidebar. All else about
  all elements stays. When the window changes, such a list gets its height anew. -/
theorem attach_wires_complete (hhtml : p.AllHtml) (hflat : p.Flat) {options : OptionValue} {n : Nat}
    (h : (p.attach options).1 = .ok n) :
    let q := (p.attach options).2.1
    n = p.completeSections.length ∧
    ∃ o new, PageOptions.ofValue options = .ok o ∧ q.panels = p.panels ++ new ∧
      List.Forall₂ (p.PanelFor o.toConfig) p.completeSections new ∧
      new.Pairwise Section.Apart ∧
      (∀ k s, new[k]? = some s →
        let started := p.listeners s.input ++ [p.panels.length + k]
        (∀ text, (q.handle (.type s.input text)).2.1.tasks =
          p.tasks ++ started.map fun j => { panel := j, query := text }) ∧
        (q.active ≠ some s.input → (q.handle (.focus s.input)).2.1.tasks =
          p.tasks ++ started.map fun j => { panel := j, query := q.valueOf s.input })) ∧
      (∀ target, (∀ s ∈ new, s.input ≠ target) → q.listeners target = p.listeners target) ∧
      (∀ s ∈ new, p.tree.childCount s.results ≠ 0 →
        q.tree.get? s.results = (p.tree.get? s.results).map fun e =>
          { e with maxHeight := some (p.heightOf s.sidebar - p.heightOf s.box) }) ∧
      (∀ k, (∀ s ∈ new, s.results = k → p.tree.childCount k = 0) →
        q.tree.get? k = p.tree.get? k) ∧
      ∀ heights, ∀ s ∈ new, p.tree.childCount s.results ≠ 0 →
        let resized := (q.handle (.resize heights)).2.1
        (resized.tree.get? s.results).map (·.maxHeight) =
          some (some (resized.heightOf s.sidebar - resized.heightOf s.box)) := by
  intro q
  obtain ⟨o, new, ho, hnew, hlength, hpanels, htasks, htree⟩ := attach_eq_ok h
  have hfor : List.Forall₂ (p.PanelFor o.toConfig) p.completeSections new :=
    hnew ▸ forall₂_panelsOf hhtml hflat o.toConfig fun _ hroot => hroot
  have hapart : new.Pairwise Section.Apart := hnew ▸ pairwise_apart_panelsOf hflat o.toConfig
  have hsame : p.tree.SameMeasures q.tree := htree ▸ p.sameMeasures_foldl_adjust new
  have hhas : ∀ s ∈ new, p.Has s := by
    intro s hs
    obtain ⟨root, -, hroot⟩ := List.mem_filterMap.1 (hnew ▸ hs)
    exact (of_sectionOf (eq_ok_of_toOption hroot)).2.1
  refine ⟨hlength.trans hfor.length_eq.symm, o, new, ho, hpanels, hfor, hapart, ?_, ?_, ?_, ?_, ?_⟩
  · intro k s hs started
    have hlisteners : q.listeners s.input = started := listeners_append hpanels hapart hs
    refine ⟨fun text => ?_, fun hactive => ?_⟩
    · have hinput : s.input < q.tree.elements.length :=
        hsame.length ▸ (hhas s (List.mem_of_getElem? hs)).input
      rw [tasks_type hinput, hlisteners, htasks]
    · rw [tasks_focus hactive, hlisteners, htasks]
  · exact fun target => listeners_of_ne hpanels
  · intro s hs hc
    rw [htree]
    exact get?_foldl_adjust_of_mem hapart hs hc
  · intro k hk
    rw [htree]
    exact get?_foldl_adjust_of_forall hapart hk
  · intro heights s hs hc resized
    let r := p.panels.foldl adjust (q.setHeights heights)
    have hresized : resized = new.foldl adjust r := by
      show q.panels.foldl adjust (q.setHeights heights) = _
      rw [hpanels, List.foldl_append]
    have hmeasures := sameMeasures_foldl_adjust (q.setHeights heights) p.panels
    have hc' : r.tree.childCount s.results ≠ 0 := by
      rw [hmeasures.childCount, childCount_setHeights, hsame.childCount]
      exact hc
    have hlist : s.results < r.tree.elements.length := by
      rw [hmeasures.length, length_setHeights, hsame.length]
      exact (hhas s hs).results
    have hlayout : resized.layoutOf s = r.layoutOf s :=
      hresized ▸ (sameMeasures_foldl_adjust r new).layoutOf s
    show _ = some (some (resized.layoutOf s).maxHeight)
    rw [hlayout, hresized, get?_foldl_adjust_of_mem hapart hs hc', Tree.get?_eq_getElem hlist]
    rfl

/-- Three search sections: the first one has everything and an empty list, the second one has no
input, and in the list of the third one something stands already. -/
def threeSections : Page where
  tree := .ofNodes [
    .element { tag := "div", classes := ["sidebar__content"], height := 600 } [
      .element { tag := "section", classes := ["sidebar__section--search"], height := 100 } [
        .element { tag := "input", type := some "search" } [],
        .element { tag := "ul", classes := ["sidebar__section--search-results"] } []],
      .element { tag := "section", classes := ["sidebar__section--search"] } [
        .element { tag := "ul", classes := ["sidebar__section--search-results"] } []],
      .element { tag := "section", classes := ["sidebar__section--search"], height := 250 } [
        .element { tag := "input", type := some "TEXT" } [],
        .element { tag := "ul", classes := ["sidebar__section--search-results"] } [
          .element { tag := "li" } []]]]]

/-- The first and the third section get a panel, and the list of the third one its height. -/
theorem attach_wires_complete_three :
    let q := (threeSections.attach .undefined).2.1
    threeSections.AllHtml ∧ threeSections.Flat ∧
      (threeSections.attach .undefined).1 = .ok 2 ∧ threeSections.completeSections = [1, 6] ∧
      ∃ new, q.panels = new ∧ List.Forall₂ (threeSections.PanelFor {}) [1, 6] new ∧
        (q.handle (.type 7 "gate")).2.1.tasks = [{ panel := 1, query := "gate" }] ∧
        ((q.tree.get? 8).map (·.maxHeight)) = some (some 350) := by
  intro q
  have hhtml : threeSections.AllHtml := by
    unfold AllHtml
    decide +kernel
  have hflat : threeSections.Flat := by
    unfold Flat
    decide +kernel
  have hattach : (threeSections.attach .undefined).1 = .ok 2 := eq_ok_of_toOption (by decide +kernel)
  have hcomplete : threeSections.completeSections = [1, 6] := by decide +kernel
  obtain ⟨-, o, new, ho, hpanels, hfor, -, hlisten, -, hheight, -⟩ :=
    attach_wires_complete hhtml hflat hattach
  cases ho
  rw [hcomplete] at hfor
  refine ⟨hhtml, hflat, hattach, hcomplete, new, hpanels, hfor, ?_⟩
  obtain ⟨first, third, rfl, hthird⟩ : ∃ first third, new = [first, third] ∧
      threeSections.PanelFor {} 6 third := by
    obtain _ | ⟨-, _ | ⟨hthird, _ | _⟩⟩ := hfor
    exact ⟨_, _, rfl, hthird⟩
  have hinput : third.input = 7 := Option.some.inj (hthird.input.symm.trans (by decide +kernel))
  have hresults : third.results = 8 :=
    Option.some.inj (hthird.results.symm.trans (by decide +kernel))
  have hsidebar : third.sidebar = 0 :=
    Option.some.inj (hthird.sidebar.symm.trans (by decide +kernel))
  constructor
  · have htasks := (hlisten 1 third rfl).1 "gate"
    rw [hinput] at htasks
    exact htasks
  · have hlist := hheight third (by simp) (by rw [hresults]; decide +kernel)
    rw [hresults, hsidebar, hthird.box] at hlist
    rw [show q.tree.get? 8 = _ from hlist]
    decide +kernel

end SearchPanel.Page
