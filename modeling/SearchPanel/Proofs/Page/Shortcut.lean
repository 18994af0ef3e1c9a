import SearchPanel.Proofs.Page.Emptied
import SearchPanel.Proofs.Page.Orderly

/-!
# Where the focus shortcut leads

* `wireAll_spec`: what is made of some sections is a panel for each that lacks nothing, in their
  order (`panelsOf`). Wiring one changes nothing for the others (`sectionOf_wire`).
* `Page.Attached p options result q`: the two ways in which panels can be attached (`attached`). The
  shortcut is led to the first section (`Attached.shortcuts_eq`), whether or not it got a panel.
* `handle_key`: a key that leads to the search input is kept from its other effects if the shortcut
  leads to a section at all. The first input that is found in this section then is asked to take the
  focus (`active_focusSection`). It is the section's own first one, unless markup that is shown in
  front of it brought another (`firstInput_of_selectIn`).
* `key_focuses_first_section`: so the key leads to the first panel if the first section got it and
  its input takes the focus. Elsewhere it may lead nowhere (`key_focuses_nothing`).
-/

namespace SearchPanel.Page

variable {p q : Page} {s : Section} {config : Config} {root k : Nat}

/-! ## Wiring a panel lacks nothing of the others -/

/-- A list that gets its height stays the same for all selectors. -/
theorem sectionOf_modify (p : Page) (k : Nat) {f : Element → Element}
    (hattributes : ∀ e, (f e).toAttributes = e.toAttributes) (hplace : ∀ e, (f e).place = e.place)
    (config : Config) (root : Nat) :
    sectionOf { p with tree := p.tree.modify k f } config root = p.sectionOf config root := by
  have hfinds : ∀ (selector : Selector) (e : Element), selector.finds (f e) = selector.finds e :=
    fun selector e => by cases selector <;> simp only [Selector.finds, hattributes]
  have hframe := p.tree.sameFrame_modify k hplace
  have hfound : ∀ selector j, (p.tree.modify k f).found selector j = p.tree.found selector j :=
    fun selector j => Tree.found_modify (hfinds selector)
  have hhtml : ∀ j, ((p.tree.modify k f).get? j).map (·.isHtml) =
      (p.tree.get? j).map (·.isHtml) :=
    Tree.map_get?_modify (fun e => by simp only [Element.isHtml, hattributes]) p.tree k
  have hselectIn : ∀ root selector,
      (p.tree.modify k f).selectIn root selector = p.tree.selectIn root selector := by
    intro root selector
    simp only [Tree.selectIn, hframe.length, hframe.ancestors, hfound]
  have hattached := p.tree.attached_modify k hplace
  have hselectAll : ∀ selector,
      (p.tree.modify k f).selectAll selector = p.tree.selectAll selector := by
    intro selector
    simp only [Tree.selectAll, hframe.length, hfound, hattached]
  have hclosest : ∀ j selector,
      (p.tree.modify k f).closest j selector = p.tree.closest j selector := by
    intro j selector
    rw [Tree.closest, Tree.closest, hframe.ancestors]
    exact congrArg (List.find? · _) (funext (hfound selector))
  simp only [sectionOf, hselectIn, hselectAll, hclosest]
  simp only [needHtml, hhtml]

theorem sectionOf_wire (p : Page) (s : Section) (config : Config) (root : Nat) :
    (p.wire s).sectionOf config root = p.sectionOf config root := by
  have hadjust : ∀ p : Page, (p.adjust s).sectionOf config root = p.sectionOf config root := by
    intro p
    unfold adjust
    cases (p.layoutOf s).adjust (p.tree.childCount s.results) with
    | none => rfl
    | some height =>
      exact p.sectionOf_modify s.results (f := fun e => { e with maxHeight := some height })
        (fun _ => rfl) (fun _ => rfl) config root
  exact hadjust { p with panels := p.panels ++ [s] }

/-- The panels for some sections, but for those that lack something. -/
def panelsOf (p : Page) (config : Config) (roots : List Nat) : List Section :=
  roots.filterMap fun root => (p.sectionOf config root).toOption

/-- What is made of some sections: a panel for each that lacks nothing. -/
theorem wireAll_spec (p : Page) (config : Config) (roots : List Nat) :
    (p.wireAll config roots).1 = (p.panelsOf config roots).length ∧
      (p.wireAll config roots).2.1.panels = p.panels ++ p.panelsOf config roots ∧
      (p.wireAll config roots).2.1.tasks = p.tasks ∧
      (p.wireAll config roots).2.1.shortcuts = p.shortcuts ∧
      p.tree.Emptied [] (p.wireAll config roots).2.1.tree := by
  induction roots generalizing p with
  | nil => exact ⟨rfl, (List.append_nil _).symm, rfl, rfl, .refl [] p.tree⟩
  | cons root rest ih =>
    unfold wireAll
    cases hs : p.sectionOf config root with
    | error lack =>
      have hpanels : p.panelsOf config (root :: rest) = p.panelsOf config rest :=
        List.filterMap_cons_none (by rw [hs]; rfl)
      rw [hpanels]
      exact ih p
    | ok s =>
      have hpanels : p.panelsOf config (root :: rest) = s :: (p.wire s).panelsOf config rest := by
        rw [panelsOf, List.filterMap_cons_some (by rw [hs]; rfl), panelsOf]
        simp only [sectionOf_wire]
      obtain ⟨hwired, hnew, htasks, hshortcuts, htree⟩ := ih (p.wire s)
      have hfirst : (p.wire s).panels = p.panels ++ [s] := panels_performAll ..
      rw [hpanels]
      refine ⟨congrArg (· + 1) hwired, ?_, ?_, ?_, ?_⟩
      · exact hnew.trans (by rw [hfirst, List.append_assoc, List.singleton_append])
      · exact htasks.trans (tasks_performAll ..)
      · exact hshortcuts.trans (rest_performAll ..).2
      · exact (emptied_adjust [] { p with panels := p.panels ++ [s] } s).trans htree

/-! ## Attaching panels to a bare page -/

/-- `Attached p options result q`: panels are attached to `p`, which gives `result` and leads to
`q`. Either there is nothing to attach them to, or the shortcut is led to the first section. -/
inductive Attached (p : Page) (options : OptionValue) : Except AttachError Nat → Page → Prop
  | nothing {result : Except AttachError Nat} {q : Page}
      (hresult : ∀ n, result = .ok n → n = 0 ∧ p.tree.selectAll sectionSelector = [] ∧
        ∃ o, PageOptions.ofValue options = .ok o)
      (hpanels : q.panels = p.panels) (htasks : q.tasks = p.tasks)
      (hshortcuts : q.shortcuts = p.shortcuts) : Attached p options result q
  | sections {o : PageOptions} {first : Nat} {rest : List Nat} {q : Page}
      (ho : PageOptions.ofValue options = .ok o)
      (hsections : p.tree.selectAll sectionSelector = first :: rest)
      (hpanels : q.panels = p.panels ++ p.panelsOf o.toConfig (first :: rest))
      (htasks : q.tasks = p.tasks) (hshortcuts : q.shortcuts = p.shortcuts ++ [first])
      (htree : p.tree.Emptied [] q.tree) :
      Attached p options (.ok (p.panelsOf o.toConfig (first :: rest)).length) q

theorem attached (p : Page) (options : OptionValue) :
    p.Attached options (p.attach options).1 (p.attach options).2.1 := by
  unfold attach
  cases ho : PageOptions.ofValue options with
  | error e => exact .nothing (fun n h => by cases h) rfl rfl rfl
  | ok o =>
    simp only
    split
    · exact .nothing (fun n h => by cases h) rfl rfl rfl
    · split
      · exact .nothing (fun n h => by cases h) rfl rfl rfl
      · split
        · next hsections =>
          refine .nothing (fun n h => ?_) rfl rfl rfl
          cases h
          exact ⟨rfl, hsections, o, ho⟩
        · next first rest hsections =>
          obtain ⟨hwired, hpanels, htasks, hshortcuts, htree⟩ :=
            (p.setVerbosity Level.info.rank).wireAll_spec o.toConfig (first :: rest)
          simp only [hwired]
          exact .sections ho hsections hpanels htasks (congrArg (· ++ [first]) hshortcuts) htree

namespace Attached

variable {options : OptionValue} {result : Except AttachError Nat} {first n : Nat} {rest : List Nat}

theorem tasks (h : p.Attached options result q) : q.tasks = p.tasks := by
  cases h with
  | nothing _ _ htasks => exact htasks
  | sections _ _ _ htasks => exact htasks

/-- The panels of a page are those of its sections. -/
theorem panels_eq (h : p.Attached options (.ok n) q) (hp : p.panels = []) :
    n = q.panels.length ∧ ∃ o, PageOptions.ofValue options = .ok o ∧
      q.panels = p.panelsOf o.toConfig (p.tree.selectAll sectionSelector) := by
  cases h with
  | nothing hresult hpanels =>
    obtain ⟨rfl, hsections, o, ho⟩ := hresult n rfl
    rw [hpanels, hp, hsections]
    exact ⟨rfl, o, ho, rfl⟩
  | sections ho hsections hpanels =>
    rw [hp, List.nil_append, ← hsections] at hpanels
    rw [← hsections]
    exact ⟨congrArg List.length hpanels.symm, _, ho, hpanels⟩

/-- The first section's panel is the first one, if the section got it. -/
theorem head?_panels (h : p.Attached options (.ok n) q) (hp : p.panels = [])
    (hfirst : p.tree.selectAll sectionSelector = first :: rest) {o : PageOptions}
    (ho : PageOptions.ofValue options = .ok o) (hs : p.sectionOf o.toConfig first = .ok s) :
    q.panels.head? = some s := by
  obtain ⟨-, o', ho', hpanels⟩ := h.panels_eq hp
  obtain rfl : o' = o := Except.ok.inj (ho'.symm.trans ho)
  rw [hpanels, hfirst, panelsOf, List.filterMap_cons_some (by rw [hs]; rfl), List.head?_cons]

/-- The shortcut is led to the first section of a page. -/
theorem shortcuts_eq (h : p.Attached options (.ok n) q)
    (hfirst : p.tree.selectAll sectionSelector = first :: rest) :
    q.shortcuts = p.shortcuts ++ [first] ∧ p.tree.Emptied [] q.tree := by
  cases h with
  | nothing hresult => cases hfirst.symm.trans (hresult n rfl).2.1
  | sections ho hsections hpanels htasks hshortcuts htree =>
    cases hfirst.symm.trans hsections
    exact ⟨hshortcuts, htree⟩

/-- Without a section there is neither a panel nor a shortcut. -/
theorem eq_of_no_section (h : p.Attached options result q)
    (hnone : ∀ n, result = .ok n → p.tree.selectAll sectionSelector = []) :
    q.panels = p.panels ∧ q.shortcuts = p.shortcuts := by
  cases h with
  | nothing _ hpanels _ hshortcuts => exact ⟨hpanels, hshortcuts⟩
  | sections _ hsections => cases hsections.symm.trans (hnone _ rfl)

end Attached

/-! ## The key -/

/-- The element that has the focus once an input that was found is asked to take it. -/
def focusAfter (p : Page) : Option FoundInput → Option Nat
  | some (.own k) => if p.takesFocus k then some k else p.active
  | some (.shown true) => none
  | some (.shown false) | none => p.active

theorem active_focus (p : Page) (k : Nat) : (p.focus k).active = some k := by
  unfold focus
  split
  · next h => exact h
  · rfl

theorem active_focusSection (p : Page) (root : Nat) :
    (p.focusSection root).active = p.focusAfter (p.firstInput root) := by
  unfold focusSection
  cases p.firstInput root with
  | none => rfl
  | some found =>
    cases found with
    | own k =>
      simp only [askFocus, focusAfter]
      split
      · exact p.active_focus k
      · rfl
    | shown focusable => cases focusable <;> rfl

/-- No markup that is shown in an element, in front of the element with the number `k`, brought an
input for text. -/
def NoneShownBefore (p : Page) (root k : Nat) : Prop :=
  ∀ j < k, root ∈ j :: p.tree.ancestors j →
    ∀ markup, p.tree.markup? j = some markup → p.inputIn markup = none

/-- The first input of the page's own is the one that is found, unless shown markup brought another
one in front of it. -/
theorem firstInput_of_selectIn (hk : p.tree.selectIn root .searchInput = some k)
    (hnone : p.NoneShownBefore root k) : p.firstInput root = some (.own k) := by
  obtain ⟨hpred, before, after, hsplit, hfirst⟩ := List.find?_eq_some_iff_append.1 hk
  have horder : (before ++ k :: after).Pairwise (· < ·) := hsplit ▸ List.pairwise_lt_range
  have hhere : p.inputAt root k = some (.own k) := if_pos hpred
  refine List.findSome?_eq_some_iff.2 ⟨before, k, after, hsplit, hhere, fun j hj => ?_⟩
  have hlt : j < k := (List.pairwise_append.1 horder).2.2 j hj k List.mem_cons_self
  have hother := hfirst j hj
  rw [Bool.not_eq_true', Bool.eq_false_iff] at hother
  rw [inputAt, if_neg hother]
  split
  · next hin =>
    have hshown : (p.tree.markup? j).bind p.inputIn = none :=
      Option.bind_eq_none_iff.2 (hnone j hlt (List.contains_iff_mem.1 hin))
    rw [hshown]
    rfl
  · rfl

/-- A key is pressed that leads to the search input. -/
theorem handle_key {key : String} {ctrl command : Bool} {target : Option Nat}
    (hkey : (KeyPress.mk key ctrl command (p.keyTarget target)).focusesSearch = true) :
    p.handle (.key key ctrl command target) =
      (.prevented (!p.shortcuts.isEmpty), p.shortcuts.foldl focusSection p, []) := by
  have hpress : p.press ⟨key, ctrl, command, p.keyTarget target⟩ =
      (!p.shortcuts.isEmpty, p.shortcuts.foldl focusSection p) := if_pos hkey
  simp only [handle, hpress]

/-- The turns of the tasks after an event change neither what it gives nor where the focus is. -/
theorem step_eq_handle (p : Page) (e : Event) :
    (p.step e).1 = (p.handle e).1 ∧ (p.step e).2.1.active = (p.handle e).2.1.active :=
  ⟨rfl, active_settle _⟩

/-! ## Main result -/

theorem eq_ok_of_toOption {ε α : Type} {x : Except ε α} {a : α} (h : x.toOption = some a) :
    x = .ok a := by
  cases x with
  | error e => cases h
  | ok b => exact congrArg Except.ok (Option.some.inj h)

theorem selectIn_of_sectionOf (h : p.sectionOf config root = .ok s) :
    p.tree.selectIn root .searchInput = some s.input := by
  obtain ⟨input, hi, h⟩ := exists_of_bind_eq_ok h
  obtain ⟨results, -, h⟩ := exists_of_bind_eq_ok h
  obtain ⟨sidebar, -, h⟩ := exists_of_bind_eq_ok h
  obtain ⟨box, -, h⟩ := exists_of_bind_eq_ok h
  cases h
  exact eq_some_of_needHtml hi

/-- The reply to the attaching of panels. -/
theorem step_attach (p : Page) (options : OptionValue)
    (htasks : (p.attach options).2.1.tasks = []) :
    (∀ n, (p.step (.attach options)).1 = .wired n ↔ (p.attach options).1 = .ok n) ∧
      (p.step (.attach options)).2.1 = (p.attach options).2.1 := by
  have hhandle : (∀ n, (p.handle (.attach options)).1 = .wired n ↔ (p.attach options).1 = .ok n) ∧
      (p.handle (.attach options)).2.1 = (p.attach options).2.1 := by
    simp only [handle]
    rcases p.attach options with ⟨e | n, q, notices⟩ <;> simp
  refine ⟨hhandle.1, ?_⟩
  show (p.handle (.attach options)).2.1.settle.1 = _
  rw [hhandle.2, settle_of_tasks_eq_nil htasks]

/-- The key leads to the panel, if there is one: its input has the focus, and the key has no other
effect. Without a panel the key is left alone. -/
def LeadsTo (first? : Option Section) (before : Page) (pressed : Reply × Page × List Notice) :
    Prop :=
  match first? with
  | some s => pressed.1 = .prevented true ∧ pressed.2.1.active = some s.input
  | none => pressed.1 = .prevented false ∧ pressed.2.1.active = before.active

/-- The input of a panel gets the focus when it is asked to take it, as long as it is enabled and
shown and was not thrown out of the page with what stood in a list. -/
theorem takesFocus_of_emptied {lists : List Nat} (hs : p.sectionOf config root = .ok s)
    (hroot : p.tree.attached root = true) (h : p.tree.Emptied lists q.tree)
    (hspared : ∀ l ∈ lists, l ∉ p.tree.ancestors s.input)
    (hon : (q.tree.get? s.input).map (·.focusable) = some true) : q.takesFocus s.input = true := by
  have hfound := List.find?_some (selectIn_of_sectionOf hs)
  have hin : root ∈ p.tree.ancestors s.input :=
    List.contains_iff_mem.1 (Bool.and_eq_true_iff.1 hfound).2
  have hattached : q.tree.attached s.input = true :=
    (h.attached hspared).trans ((Tree.attached_of_mem hin).symm.trans hroot)
  rw [takesFocus, hattached, hon]
  rfl

/-- **Where the focus shortcut leads.** Panels are attached once, and a key that leads to the search
input is pressed after any events.

* There is a panel for each section that lacks nothing, in the order of the page.
* The key is kept from its other effects exactly if there was a section, whether or not it lacked
  something. The input that is found first in the first section then is asked to take the focus, and
  the focus stays where it is if there is none or if it does not take it.
* The first section's panel, if it got one, is the first panel. Its input is the one that is found
  if it does not stand in a list and no markup that is shown in front of it brought another. So the
  key leads to the first panel if this input is enabled and shown then.
* The key is left alone where there is no section. -/
theorem key_focuses_first_section (hbare : p.Bare) (hshortcuts : p.shortcuts = [])
    (options : OptionValue) {later : List Event}
    (hlater : ∀ e ∈ later, ∀ options, e ≠ .attach options)
    {key : String} {ctrl command : Bool} {target : Option Nat}
    (hkey : (KeyPress.mk key ctrl command
      (keyTarget ((p.step (.attach options)).2.1.run later) target)).focusesSearch = true) :
    let attached := p.step (.attach options)
    let before := attached.2.1.run later
    let handled := before.handle (.key key ctrl command target)
    let pressed := before.step (.key key ctrl command target)
    let sections := p.tree.selectAll sectionSelector
    (∀ n, attached.1 = .wired n → n = attached.2.1.panels.length ∧
      ∃ o, PageOptions.ofValue options = .ok o ∧
        attached.2.1.panels = p.panelsOf o.toConfig sections) ∧
    (∀ n first rest, attached.1 = .wired n → sections = first :: rest →
      pressed.1 = .prevented true ∧
      handled.2.1.active = before.focusAfter (before.firstInput first) ∧
      ∀ o s, PageOptions.ofValue options = .ok o → p.sectionOf o.toConfig first = .ok s →
        attached.2.1.panels.head? = some s ∧
        ((∀ s' ∈ attached.2.1.panels, s'.results ∉ p.tree.ancestors s.input) →
          before.NoneShownBefore first s.input →
          before.firstInput first = some (.own s.input) ∧
          ((before.tree.get? s.input).map (·.focusable) = some true →
            LeadsTo attached.2.1.panels.head? before pressed))) ∧
    ((∀ n, attached.1 = .wired n → sections = []) → attached.2.1.panels = [] ∧
      LeadsTo attached.2.1.panels.head? before pressed) := by
  intro attached before handled pressed sections
  have hattached := p.attached options
  obtain ⟨hreply, hpage⟩ := p.step_attach options (hattached.tasks.trans hbare.tasks)
  have hkept : attached.2.1.Kept before := kept_run _ hlater
  obtain ⟨hprevented, hpressed⟩ : pressed.1 = handled.1 ∧ pressed.2.1.active = handled.2.1.active :=
    before.step_eq_handle _
  have hhandled : handled = (.prevented (!before.shortcuts.isEmpty),
    before.shortcuts.foldl focusSection before, []) := handle_key hkey
  have hactive : handled.2.1.active = (before.shortcuts.foldl focusSection before).active := by
    rw [hhandled]
  rw [hhandled] at hprevented
  rw [hkept.shortcuts] at hprevented hactive
  rw [← hpage] at hattached
  refine ⟨fun n hn => ?_, fun n first rest hn hsections => ?_, fun hnone => ?_⟩
  · rw [(hreply n).1 hn] at hattached
    exact hattached.panels_eq hbare.panels
  · rw [(hreply n).1 hn] at hattached
    obtain ⟨hshort, htree⟩ := hattached.shortcuts_eq hsections
    rw [hshortcuts, List.nil_append] at hshort
    rw [hshort] at hprevented hactive
    rw [List.foldl_cons, List.foldl_nil, active_focusSection] at hactive
    refine ⟨hprevented, hactive, fun o s ho hs => ?_⟩
    have hhead := hattached.head?_panels hbare.panels hsections ho hs
    refine ⟨hhead, fun hspared hshown => ?_⟩
    have hemptied : p.tree.Emptied (attached.2.1.panels.map (·.results)) before.tree :=
      (htree.mono (List.nil_subset _)).trans hkept.tree
    have hlists : ∀ l ∈ attached.2.1.panels.map (·.results), l ∉ p.tree.ancestors s.input :=
      List.forall_mem_map.2 hspared
    have hfound : before.firstInput first = some (.own s.input) :=
      firstInput_of_selectIn (hemptied.selectIn_eq (selectIn_of_sectionOf hs) hlists) hshown
    refine ⟨hfound, fun hon => ?_⟩
    have hroot : p.tree.attached first = true := by
      have hmem : first ∈ sections := hsections ▸ List.mem_cons_self
      exact (Tree.mem_selectAll.1 hmem).2
    have htakes := takesFocus_of_emptied hs hroot hemptied hlists hon
    rw [hfound, focusAfter, if_pos htakes] at hactive
    rw [hhead]
    exact ⟨hprevented, hpressed.trans hactive⟩
  · obtain ⟨hpanels, hshort⟩ :=
      hattached.eq_of_no_section fun n hn => hnone n ((hreply n).2 hn)
    rw [hbare.panels] at hpanels
    rw [hshortcuts] at hshort
    rw [hshort] at hprevented hactive
    rw [hpanels]
    exact ⟨rfl, hprevented, hpressed.trans hactive⟩

/-- A page with two search sections, of which the second one lacks nothing. -/
def twoSections (first : List Node) : Page where
  tree := .ofNodes [
    .element { tag := "div", classes := ["sidebar__content"] } [
      .element { tag := "section", classes := ["sidebar__section--search"] } first,
      .element { tag := "section", classes := ["sidebar__section--search"] } [
        .element { tag := "input", type := some "search" } [],
        .element { tag := "ul", classes := ["sidebar__section--search-results"] } []]]]

/-- Both sections get a panel. The key leads to the first one, also after its list was filled. -/
theorem key_focuses_first_section_complete :
    let p := twoSections [
      .element { tag := "input", type := some "search" } [],
      .element { tag := "ul", classes := ["sidebar__section--search-results"] } []]
    let later : List Event := [.type 2 "gate",
      .respond 0 (.received 200 (.ok "[\x7b\"title\":\"Gates\"\x7d]")), .focus 5]
    let attached := (p.step (.attach .undefined)).2.1
    let before := attached.run later
    p.Bare ∧ p.shortcuts = [] ∧ (∀ e ∈ later, ∀ options, e ≠ .attach options) ∧
      (KeyPress.mk "/" false false (before.keyTarget none)).focusesSearch = true ∧
      before.active = some 5 ∧ attached.panels.head?.map (·.input) = some 2 ∧
      LeadsTo attached.panels.head? before (before.step (.key "/" false false none)) := by
  intro p later attached before
  have hbare : p.Bare := ⟨rfl, rfl⟩
  have hlater : ∀ e ∈ later, ∀ options, e ≠ .attach options := by
    rintro e he options rfl
    simp [later] at he
  have hkey : (KeyPress.mk "/" false false (before.keyTarget none)).focusesSearch = true := by
    decide +kernel
  have hactive : before.active = some 5 := by decide +kernel
  have hlists : attached.panels.map (·.results) = [3, 6] := by decide +kernel
  have hinput : p.tree.selectIn 1 .searchInput = some 2 := by decide +kernel
  have haround : ∀ l ∈ [3, 6], l ∉ p.tree.ancestors 2 := by decide +kernel
  obtain ⟨s, hs⟩ : ∃ s, (p.sectionOf (PageOptions.toConfig {}) 1).toOption = some s :=
    Option.isSome_iff_exists.1 (by decide +kernel)
  have hsection := eq_ok_of_toOption hs
  have hs2 : s.input = 2 := Option.some.inj ((selectIn_of_sectionOf hsection).symm.trans hinput)
  have hspared : ∀ s' ∈ attached.panels, s'.results ∉ p.tree.ancestors s.input := by
    intro s' hs'
    have hmem := List.mem_map_of_mem (f := (·.results)) hs'
    rw [hlists] at hmem
    rw [hs2]
    exact haround _ hmem
  have hattach : (p.attach .undefined).1 = .ok 2 := eq_ok_of_toOption (by decide +kernel)
  have htasks : (p.attach .undefined).2.1.tasks = [] := (p.attached .undefined).tasks
  have hwired := ((p.step_attach .undefined htasks).1 2).2 hattach
  have hon : (before.tree.get? s.input).map (·.focusable) = some true := by
    rw [hs2]
    decide +kernel
  have hshown : before.NoneShownBefore 1 s.input := by
    have hmarkup : ∀ j < 2, before.tree.markup? j = none := by decide +kernel
    rw [hs2]
    intro j hj hin markup hm
    cases (hmarkup j hj).symm.trans hm
  obtain ⟨-, hfirst, -⟩ := key_focuses_first_section hbare rfl .undefined hlater hkey
  obtain ⟨-, -, hpanels⟩ := hfirst 2 1 [4] hwired (by decide +kernel)
  obtain ⟨hhead, hleads⟩ := hpanels {} s rfl hsection
  have hpressed := (hleads hspared hshown).2 hon
  have hpanel : attached.panels.head?.map (·.input) = some 2 := by
    rw [show attached.panels.head? = some s from hhead]
    exact congrArg some hs2
  exact ⟨hbare, rfl, hlater, hkey, hactive, hpanel, hpressed⟩

/-- **The key leads nowhere, though there is a panel.** The first section has no input, the second
one got a panel, and the key is kept from its other effects. -/
theorem key_focuses_nothing :
    let p := twoSections [
      .element { tag := "ul", classes := ["sidebar__section--search-results"] } []]
    let attached := (p.step (.attach .undefined)).2.1
    let pressed := attached.step (.key "/" false false none)
    (KeyPress.mk "/" false false (attached.keyTarget none)).focusesSearch = true ∧
      attached.panels.head?.map (·.input) = some 4 ∧
      pressed.1 = .prevented true ∧ pressed.2.1.active = none ∧
      ¬ LeadsTo attached.panels.head? attached pressed := by
  intro p attached pressed
  have hkey : (KeyPress.mk "/" false false (attached.keyTarget none)).focusesSearch = true := by
    decide +kernel
  have hpanel : attached.panels.head?.map (·.input) = some 4 := by decide +kernel
  have hshortcuts : attached.shortcuts = [1] := by decide +kernel
  have hactive : pressed.2.1.active = none := by decide +kernel
  have hprevented : pressed.1 = .prevented true := by
    rw [(attached.step_eq_handle _).1, handle_key hkey, hshortcuts]
    rfl
  refine ⟨hkey, hpanel, hprevented, hactive, ?_⟩
  obtain ⟨s, hs, -⟩ := Option.map_eq_some_iff.1 hpanel
  rw [hs]
  rintro ⟨-, hfocus⟩
  cases hactive.symm.trans hfocus

end SearchPanel.Page
