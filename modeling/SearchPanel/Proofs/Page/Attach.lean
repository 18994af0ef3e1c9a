import SearchPanel.Proofs.Page.Move

/-!
# Panels that were attached

* `Tree.Encloses t root s`: input and list of a panel are elements in `root`.
* `Page.Wired p config roots new q`: what is made of some sections. Their panels are new, and stand
  apart if the sections do not stand in each other (`wired_wireAll`).
* `wired_attach`: so are the panels that are attached to a page none of whose search sections stands
  in another one (`Page.Flat`).
-/

namespace SearchPanel.Page

variable {p q : Page} {t : Tree} {s s' : Section} {config : Config} {lack : Lack} {root k j : Nat}

/-! ## The elements of a section -/

/-- The elements of a panel stand in an element. -/
structure Tree.Encloses (t : Tree) (root : Nat) (s : Section) : Prop where
  input : root ∈ t.ancestors s.input
  results : root ∈ t.ancestors s.results

theorem Tree.mem_of_selectIn {selector : Selector} (h : t.selectIn root selector = some k) :
    k < t.elements.length ∧ root ∈ t.ancestors k := by
  have hmem := List.mem_range.1 (List.mem_of_find?_eq_some h)
  have hfound := List.find?_some h
  rw [Bool.and_eq_true, List.contains_iff_mem] at hfound
  exact ⟨hmem, hfound.2⟩

theorem eq_some_of_needHtml {found : Option Nat} (h : p.needHtml lack found = .ok k) :
    found = some k := by
  cases found with
  | none => cases h
  | some l =>
    unfold needHtml at h
    split at h
    · cases h
    · next k' hk =>
      cases hk
      split at h
      · cases h
        rfl
      · cases h

theorem exists_of_bind_eq_ok {ε α β : Type} {x : Except ε α} {f : α → Except ε β} {b : β}
    (h : (x >>= f) = .ok b) : ∃ a, x = .ok a ∧ f a = .ok b := by
  cases x with
  | error e => cases h
  | ok a => exact ⟨a, rfl, h⟩

/-- A panel is new, and its elements stand in the section that it was made for. -/
theorem of_sectionOf (h : p.sectionOf config root = .ok s) :
    s.controller = { config } ∧ p.Has s ∧ p.tree.Encloses root s := by
  obtain ⟨input, hi, h⟩ := exists_of_bind_eq_ok h
  obtain ⟨results, hr, h⟩ := exists_of_bind_eq_ok h
  obtain ⟨sidebar, -, h⟩ := exists_of_bind_eq_ok h
  obtain ⟨box, -, h⟩ := exists_of_bind_eq_ok h
  cases h
  obtain ⟨hinput, hinside⟩ := Tree.mem_of_selectIn (eq_some_of_needHtml hi)
  obtain ⟨hresults, hinside'⟩ := Tree.mem_of_selectIn (eq_some_of_needHtml hr)
  exact ⟨rfl, ⟨hinput, hresults⟩, ⟨hinside, hinside'⟩⟩

theorem Tree.Unnested.apart {t : Tree} {a b : Nat} (h : t.Unnested a b) (hs : t.Encloses a s)
    (hs' : t.Encloses b s') : s.Apart s' :=
  ⟨h.ne_of_mem hs.input hs'.input, h.ne_of_mem hs.results hs'.results⟩

/-! ## All sections -/

theorem sameFrame_adjust (p : Page) (s : Section) : p.tree.SameFrame (p.adjust s).tree := by
  unfold adjust
  cases (p.layoutOf s).adjust (p.tree.childCount s.results) with
  | none => exact .refl p.tree
  | some h => exact p.tree.sameFrame_modify s.results fun _ => rfl

/-- What is made of some sections: new panels, each with its elements in one of the sections, that
stand apart. Nothing is started, and no element moves. -/
structure Wired (p : Page) (config : Config) (roots : List Nat) (new : List Section) (q : Page) :
    Prop where
  panels : q.panels = p.panels ++ new
  tasks : q.tasks = p.tasks
  frame : p.tree.SameFrame q.tree
  fresh : ∀ s ∈ new, s.controller = { config }
  has : ∀ s ∈ new, p.Has s
  inside : ∀ s ∈ new, ∃ root ∈ roots, p.tree.Encloses root s
  apart : new.Pairwise Section.Apart

theorem Tree.SameFrame.encloses {t t' : Tree} (h : t.SameFrame t') (hs : t'.Encloses root s) :
    t.Encloses root s := by
  obtain ⟨hinput, hresults⟩ := hs
  rw [h.ancestors] at hinput hresults
  exact ⟨hinput, hresults⟩

theorem wired_nil (p : Page) (config : Config) (hpanels : q.panels = p.panels)
    (htasks : q.tasks = p.tasks) (htree : q.tree = p.tree) :
    p.Wired config [] [] q where
  panels := hpanels.trans (List.append_nil _).symm
  tasks := htasks
  frame := htree ▸ .refl p.tree
  fresh := fun _ hs => absurd hs List.not_mem_nil
  has := fun _ hs => absurd hs List.not_mem_nil
  inside := fun _ hs => absurd hs List.not_mem_nil
  apart := .nil

theorem wired_wireAll (p : Page) (config : Config) {roots : List Nat}
    (hroots : roots.Pairwise p.tree.Unnested) :
    ∃ new, p.Wired config roots new (p.wireAll config roots).2.1 := by
  induction roots generalizing p with
  | nil =>
    exact ⟨[], wired_nil p config rfl rfl rfl⟩
  | cons root rest ih =>
    obtain ⟨hroot, hrest⟩ := List.pairwise_cons.1 hroots
    unfold wireAll
    cases hs : p.sectionOf config root with
    | error lack =>
      obtain ⟨new, h⟩ := ih p hrest
      refine ⟨new, h.panels, h.tasks, h.frame, h.fresh, h.has, fun s hs => ?_, h.apart⟩
      obtain ⟨root', hmem, hin⟩ := h.inside s hs
      exact ⟨root', .tail _ hmem, hin⟩
    | ok s =>
      obtain ⟨hfresh, hhas, hin⟩ := of_sectionOf hs
      have hwire : p.tree.SameFrame (p.wire s).tree :=
        sameFrame_adjust { p with panels := p.panels ++ [s] } s
      have hrest' : rest.Pairwise (p.wire s).tree.Unnested := by
        refine hrest.imp fun {a b} h => ?_
        refine ⟨h.ne, ?_, ?_⟩
        · rw [hwire.ancestors]
          exact h.left
        · rw [hwire.ancestors]
          exact h.right
      obtain ⟨new, h⟩ := ih (p.wire s) hrest'
      have hinside : ∀ s' ∈ new, ∃ root' ∈ rest, p.tree.Encloses root' s' := by
        intro s' hs'
        obtain ⟨root', hmem, hin'⟩ := h.inside s' hs'
        exact ⟨root', hmem, hwire.encloses hin'⟩
      refine ⟨s :: new, ?_, ?_, hwire.trans h.frame, ?_, ?_, ?_, ?_⟩
      · have hpanels : (p.wire s).panels = p.panels ++ [s] := panels_performAll ..
        exact h.panels.trans (by rw [hpanels, List.append_assoc, List.singleton_append])
      · exact h.tasks.trans (tasks_performAll ..)
      · exact List.forall_mem_cons.2 ⟨hfresh, h.fresh⟩
      · refine List.forall_mem_cons.2 ⟨hhas, fun s' hs' => ?_⟩
        exact (h.has s' hs').of_length hwire.length.symm
      · refine List.forall_mem_cons.2 ⟨⟨root, .head _, hin⟩, fun s' hs' => ?_⟩
        obtain ⟨root', hmem, hin'⟩ := hinside s' hs'
        exact ⟨root', .tail _ hmem, hin'⟩
      · refine List.pairwise_cons.2 ⟨fun s' hs' => ?_, h.apart⟩
        obtain ⟨root', hmem, hin'⟩ := hinside s' hs'
        exact (hroot root' hmem).apart hin hin'

/-- None of the search sections of a page stands in another one. -/
def Flat (p : Page) : Prop :=
  ∀ a ∈ p.tree.selectAll sectionSelector, ∀ b ∈ p.tree.selectAll sectionSelector,
    a ∉ p.tree.ancestors b

theorem wired_attach (hflat : p.Flat) (options : OptionValue) : ∃ config roots new,
    p.Wired config roots new (p.handle (.attach options)).2.1 ∧
      (new ≠ [] → ∃ o, PageOptions.ofValue options = .ok o ∧ config = o.toConfig) := by
  have hhandle : (p.handle (.attach options)).2.1 = (p.attach options).2.1 := by
    simp only [handle]
    rcases p.attach options with ⟨e | n, q, notices⟩ <;> rfl
  rw [hhandle]
  unfold attach
  cases ho : PageOptions.ofValue options with
  | error e => exact ⟨{}, [], [], wired_nil p {} rfl rfl rfl, fun h => absurd rfl h⟩
  | ok o =>
    simp only
    split
    · exact ⟨{}, [], [], wired_nil p {} rfl rfl rfl, fun h => absurd rfl h⟩
    · split
      · exact ⟨{}, [], [], wired_nil p {} rfl rfl rfl, fun h => absurd rfl h⟩
      · split
        · exact ⟨{}, [], [], wired_nil p {} rfl rfl rfl, fun h => absurd rfl h⟩
        · next first rest hsections =>
          have hroots : (first :: rest).Pairwise p.tree.Unnested :=
            hsections ▸ Tree.pairwise_unnested hflat
          obtain ⟨new, h⟩ := wired_wireAll (p.setVerbosity Level.info.rank) o.toConfig hroots
          refine ⟨_, first :: rest, new, ?_, fun _ => ⟨o, rfl, rfl⟩⟩
          exact ⟨h.panels, h.tasks, h.frame, h.fresh,
            fun s hs => (h.has s hs).of_length rfl, h.inside, h.apart⟩

end SearchPanel.Page
