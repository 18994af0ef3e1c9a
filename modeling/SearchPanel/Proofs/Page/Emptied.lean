import SearchPanel.Proofs.Page.Settle

/-!
# Where things stand after lists were filled

A list that is filled loses what stood in it. Nothing else moves in a page.

* `Tree.Emptied lists t t'`: what stands in an element of `t'` stood in it in `t`, and outside of
  `lists` all stands where it stood, in the page or out of it. So an input that is the first one in
  an element stays the first one there, unless it stood in a list (`Emptied.selectIn_eq`).
* `Page.Kept p q`: between `p` and `q` nothing was attached, and only lists of panels were emptied.
  So it is with every move but the attaching of panels (`kept_move`), and with all events after it
  (`kept_run`).
* `active_settle`: the turns of tasks leave the focus where it is.
-/

namespace SearchPanel.Page

/-! ## Trees -/

/-- Some of the lists were emptied, and nothing else was moved. -/
structure Tree.Emptied (lists : List Nat) (t t' : Tree) : Prop where
  length : t'.elements.length = t.elements.length
  found : ∀ k, t'.found .searchInput k = t.found .searchInput k
  subset : ∀ k, t'.ancestors k ⊆ t.ancestors k
  spared : ∀ k, (∀ l ∈ lists, l ∉ t.ancestors k) → t'.ancestors k = t.ancestors k
  page : ∀ k, (t'.get? k).map (·.place) = some .page ↔ (t.get? k).map (·.place) = some .page

namespace Tree

variable {lists : List Nat} {t t' u : Tree} {root k l : Nat}

namespace Emptied

theorem refl (lists : List Nat) (t : Tree) : t.Emptied lists t :=
  ⟨rfl, fun _ => rfl, fun _ _ hm => hm, fun _ _ => rfl, fun _ => .rfl⟩

theorem trans (h : t.Emptied lists t') (h' : t'.Emptied lists u) : t.Emptied lists u where
  length := h'.length.trans h.length
  found := fun k => (h'.found k).trans (h.found k)
  subset := fun k _ hm => h.subset k (h'.subset k hm)
  spared := fun k hk =>
    (h'.spared k fun l hl hm => hk l hl (h.subset k hm)).trans (h.spared k hk)
  page := fun k => (h'.page k).trans (h.page k)

theorem mono {lists' : List Nat} (hsub : lists ⊆ lists') (h : t.Emptied lists t') :
    t.Emptied lists' t' :=
  { h with spared := fun k hk => h.spared k fun l hl => hk l (hsub hl) }

/-- What does not stand in a list stays in the page. -/
theorem attached (h : t.Emptied lists t') (hspared : ∀ l ∈ lists, l ∉ t.ancestors k) :
    t'.attached k = t.attached k := attached_congr (h.spared k hspared) h.page

/-- The first input in an element stays the first one, if it does not stand in a list. -/
theorem selectIn_eq (h : t.Emptied lists t') (hk : t.selectIn root .searchInput = some k)
    (hspared : ∀ l ∈ lists, l ∉ t.ancestors k) : t'.selectIn root .searchInput = some k := by
  unfold selectIn at hk ⊢
  rw [List.find?_range_eq_some] at hk ⊢
  obtain ⟨hpred, hrange, hfirst⟩ := hk
  refine ⟨?_, h.length ▸ hrange, fun j hj => ?_⟩
  · rw [h.found, h.spared k hspared]
    exact hpred
  · -- What does not stand in the element now did not stand there before.
    have hbefore := hfirst j hj
    rw [Bool.not_eq_true', Bool.eq_false_iff, Ne, Bool.and_eq_true, List.contains_iff_mem]
      at hbefore ⊢
    rw [h.found]
    exact fun hin => hbefore ⟨hin.1, h.subset j hin.2⟩

end Emptied

/-! ## Changes of one element -/

/-- A change of an element that neither moves it nor makes an input of it. -/
theorem emptied_modify (lists : List Nat) (t : Tree) (k : Nat) {f : Element → Element}
    (hplace : ∀ e, (f e).place = e.place)
    (hinput : ∀ e, Selector.searchInput.finds (f e) = Selector.searchInput.finds e) :
    t.Emptied lists (t.modify k f) := by
  have hframe := t.sameFrame_modify k hplace
  exact ⟨hframe.length, fun _ => found_modify hinput, fun k => hframe.ancestors k ▸ fun _ hm => hm,
    fun k _ => hframe.ancestors k, fun j => by rw [map_get?_modify hplace t k j]⟩

theorem parent?_eq (t : Tree) (k : Nat) : t.parent? k =
    match (t.get? k).map (·.place) with
    | some (.inside j) => if j < k then some j else none
    | _ => none := by
  unfold parent?
  cases t.get? k with
  | none => rfl
  | some e =>
    obtain ⟨⟨_, _, _, _, _, _, _⟩, place, _, _, _⟩ := e
    cases place <;> rfl

theorem place_fill (t : Tree) (k : Nat) (markup : String) (j : Nat) :
    ((t.fill k markup).get? j).map (·.place) =
      ((t.get? j).map (·.place)).map fun place =>
        if place = .inside k then .detached else place := by
  refine (map_get?_modify (f := fun e => { e with
    markup := some markup, items := itemCount markup.toList }) (fun _ => rfl) _ k j).trans ?_
  rw [get?, get?, List.getElem?_map, Option.map_map, Option.map_map]
  refine congrArg (Option.map · _) (funext fun e => ?_)
  simp only [Function.comp_apply]
  split <;> rfl

/-- What stood in an element that is filled stands nowhere then. -/
theorem parent?_fill (t : Tree) (k : Nat) (markup : String) (j : Nat) :
    (t.fill k markup).parent? j = if t.parent? j = some k then none else t.parent? j := by
  rw [parent?_eq, parent?_eq, place_fill]
  cases (t.get? j).map (·.place) with
  | none => rfl
  | some place =>
    cases place with
    | page => rfl
    | detached => rfl
    | inside i => by_cases hi : i = k <;> by_cases hlt : i < j <;> simp [hi, hlt]

/-- A list is filled. -/
theorem emptied_fill (hk : k ∈ lists) (t : Tree) (markup : String) :
    t.Emptied lists (t.fill k markup) := by
  refine ⟨t.length_fill k markup, fun _ => found_fill markup, fun j => ?_, fun j hj => ?_,
    fun j => ?_⟩
  · induction j using Nat.strongRecOn with
    | ind j ih =>
      have hparent := t.parent?_fill k markup j
      split at hparent
      · rw [ancestors_of_none hparent]
        exact List.nil_subset _
      · cases hp : t.parent? j with
        | none =>
          rw [ancestors_of_none (hparent.trans hp)]
          exact List.nil_subset _
        | some i =>
          rw [ancestors_of_some (hparent.trans hp), ancestors_of_some hp]
          exact List.cons_subset_cons _ (ih i (lt_of_parent? hp))
  · induction j using Nat.strongRecOn with
    | ind j ih =>
      have hparent := t.parent?_fill k markup j
      cases hp : t.parent? j with
      | none =>
        rw [hp, if_neg (Option.some_ne_none k).symm] at hparent
        rw [ancestors_of_none hparent, ancestors_of_none hp]
      | some i =>
        rw [ancestors_of_some hp] at hj ⊢
        have hi : some i ≠ some k := fun hi => hj k hk (Option.some.inj hi ▸ List.mem_cons_self)
        rw [hp, if_neg hi] at hparent
        rw [ancestors_of_some hparent,
          ih i (lt_of_parent? hp) fun l hl hm => hj l hl (.tail _ hm)]
  · rw [place_fill]
    cases (t.get? j).map (·.place) with
    | none => exact .rfl
    | some place =>
      cases place with
      | page => exact .rfl
      | detached => exact .rfl
      | inside i => by_cases hi : i = k <;> simp [hi]

end Tree

variable {p q r : Page} {t : Task} {s : Section} {left : Option Task} {c : Controller}
  {lists : List Nat}

/-! ## Calls -/

theorem emptied_perform (hs : s.results ∈ lists) (p : Page) (call : ViewCall Int) :
    p.tree.Emptied lists (p.perform s call).tree := by
  cases call with
  | setHasResults on =>
    cases on with
    | true =>
      refine p.tree.emptied_modify lists s.input (fun e => ?_) fun e => ?_ <;>
        unfold Element.addClass <;> split <;> rfl
    | false => exact p.tree.emptied_modify lists s.input (fun _ => rfl) fun _ => rfl
  | clearResults => exact p.tree.emptied_fill hs _
  | setResults fs => exact p.tree.emptied_fill hs _
  | setMaxHeight height => exact p.tree.emptied_modify lists s.results (fun _ => rfl) fun _ => rfl

theorem emptied_performAll (hs : s.results ∈ lists) (p : Page) (calls : List (ViewCall Int)) :
    p.tree.Emptied lists (p.performAll s calls).tree := by
  induction calls generalizing p with
  | nil => exact .refl lists p.tree
  | cons call calls ih => exact (emptied_perform hs p call).trans (ih (p.perform s call))

/-- What the height of a list is changes nothing about places. -/
theorem emptied_adjust (lists : List Nat) (p : Page) (s : Section) :
    p.tree.Emptied lists (p.adjust s).tree := by
  unfold adjust
  cases (p.layoutOf s).adjust (p.tree.childCount s.results) with
  | none => exact .refl lists p.tree
  | some h => exact p.tree.emptied_modify lists s.results (fun _ => rfl) fun _ => rfl

theorem rest_performAll (p : Page) (s : Section) (calls : List (ViewCall Int)) :
    (p.performAll s calls).active = p.active ∧ (p.performAll s calls).shortcuts = p.shortcuts := by
  obtain ⟨tree, hp, -⟩ := p.performAll_eq s calls
  rw [hp]
  exact ⟨rfl, rfl⟩

/-! ## Moves -/

/-- Nothing was attached, and no more was moved than the items of panels' lists. -/
structure Kept (p q : Page) : Prop where
  shortcuts : q.shortcuts = p.shortcuts
  lists : q.panels.map (·.results) = p.panels.map (·.results)
  tree : p.tree.Emptied (p.panels.map (·.results)) q.tree

theorem Kept.of_tree (hshortcuts : q.shortcuts = p.shortcuts) (hpanels : q.panels = p.panels)
    (h : p.tree.Emptied (p.panels.map (·.results)) q.tree) : p.Kept q :=
  ⟨hshortcuts, hpanels ▸ rfl, h⟩

theorem Kept.refl (p : Page) : p.Kept p := .of_tree rfl rfl (.refl _ p.tree)

theorem Kept.trans (h : p.Kept q) (h' : q.Kept r) : p.Kept r :=
  ⟨h'.shortcuts.trans h.shortcuts, h'.lists.trans h.lists, h.tree.trans (h.lists ▸ h'.tree)⟩

theorem kept_performAll (hs : s.results ∈ p.panels.map (·.results)) (calls : List (ViewCall Int)) :
    p.Kept (p.performAll s calls) :=
  .of_tree (p.rest_performAll s calls).2 (panels_performAll ..) (emptied_performAll hs p calls)

theorem kept_setController (p : Page) (k : Nat) (c : Controller) :
    p.Kept (p.setController k c) := by
  refine ⟨rfl, List.ext_getElem? fun j => ?_, .refl _ p.tree⟩
  rw [List.getElem?_map, List.getElem?_map, getElem?_setController]
  split
  · rw [Option.map_map]
    rfl
  · rfl

/-- The turn of a task. The focus stays where it is. -/
theorem Turned.kept (h : p.Turned t s left c q) (hs : p.panels[t.panel]? = some s) :
    p.Kept q ∧ q.active = p.active := by
  have hlist : ∀ {p' : Page}, p.Kept p' → s.results ∈ p'.panels.map (·.results) := fun hp =>
    hp.lists ▸ List.mem_map.2 ⟨s, List.mem_of_getElem? hs, rfl⟩
  have hcalls : ∀ {p' : Page} (calls : List (ViewCall Int)), p.Kept p' ∧ p'.active = p.active →
      p.Kept (p'.performAll s calls) ∧ (p'.performAll s calls).active = p.active := fun calls hp =>
    ⟨hp.1.trans (kept_performAll (hlist hp.1) calls), (rest_performAll ..).1.trans hp.2⟩
  have hset : ∀ c', p.Kept (p.setController t.panel c') ∧
      (p.setController t.panel c').active = p.active := fun c' =>
    ⟨p.kept_setController t.panel c', rfl⟩
  cases h with
  | dropped hst hf => exact ⟨.refl p, rfl⟩
  | tooShort hst hf hshort => exact hcalls _ ⟨.refl p, rfl⟩
  | ready hst hf hshort hc => exact hcalls _ (hcalls _ ⟨.refl p, rfl⟩)
  | waits hst hf hshort hc =>
    obtain ⟨h, hactive⟩ := hcalls clearing (hset s.ask)
    exact ⟨⟨h.shortcuts, h.lists, h.tree⟩, hactive⟩
  | waitsOn hst hr => exact ⟨.refl p, rfl⟩
  | answered hst hr => exact hcalls _ (hset _)

theorem kept_adjustAll (p : Page) : p.Kept p.adjustAll := by
  have hall : ∀ (sections : List Section) (p : Page), p.Kept (sections.foldl adjust p) := by
    intro sections
    induction sections with
    | nil => exact .refl
    | cons s rest ih =>
      intro p
      have hfirst : p.Kept (p.adjust s) :=
        .of_tree (p.rest_performAll s _).2 (panels_performAll ..) (emptied_adjust _ p s)
      exact hfirst.trans (ih (p.adjust s))
  exact hall p.panels p

theorem kept_setHeights (p : Page) (heights : List (Nat × Int)) :
    p.Kept (p.setHeights heights) := by
  have hall : ∀ (heights : List (Nat × Int)) (t : Tree),
      t.Emptied (p.panels.map (·.results)) (heights.foldl (fun t h =>
        t.modify h.1 fun e => { e with height := h.2 }) t) := by
    intro heights
    induction heights with
    | nil => exact .refl _
    | cons h rest ih =>
      intro t
      have hfirst : t.Emptied (p.panels.map (·.results))
          (t.modify h.1 fun e => { e with height := h.2 }) :=
        t.emptied_modify _ h.1 (fun _ => rfl) fun _ => rfl
      exact hfirst.trans (ih _)
  exact .of_tree rfl rfl (hall heights p.tree)

theorem kept_setValue (p : Page) (target : Nat) (text : String) :
    p.Kept { p with tree := p.tree.modify target fun e => { e with value := text } } :=
  .of_tree rfl rfl (p.tree.emptied_modify _ target (fun _ => rfl) fun _ => rfl)

theorem kept_enable (p : Page) (target : Nat) (on : Bool) : p.Kept (p.enable target on) :=
  .of_tree rfl rfl (p.tree.emptied_modify _ target (fun _ => rfl) fun _ => rfl)

theorem kept_of_tasks (p : Page) (active : Option Nat) (tasks : List Task) :
    p.Kept { p with active, tasks } := .of_tree rfl rfl (.refl _ p.tree)

/-- An event that attaches no panels. -/
theorem kept_handle (p : Page) (e : Event) (he : ∀ options, e ≠ .attach options) :
    p.Kept (p.handle e).2.1 := by
  cases e with
  | setVerbosity v => exact .of_tree rfl rfl (.refl _ p.tree)
  | attach options => exact absurd rfl (he options)
  | type target text => exact (p.kept_setValue target text).trans (kept_of_tasks _ _ _)
  | focus target =>
    obtain ⟨active, new, heq, -⟩ := p.told_focus target
    show p.Kept (p.focus target)
    rw [heq]
    exact p.kept_of_tasks active _
  | blur => exact .of_tree rfl rfl (.refl _ p.tree)
  | enable target on => exact p.kept_enable target on
  | resize heights => exact (p.kept_setHeights heights).trans (kept_adjustAll _)
  | key key ctrl command target =>
    show p.Kept (p.press _).2
    unfold press
    split
    · obtain ⟨active, new, heq, -⟩ := p.told_focusSections p.shortcuts
      rw [heq]
      exact p.kept_of_tasks active _
    · exact .refl p
  | respond r response =>
    show p.Kept (p.respond r response).2
    unfold respond
    split <;> exact .of_tree rfl rfl (.refl _ p.tree)

theorem kept_turn (p : Page) (i : Nat) :
    p.Kept (p.takeTurn i) ∧ (p.takeTurn i).active = p.active := by
  have hmoved := p.moved_turn i
  generalize p.takeTurn i = q at hmoved
  cases hmoved with
  | told hm h => exact absurd rfl (hm i)
  | idle ht => exact ⟨.refl p, rfl⟩
  | vanished ht hs => exact ⟨p.kept_of_tasks p.active _, rfl⟩
  | turned ht hs h =>
    obtain ⟨hkept, hactive⟩ := h.kept hs
    exact ⟨⟨hkept.shortcuts, hkept.lists, hkept.tree⟩, hactive⟩

/-- Every move but the attaching of panels. -/
theorem kept_move (p : Page) (m : Move) (hm : ∀ options, m ≠ .event (.attach options)) :
    p.Kept (p.move m) := by
  cases m with
  | event e => exact p.kept_handle e fun options he => hm options (congrArg Move.event he)
  | setValue target text => exact p.kept_setValue target text
  | turn i => exact (p.kept_turn i).1

theorem kept_play (p : Page) {moves : List Move}
    (hmoves : ∀ m ∈ moves, ∀ options, m ≠ .event (.attach options)) : p.Kept (p.play moves) :=
  play_invariant (I := p.Kept) (fun q m hm h => h.trans (q.kept_move m (hmoves m hm))) (.refl p)

/-- Events that attach no panels, and the turns of tasks after each of them. -/
theorem kept_run (p : Page) {events : List Event}
    (he : ∀ e ∈ events, ∀ options, e ≠ .attach options) : p.Kept (p.run events) := by
  obtain ⟨moves, hmoves, hrun, -⟩ := p.exists_play_eq_run events
  rw [hrun]
  refine p.kept_play fun m hm options hattach => ?_
  have hmem : m ∈ moves.filter (!·.isTurn) := List.mem_filter.2 ⟨hm, by rw [hattach]; rfl⟩
  rw [hmoves, hattach] at hmem
  obtain ⟨e, he', heq⟩ := List.mem_map.1 hmem
  exact he e he' options (Move.event.inj heq)

/-- The turns of all tasks leave the focus where it is. -/
theorem active_settle (p : Page) : p.settle.1.active = p.active := by
  obtain ⟨turns, hturns, hsettle⟩ := p.exists_play_eq_settle
  rw [hsettle]
  refine play_invariant (I := fun q => q.active = p.active) (fun q m hm h => ?_) rfl
  cases m with
  | turn i => exact (q.kept_turn i).2.trans h
  | event e | setValue target text => cases hturns _ hm

end SearchPanel.Page
