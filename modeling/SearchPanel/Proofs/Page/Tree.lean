import Mathlib.Data.List.Infix
import SearchPanel.Page.Tree

/-!
# Elements that stand apart

* `suffix_ancestors`: what stands around an element also stands around all that is in it.
* `mem_ancestors_or_mem_ancestors`: of two elements around a third one stands in the other.
* `attached_of_mem`: what stands in a part of the page stands in the page.
* `Unnested t a b`: neither of two elements stands in the other. Then nothing stands in both
  (`Unnested.ne`).
* `Tree.SameFrame t t'`: each element stands in `t'` where it stands in `t`. A change of an element
  that does not move it keeps this (`sameFrame_modify`).
* `Tree.markup?` and `Tree.found` after a change of one element (`markup?_fill_self`,
  `found_modify_self` and the like).
-/

namespace SearchPanel.Page

namespace Tree

variable {t t' u : Tree} {a b j k : Nat}

/-! ## What stands around an element -/

theorem ancestors_of_none (h : t.parent? k = none) : t.ancestors k = [] := by
  rw [ancestors]
  split
  · next p hp => cases h.symm.trans hp
  · rfl

theorem ancestors_of_some (h : t.parent? k = some j) : t.ancestors k = j :: t.ancestors j := by
  rw [ancestors]
  split
  · next p hp => rw [Option.some.inj (h.symm.trans hp)]
  · next hp => cases h.symm.trans hp

theorem suffix_ancestors (h : a ∈ t.ancestors k) : a :: t.ancestors a <:+ t.ancestors k := by
  induction k using Nat.strongRecOn with
  | ind k ih =>
    cases hp : t.parent? k with
    | none =>
      rw [ancestors_of_none hp] at h
      cases h
    | some p =>
      rw [ancestors_of_some hp] at h ⊢
      rcases List.mem_cons.1 h with rfl | h
      · exact List.suffix_refl _
      · exact (ih p (lt_of_parent? hp) h).trans (List.suffix_cons _ _)

/-- Of two elements around a third one stands in the other, or they are the same. -/
theorem mem_ancestors_or_mem_ancestors (ha : a ∈ t.ancestors k) (hb : b ∈ t.ancestors k) :
    a = b ∨ a ∈ t.ancestors b ∨ b ∈ t.ancestors a := by
  rcases List.suffix_or_suffix_of_suffix (suffix_ancestors ha) (suffix_ancestors hb) with h | h
  · rcases List.mem_cons.1 (h.subset List.mem_cons_self) with rfl | hab
    · exact .inl rfl
    · exact .inr (.inl hab)
  · rcases List.mem_cons.1 (h.subset List.mem_cons_self) with rfl | hba
    · exact .inl rfl
    · exact .inr (.inr hba)

/-- What stands in the page stands around nothing that does not. -/
theorem attached_of_mem (h : j ∈ t.ancestors k) : t.attached j = t.attached k := by
  obtain ⟨nearer, hsuffix⟩ := suffix_ancestors h
  have hlast : ((t.ancestors k).getLast?).getD k = ((t.ancestors j).getLast?).getD j := by
    rw [← hsuffix, List.getLast?_append, List.getLast?_cons]
    rfl
  rw [attached, attached, hlast]

theorem found_iff {selector : Selector} :
    t.found selector k = true ↔ ∃ e, t.get? k = some e ∧ selector.finds e = true := by
  unfold found
  cases t.get? k <;> simp

theorem mem_selectAll {selector : Selector} : k ∈ t.selectAll selector ↔
    t.found selector k = true ∧ t.attached k = true := by
  rw [selectAll, List.mem_filter, List.mem_range, Bool.and_eq_true]
  refine and_iff_right_of_imp fun h => ?_
  obtain ⟨e, he, -⟩ := found_iff.1 h.1
  exact (List.getElem?_eq_some_iff.1 he).1

/-- Neither of two elements stands in the other. -/
structure Unnested (t : Tree) (a b : Nat) : Prop where
  ne : a ≠ b
  left : a ∉ t.ancestors b
  right : b ∉ t.ancestors a

/-- Nothing stands in both of two elements of which neither stands in the other. -/
theorem Unnested.ne_of_mem (h : t.Unnested a b) (hj : a ∈ t.ancestors j) (hk : b ∈ t.ancestors k) :
    j ≠ k := by
  rintro rfl
  rcases mem_ancestors_or_mem_ancestors hj hk with hab | hab | hba
  · exact h.ne hab
  · exact h.left hab
  · exact h.right hba

/-- The elements that a selector finds, if none of them stands in another one. -/
theorem pairwise_unnested {s : Selector}
    (h : ∀ a ∈ t.selectAll s, ∀ b ∈ t.selectAll s, a ∉ t.ancestors b) :
    (t.selectAll s).Pairwise t.Unnested := by
  have hnodup : (t.selectAll s).Nodup := List.nodup_range.filter _
  refine hnodup.imp_of_mem fun {a b} ha hb hne => ?_
  exact ⟨hne, h a ha b hb, h b hb a ha⟩

/-! ## Trees with the same places -/

/-- Each element stands in the one tree where it stands in the other. -/
structure SameFrame (t t' : Tree) : Prop where
  length : t'.elements.length = t.elements.length
  ancestors : ∀ k, t'.ancestors k = t.ancestors k

theorem SameFrame.refl (t : Tree) : t.SameFrame t := ⟨rfl, fun _ => rfl⟩

theorem SameFrame.trans (h : t.SameFrame t') (h' : t'.SameFrame u) : t.SameFrame u :=
  ⟨h'.length.trans h.length, fun k => (h'.ancestors k).trans (h.ancestors k)⟩

theorem ancestors_congr (h : ∀ k, t'.parent? k = t.parent? k) (k : Nat) :
    t'.ancestors k = t.ancestors k := by
  induction k using Nat.strongRecOn with
  | ind k ih =>
    cases hp : t.parent? k with
    | none => rw [ancestors_of_none hp, ancestors_of_none ((h k).trans hp)]
    | some p =>
      rw [ancestors_of_some hp, ancestors_of_some ((h k).trans hp), ih p (lt_of_parent? hp)]

/-- The topmost element around an element alone tells whether it is part of the page. -/
theorem attached_congr (hancestors : t'.ancestors k = t.ancestors k)
    (hpage : ∀ j, (t'.get? j).map (·.place) = some .page ↔ (t.get? j).map (·.place) = some .page) :
    t'.attached k = t.attached k := by
  rw [attached, attached, hancestors]
  exact decide_eq_decide.2 (hpage _)

/-! ## One element changes -/

@[simp]
theorem length_modify (t : Tree) (k : Nat) (f : Element → Element) :
    (t.modify k f).elements.length = t.elements.length := List.length_modify ..

@[simp]
theorem length_fill (t : Tree) (k : Nat) (markup : String) :
    (t.fill k markup).elements.length = t.elements.length := by
  simp [fill]

theorem get?_modify (t : Tree) (k : Nat) (f : Element → Element) (j : Nat) :
    (t.modify k f).get? j = if k = j then (t.get? j).map f else t.get? j := by
  rw [get?, get?, modify, List.getElem?_modify]
  split <;> simp

/-- The place of an element alone tells its parent. -/
theorem parent?_congr (h : (t'.get? k).map (·.place) = (t.get? k).map (·.place)) :
    t'.parent? k = t.parent? k := by
  unfold parent?
  cases he' : t'.get? k with
  | none =>
    rw [he'] at h
    rw [Option.map_eq_none_iff.1 h.symm]
  | some e' =>
    rw [he'] at h
    obtain ⟨e, he, hplace⟩ := Option.map_eq_some_iff.1 h.symm
    rw [he]
    obtain ⟨⟨_, _, _, _, _, _, _⟩, place, _, _, _⟩ := e
    obtain ⟨⟨_, _, _, _, _, _, _⟩, place', _, _, _⟩ := e'
    obtain rfl : place = place' := hplace
    cases place <;> rfl

/-- What a change of one element leaves as it is in it, it leaves in all elements. -/
theorem map_get?_modify {α : Type} {g : Element → α} {f : Element → Element}
    (hf : ∀ e, g (f e) = g e) (t : Tree) (k j : Nat) :
    ((t.modify k f).get? j).map g = (t.get? j).map g := by
  rw [get?_modify]
  split
  · rw [Option.map_map]
    exact congrArg (Option.map · _) (funext hf)
  · rfl

/-- A change of an element that does not move it leaves all places as they are. -/
theorem sameFrame_modify (t : Tree) (k : Nat) {f : Element → Element}
    (hf : ∀ e, (f e).place = e.place) : t.SameFrame (t.modify k f) :=
  ⟨t.length_modify k f, ancestors_congr fun j => parent?_congr (map_get?_modify hf t k j)⟩

theorem attached_modify (t : Tree) (k : Nat) {f : Element → Element}
    (hf : ∀ e, (f e).place = e.place) (j : Nat) : (t.modify k f).attached j = t.attached j :=
  attached_congr ((t.sameFrame_modify k hf).ancestors j) fun i => by rw [map_get?_modify hf t k i]

/-- What filling an element leaves as it is in it. -/
theorem map_get?_fill {α : Type} {g : Element → α} (hplace : ∀ e p, g { e with place := p } = g e)
    (hfill : ∀ e m n, g { e with markup := m, items := n } = g e)
    (t : Tree) (k : Nat) (markup : String) (j : Nat) :
    ((t.fill k markup).get? j).map g = (t.get? j).map g := by
  rw [fill, map_get?_modify fun e => hfill e _ _, get?, List.getElem?_map, Option.map_map]
  refine congrArg (Option.map · _) (funext fun e => ?_)
  rw [Function.comp_apply]
  split
  · exact hplace e _
  · rfl

/-! ## Markup and classes -/

theorem get?_eq_getElem (h : k < t.elements.length) : t.get? k = some t.elements[k] :=
  List.getElem?_eq_getElem h

theorem markup?_fill_self (h : k < t.elements.length) (markup : String) :
    (t.fill k markup).markup? k = some markup := by
  rw [markup?, fill, get?_modify, if_pos rfl, get?, List.getElem?_map, List.getElem?_eq_getElem h]
  rfl

theorem markup?_fill_ne (h : k ≠ j) (markup : String) :
    (t.fill k markup).markup? j = t.markup? j := by
  rw [markup?, fill, get?_modify, if_neg h, get?, List.getElem?_map, Option.map_map]
  refine congrArg (fun g => (Option.map g _).join) (funext fun e => ?_)
  rw [Function.comp_apply]
  split <;> rfl

theorem markup?_modify {f : Element → Element} (hf : ∀ e, (f e).markup = e.markup) :
    (t.modify k f).markup? j = t.markup? j :=
  congrArg Option.join (map_get?_modify hf t k j)

theorem found_modify {s : Selector} {f : Element → Element} (hf : ∀ e, s.finds (f e) = s.finds e) :
    (t.modify k f).found s j = t.found s j :=
  congrArg (Option.getD · false) (map_get?_modify hf t k j)

theorem found_modify_ne {s : Selector} {f : Element → Element} (h : k ≠ j) :
    (t.modify k f).found s j = t.found s j := by
  rw [found, get?_modify, if_neg h]
  rfl

theorem found_modify_self {s : Selector} {f : Element → Element} {on : Bool}
    (h : k < t.elements.length) (hf : ∀ e, s.finds (f e) = on) :
    (t.modify k f).found s k = on := by
  rw [found, get?_modify, if_pos rfl, get?_eq_getElem h]
  exact hf _

theorem found_fill {s : Selector} (markup : String) :
    (t.fill k markup).found s j = t.found s j := by
  have hg := map_get?_fill (g := s.finds) (fun e p => by cases s <;> rfl)
    (fun e m n => by cases s <;> rfl) t k markup j
  exact congrArg (Option.getD · false) hg

end Tree

theorem finds_addClass (e : Element) (name : String) :
    (Selector.ofClass name).finds (e.addClass name) = true := by
  unfold Element.addClass
  split
  · next h => exact h
  · simp [Selector.finds]

theorem finds_removeClass (e : Element) (name : String) :
    (Selector.ofClass name).finds (e.removeClass name) = false := by
  simp [Selector.finds, Element.removeClass]

theorem markup_addClass (e : Element) (name : String) : (e.addClass name).markup = e.markup := by
  unfold Element.addClass
  split <;> rfl

end SearchPanel.Page
