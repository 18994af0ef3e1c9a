import SearchPanel.Page.Element

/-!
# Element trees

The elements of a page in document order, each naming the place it stands in. A parent always comes
before its children. `nodes` lays out what the author of a page wrote.
-/

namespace SearchPanel.Page

/-- An element with what stands in it, as the author of a page writes it. -/
inductive Node
  | element (attributes : Attributes) (children : List Node)

instance : Inhabited Node := ⟨.element { tag := "div" } []⟩

mutual

/-- An element that gets the number `k`, and the elements in it. -/
def Node.layOut (place : Place) (k : Nat) : Node → List Element
  | .element a children => { a with place := place } :: Node.layOutAll (.inside k) (k + 1) children

/-- Neighbours, the first of which gets the number `k`. -/
def Node.layOutAll (place : Place) (k : Nat) : List Node → List Element
  | [] => []
  | n :: rest =>
    let first := n.layOut place k
    first ++ Node.layOutAll place (k + first.length) rest

end

/-- The elements of a page; an element's number is its position. -/
structure Tree where
  elements : List Element := []

namespace Tree

/-- The tree of what the author of a page wrote. -/
def ofNodes (nodes : List Node) : Tree := ⟨Node.layOutAll .page 0 nodes⟩

/-- The element with a number. -/
def get? (t : Tree) (k : Nat) : Option Element := t.elements[k]?

/-- The parent of an element. -/
def parent? (t : Tree) (k : Nat) : Option Nat :=
  match t.get? k with
  | some { place := .inside p, .. } => if p < k then some p else none
  | _ => none

theorem lt_of_parent? {t : Tree} {k p : Nat} (h : t.parent? k = some p) : p < k := by
  unfold parent? at h
  split at h
  · split at h
    · simp_all
    · simp at h
  · simp at h

/-- The elements around an element, the nearest first. -/
def ancestors (t : Tree) (k : Nat) : List Nat :=
  match h : t.parent? k with
  | some p =>
    have := lt_of_parent? h
    p :: t.ancestors p
  | none => []
termination_by k

/-- Whether an element is part of the page still. -/
def attached (t : Tree) (k : Nat) : Bool :=
  let top := ((t.ancestors k).getLast?).getD k
  ((t.get? top).map (·.place)) = some .page

/-- The elements that stand directly in an element. -/
def children (t : Tree) (k : Nat) : List Nat :=
  (List.range t.elements.length).filter fun j => t.parent? j = some k

/-- How many elements stand directly in an element. -/
def childCount (t : Tree) (k : Nat) : Nat :=
  (t.children k).length + ((t.get? k).map (·.items)).getD 0

/-- Whether a selector finds the element with a number. -/
def found (t : Tree) (s : Selector) (k : Nat) : Bool := ((t.get? k).map s.finds).getD false

/-- The elements of the page that a selector finds, in document order. -/
def selectAll (t : Tree) (s : Selector) : List Nat :=
  (List.range t.elements.length).filter fun k => t.found s k && t.attached k

/-- The first element in an element that a selector finds. -/
def selectIn (t : Tree) (root : Nat) (s : Selector) : Option Nat :=
  (List.range t.elements.length).find? fun k => t.found s k && (t.ancestors k).contains root

/-- The nearest of an element and those around it that a selector finds. -/
def closest (t : Tree) (k : Nat) (s : Selector) : Option Nat :=
  (k :: t.ancestors k).find? (t.found s)

/-- The element with an id. -/
def byId (t : Tree) (id : String) : Option Nat := t.elements.findIdx? (·.id = some id)

/-- The markup that an element was filled with last. -/
def markup? (t : Tree) (k : Nat) : Option String := ((t.get? k).map (·.markup)).join

/-- An element changes. -/
def modify (t : Tree) (k : Nat) (f : Element → Element) : Tree := ⟨t.elements.modify k f⟩

/-- An element is filled with markup: what stood in it is taken out. -/
def fill (t : Tree) (k : Nat) (markup : String) : Tree :=
  let emptied := t.elements.map fun e =>
    if e.place = .inside k then { e with place := .detached } else e
  Tree.modify ⟨emptied⟩ k fun e =>
    { e with markup := some markup, items := itemCount markup.toList }

end Tree

end SearchPanel.Page
