/-!
# Elements

The elements of a page as far as a panel sees them: tag, id, classes, the type and value of an
input, a height, whether it takes the focus, and what a panel has changed. `Selector` holds the two
kinds of questions by which elements are found.
-/

namespace SearchPanel.Page

/-- Where an element stands. -/
inductive Place
  /-- Directly in the page. -/
  | page
  /-- In the element with this number. -/
  | inside (parent : Nat)
  /-- Nowhere: its parent's markup was replaced. -/
  | detached
deriving DecidableEq, Repr

/-- What the author of a page says about an element. -/
structure Attributes where
  tag : String
  id : Option String := none
  classes : List String := []
  /-- The `type` attribute. -/
  type : Option String := none
  value : String := ""
  height : Int := 0
  /-- It is enabled and shown, so that it takes the focus when it is asked to. -/
  focusable : Bool := true

/-- An element of a page. -/
structure Element extends Attributes where
  place : Place
  /-- The markup that it was filled with last. -/
  markup : Option String := none
  /-- How many items that markup gave it. -/
  items : Nat := 0
  /-- The height that its style allows. -/
  maxHeight : Option Int := none

/-- How elements are found. -/
inductive Selector
  | ofClass (name : String)
  /-- An input for text. -/
  | searchInput
deriving DecidableEq, Repr

/-- Whether an input with this `type` attribute takes text to search for; case is ignored. -/
def isSearchType (type : String) : Bool := type.toLower = "text" || type.toLower = "search"

/-- Whether a selector finds an element. -/
def Selector.finds (e : Element) : Selector → Bool
  | ofClass name => e.classes.contains name
  | searchInput => e.tag = "input" && (e.type.map isSearchType).getD false

namespace Element

/-- Drawings cannot be filled with markup, styled or measured by a panel. -/
def isHtml (e : Element) : Bool := e.tag ≠ "svg"

/-- A class is added behind the others, unless it is there already. -/
def addClass (e : Element) (name : String) : Element :=
  if e.classes.contains name then e else { e with classes := e.classes ++ [name] }

/-- A class is taken away. -/
def removeClass (e : Element) (name : String) : Element :=
  { e with classes := e.classes.filter (· ≠ name) }

/-- The height that an element's style allows, as it is written there. -/
def maxHeightText (e : Element) : Option String := e.maxHeight.map fun h => toString h ++ "px"

end Element

/-- How many list items a markup opens. -/
def itemCount : List Char → Nat
  | '<' :: 'l' :: 'i' :: '>' :: rest => itemCount rest + 1
  | _ :: rest => itemCount rest
  | [] => 0

end SearchPanel.Page
