/-!
# Height of a results list

The list stands under the search box, inside the sidebar. It may be as high as what the search box
leaves of the sidebar; a longer list scrolls.
-/

namespace SearchPanel

/-- The heights of the elements around a results list. -/
structure Layout (H : Type) where
  container : H
  searchBox : H

variable {H : Type} [Sub H]

/-- What a search box leaves of its container. -/
def maxResultsHeight (container searchBox : H) : H := container - searchBox

namespace Layout

/-- The height that a results list may have. -/
def maxHeight (g : Layout H) : H := maxResultsHeight g.container g.searchBox

/-- The height to apply to a list of `shown` results; an empty list is left as it is. -/
def adjust (g : Layout H) (shown : Nat) : Option H := if shown = 0 then none else some g.maxHeight

end Layout

end SearchPanel
