import SearchPanel.Fragment
import SearchPanel.Panel.Layout

/-!
# What a panel does to its page

A panel changes what is shown by four kinds of calls and by nothing else. `View` is what is shown
after the calls so far: the fragments, whether the input is marked as having results, the height of
the list, and how often the list was cleared and filled.
-/

namespace SearchPanel

/-- A change of what is shown. -/
inductive ViewCall (H : Type)
  /-- Mark the input as having results, or not. -/
  | setHasResults (on : Bool)
  | clearResults
  | setResults (fragments : List Fragment)
  | setMaxHeight (height : H)

/-- What is shown. -/
structure View (H : Type) where
  fragments : List Fragment := []
  hasResults : Bool := false
  maxHeight : Option H := none
  clears : Nat := 0
  renders : Nat := 0

variable {H : Type}

/-- What is shown after a call. -/
def View.apply (v : View H) : ViewCall H → View H
  | .setHasResults on => { v with hasResults := on }
  | .clearResults => { v with fragments := [], clears := v.clears + 1 }
  | .setResults fs => { v with fragments := fs, renders := v.renders + 1 }
  | .setMaxHeight h => { v with maxHeight := some h }

/-- What is shown after some calls, the first one first. -/
def View.applyAll (v : View H) (calls : List (ViewCall H)) : View H := calls.foldl View.apply v

theorem View.applyAll_append (v : View H) (first later : List (ViewCall H)) :
    v.applyAll (first ++ later) = (v.applyAll first).applyAll later := by
  simp [View.applyAll]

/-- The calls that empty a panel for a new query. -/
def clearing : List (ViewCall H) := [.setHasResults false, .clearResults]

/-- The calls that show fragments. The mark and the height follow only if there is one. -/
def showing [Sub H] (g : Layout H) (fragments : List Fragment) : List (ViewCall H) :=
  .setResults fragments ::
    if fragments.isEmpty then []
    else .setHasResults true :: (g.adjust fragments.length).toList.map .setMaxHeight

end SearchPanel
