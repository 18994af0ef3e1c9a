/-!
# Settings of a search panel

The threshold, the cap on results and the snippet window belong to the theme. A page may only move
the index (`PageOptions`); the command line may set every field.
-/

namespace SearchPanel

/-- Site-relative path of the index. -/
def defaultIndexPath : String := "/index.json"

/-- Queries with fewer characters search nothing. -/
def defaultMinChars : Nat := 3

/-- At most this many documents are shown for one query. -/
def defaultMaxResults : Nat := 10

/-- Width in characters of the window that a snippet shows. -/
def defaultSnippetLength : Nat := 140

/-- The settings of one panel. -/
structure Config where
  indexPath : String := defaultIndexPath
  minChars : Nat := defaultMinChars
  maxResults : Nat := defaultMaxResults
  snippetLength : Nat := defaultSnippetLength
deriving DecidableEq, Inhabited

/-- What a page may choose. -/
structure PageOptions where
  indexPath : Option String := none
deriving DecidableEq, Inhabited

/-- The theme's settings with the page's index location applied. -/
def PageOptions.toConfig (o : PageOptions) : Config :=
  { indexPath := o.indexPath.getD defaultIndexPath }

end SearchPanel
