/-!
# Documents

One searchable page of a site, as its generator writes it into the index. A field that the index
leaves out is the empty text.
-/

namespace SearchPanel

/-- One searchable page. -/
structure Document where
  title : String := ""
  description : String := ""
  content : String := ""
  permalink : String := ""
deriving DecidableEq, Inhabited

/-- The fields a query is matched against, in the order they are checked. The link is not one. -/
def Document.searchableFields (d : Document) : List String := [d.title, d.description, d.content]

end SearchPanel
