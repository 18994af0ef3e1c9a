import SearchPanel.Document

/-!
# Sample documents

Documents to try a panel with.
-/

namespace SearchPanel.Document

/-- The link of the sample document with a number. -/
def sampleLink (number : Nat) : String := "/doc/" ++ toString number ++ "/"

/-- A document all of whose fields mention its title. -/
def sample (number : Nat) (title : String) : Document :=
  { title := title
    description := "Description of " ++ title
    content := "Content about " ++ title
    permalink := sampleLink number }

/-- `count` numbered posts with the same content. -/
def samples (count : Nat) (content : String) : List Document :=
  (List.range count).map fun k =>
    { title := "Post " ++ toString k, content := content, permalink := sampleLink k }

end SearchPanel.Document
