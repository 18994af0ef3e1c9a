import SearchPanel.LoadError
import SearchPanel.OptionValue
import SearchPanel.Search

/-!
# An index for scripts

A script that shows results on its own gets the documents with a configuration, and asks them the
same questions as a panel does. A short query has no answers.
-/

namespace SearchPanel

/-- Documents, and the settings to search them with. -/
structure LoadedIndex where
  documents : List Document
  config : Config

/-- Why a script gets no index. The documents are read before the options. -/
inductive IndexError
  | load (error : LoadError)
  | options (error : OptionError)

def IndexError.message : IndexError → String
  | load e => e.message
  | options e => e.message

namespace LoadedIndex

/-- The index with a text and options. -/
def ofText (text : String) (options : OptionValue) : Except IndexError LoadedIndex :=
  match loadText text with
  | .error e => .error (.load e)
  | .ok docs =>
    match PageOptions.ofValue options with
    | .error e => .error (.options e)
    | .ok o => .ok ⟨docs, o.toConfig⟩

/-- The fragments that answer a query. -/
def search (index : LoadedIndex) (query : String) : List Fragment :=
  if query.length < index.config.minChars then []
  else answers index.documents query index.config

end LoadedIndex

end SearchPanel
