import SearchPanel.LoadError
import SearchPanel.Text.Quoted

/-!
# Notices

What a panel tells about itself while it works. Readers of a page never see it. Each notice has a
level and a wording.
-/

namespace SearchPanel

/-- How much a notice matters, the most important first. -/
inductive Level
  | error
  | warn
  | info
  | debug
deriving DecidableEq, Repr

/-- Levels as numbers; a greater one matters less. -/
def Level.rank : Level → Nat
  | error => 1
  | warn => 2
  | info => 3
  | debug => 4

/-- What a search section can lack. -/
inductive Lack
  | input
  | results
  | sidebar
  | enclosing
deriving DecidableEq, Repr

/-- Why a section that lacks something is left alone. -/
def Lack.message : Lack → String
  | input => "search section has no input, skipping"
  | results => "search section has no results container, skipping"
  | sidebar => "no sidebar content element, skipping search section"
  | enclosing => "search input is outside a search section, skipping"

/-- What a panel tells about itself. -/
inductive Notice
  /-- The index is asked for, for this many times now. -/
  | fetching (attempt : Nat)
  | indexEmpty
  | indexLoaded (documents : Nat)
  | loadFailed (error : LoadError)
  /-- A query came while another one waited for the index. -/
  | queryDropped (query : String)
  | sectionSkipped (lack : Lack)
  | attached (sections : Nat)

namespace Notice

def level : Notice → Level
  | loadFailed _ => .error
  | indexEmpty => .warn
  | indexLoaded _ => .info
  | fetching _ | queryDropped _ | sectionSkipped _ | attached _ => .debug

def message : Notice → String
  | fetching n => "fetching search index (attempt " ++ toString n ++ ")"
  | indexEmpty => "search index is empty"
  | indexLoaded n => "search index loaded: " ++ toString n ++ " documents"
  | loadFailed e => "failed to load search index: " ++ e.message
  | queryDropped q => "search in flight, dropping query " ++ Text.quoted q
  | sectionSkipped lack => lack.message
  | attached n => "sidebar search attached to " ++ toString n ++ " section(s)"

end Notice

end SearchPanel
