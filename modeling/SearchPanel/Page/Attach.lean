import SearchPanel.Page.Basic

/-!
# Attaching panels

Each search section of a page gets a panel of its own, if it has an input and a place for results,
and the page has a sidebar. A section that lacks something is left alone and changes nothing for the
others.
-/

namespace SearchPanel.Page

/-- A search section. -/
def sectionSelector : Selector := .ofClass "sidebar__section--search"

/-- The place for results in a section. -/
def resultsSelector : Selector := .ofClass "sidebar__section--search-results"

/-- The content of the sidebar. -/
def sidebarSelector : Selector := .ofClass "sidebar__content"

/-- An element that a panel can work on, or what is lacking instead. -/
def needHtml (p : Page) (lack : Lack) (found : Option Nat) : Except Lack Nat :=
  match found with
  | none => .error lack
  | some k => if ((p.tree.get? k).map (·.isHtml)).getD false then .ok k else .error lack

/-- The elements of the panel for a section, or what the section lacks. -/
def sectionOf (p : Page) (config : Config) (root : Nat) : Except Lack Section := do
  let input ← p.needHtml .input (p.tree.selectIn root .searchInput)
  let results ← p.needHtml .results (p.tree.selectIn root resultsSelector)
  let sidebar ← p.needHtml .sidebar (p.tree.selectAll sidebarSelector).head?
  let box ← p.needHtml .enclosing (p.tree.closest input sectionSelector)
  return { input, results, sidebar, box, controller := { config } }

/-- A panel is wired; results that stand in its list already get their height. -/
def wire (p : Page) (s : Section) : Page := Page.adjust { p with panels := p.panels ++ [s] } s

/-- Each section is wired or left alone: how many were wired, the page, and the notices. -/
def wireAll (p : Page) (config : Config) : List Nat → Nat × Page × List Notice
  | [] => (0, p, [])
  | root :: rest =>
    match p.sectionOf config root with
    | .error lack =>
      let (wired, p, notices) := p.wireAll config rest
      (wired, p, .sectionSkipped lack :: notices)
    | .ok s =>
      let (wired, p, notices) := (p.wire s).wireAll config rest
      (wired + 1, p, notices)

/-- Why panels could not be attached. -/
inductive AttachError
  | options (error : OptionError)
  | noWindow
  | noDocument

def AttachError.message : AttachError → String
  | options e => e.message
  | noWindow => "no window"
  | noDocument => "no document"

/-- Panels are attached to all search sections: how many, or why not. With at least one section, the
focus shortcut leads to the first of them from now on. -/
def attach (p : Page) (options : OptionValue) : Except AttachError Nat × Page × List Notice :=
  match PageOptions.ofValue options with
  | .error e => (.error (.options e), p, [])
  | .ok o =>
    let p := p.setVerbosity Level.info.rank
    if !p.hasWindow then (.error .noWindow, p, [])
    else if !p.hasDocument then (.error .noDocument, p, [])
    else
      match p.tree.selectAll sectionSelector with
      | [] => (.ok 0, p, [])
      | first :: rest =>
        let (wired, p, notices) := p.wireAll o.toConfig (first :: rest)
        (.ok wired, { p with shortcuts := p.shortcuts ++ [first] }, notices ++ [.attached wired])

end SearchPanel.Page
