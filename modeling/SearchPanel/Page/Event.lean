import SearchPanel.Page.Attach
import SearchPanel.Shortcut

/-!
# Events of a page

What a reader, the window, the network and the page's own scripts do to a page. Typing into an input
and focusing it each start a query with the input's text for every panel that listens to it; the
queries run once the event is over.

The focus shortcut looks an input up each time its key is pressed (`firstInput`), also in what
panels show. The input that is found is asked to take the focus; one that is disabled or not shown
does not (`askFocus`).
-/

namespace SearchPanel.Page

/-- What happens to a page. -/
inductive Event
  | setVerbosity (verbosity : Verbosity)
  | attach (options : OptionValue)
  /-- A reader types, so that the element has this text. -/
  | type (target : Nat) (text : String)
  /-- An element gets the focus, by the reader's or a script's doing. -/
  | focus (target : Nat)
  | blur
  /-- An element takes the focus from now on, or no longer. -/
  | enable (target : Nat) (on : Bool)
  /-- The window changes, and with it the heights of some elements. -/
  | resize (heights : List (Nat × Int))
  | key (key : String) (ctrl command : Bool) (target : Option Nat)
  | respond (request : Nat) (response : Response)

/-- What an event gives. -/
inductive Reply
  | done
  | wired (sections : Nat)
  | refused (error : AttachError)
  /-- Whether the page keeps the key from its usual effect. -/
  | prevented (on : Bool)
  /-- Whether there was such a request to answer. -/
  | answered (found : Bool)

/-- Every panel that listens to an input starts a query with the input's text. -/
def startQueries (p : Page) (target : Nat) : Page :=
  let text := ((p.tree.get? target).map (·.value)).getD ""
  let listening := (p.panels.zipIdx.filter (·.1.input = target)).map (·.2)
  { p with tasks := p.tasks ++ listening.map fun k => { panel := k, query := text } }

/-- An element gets the focus; nothing happens if it has the focus already. -/
def focus (p : Page) (target : Nat) : Page :=
  if p.active = some target then p else Page.startQueries { p with active := some target } target

/-- An element takes the focus from now on, or no longer; then it loses the focus too. -/
def enable (p : Page) (target : Nat) (on : Bool) : Page :=
  { p with
    tree := p.tree.modify target fun e => { e with focusable := on }
    active := p.active.filter fun k => on || k ≠ target }

/-- What a key is typed into. -/
def keyTarget (p : Page) (target : Option Nat) : KeyTarget :=
  match (target.bind p.tree.get?).map (·.tag) with
  | some "input" => .input
  | some "textarea" => .textArea
  | some "button" => .button
  | some "select" => .select
  | _ => .other

/-- An input for text as it is found in a page. -/
inductive FoundInput
  /-- An element of the page. -/
  | own (element : Nat)
  /-- One that shown markup brought; it takes the focus or does not. -/
  | shown (focusable : Bool)

/-- What is found at the element with a number when an input for text is looked up in another one:
the element, or else the first input that its markup brought. -/
def inputAt (p : Page) (root k : Nat) : Option FoundInput :=
  let around := p.tree.ancestors k
  if p.tree.found .searchInput k && around.contains root then some (.own k)
  else if (k :: around).contains root then ((p.tree.markup? k).bind p.inputIn).map .shown
  else none

/-- The first input for text in an element. What an element was filled with comes right behind it,
since nothing else stands in it then. -/
def firstInput (p : Page) (root : Nat) : Option FoundInput :=
  (List.range p.tree.elements.length).findSome? (p.inputAt root)

/-- Whether an element gets the focus when it is asked to take it. -/
def takesFocus (p : Page) (k : Nat) : Bool :=
  p.tree.attached k && ((p.tree.get? k).map (·.focusable)).getD false

/-- An input is asked to take the focus. Nothing happens if it does not. -/
def askFocus (p : Page) : FoundInput → Page
  | .own k => if p.takesFocus k then p.focus k else p
  | .shown true => { p with active := none }
  | .shown false => p

/-- The input that is found in a section is asked to take the focus. -/
def focusSection (p : Page) (root : Nat) : Page :=
  match p.firstInput root with
  | some found => p.askFocus found
  | none => p

/-- A key is pressed: whether the page keeps it, and the page. -/
def press (p : Page) (k : KeyPress) : Bool × Page :=
  if k.focusesSearch then (!p.shortcuts.isEmpty, p.shortcuts.foldl focusSection p) else (false, p)

/-- Some elements get another height. -/
def setHeights (p : Page) (heights : List (Nat × Int)) : Page :=
  { p with
    tree := heights.foldl (fun t h => t.modify h.1 fun e => { e with height := h.2 }) p.tree }

/-- A request is answered, unless it was before: whether it is now, and the page. -/
def respond (p : Page) (request : Nat) (response : Response) : Bool × Page :=
  match p.requests[request]? with
  | some { response := none, .. } =>
    (true, { p with
      requests := p.requests.modify request fun r => { r with response := some response } })
  | _ => (false, p)

/-- An event, before the tasks have their turn. -/
def handle (p : Page) : Event → Reply × Page × List Notice
  | .setVerbosity v => (.done, p.setVerbosity v, [])
  | .attach options =>
    match p.attach options with
    | (.ok n, p, notices) => (.wired n, p, notices)
    | (.error e, p, notices) => (.refused e, p, notices)
  | .type target text =>
    let p := { p with tree := p.tree.modify target fun e => { e with value := text } }
    (.done, p.startQueries target, [])
  | .focus target => (.done, p.focus target, [])
  | .blur => (.done, { p with active := none }, [])
  | .enable target on => (.done, p.enable target on, [])
  | .resize heights => (.done, (p.setHeights heights).adjustAll, [])
  | .key key ctrl command target =>
    let (prevented, p) := p.press ⟨key, ctrl, command, p.keyTarget target⟩
    (.prevented prevented, p, [])
  | .respond request response =>
    let (found, p) := p.respond request response
    (.answered found, p, [])

/-- An event and the turns of the tasks after it: what it gives, the page, and the notices that
reach the console. -/
def step (p : Page) (e : Event) : Reply × Page × List Notice :=
  let (reply, p, notices) := p.handle e
  let (p, later) := p.settle
  (reply, p, (notices ++ later).filter p.hears)

/-- The page after some events. -/
def run (p : Page) (events : List Event) : Page := events.foldl (fun p e => (p.step e).2.1) p

end SearchPanel.Page
