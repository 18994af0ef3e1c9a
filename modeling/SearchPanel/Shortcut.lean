/-!
# The focus shortcut

Pressing `/` moves the focus to the search input, unless a modifier is held or the key is typed
into a form control.
-/

namespace SearchPanel

/-- The key that moves the focus. -/
def focusKey : String := "/"

/-- What had the focus when a key was pressed. -/
inductive KeyTarget
  | input
  | textArea
  | button
  | select
  | other
deriving DecidableEq, Repr

/-- Whether the target takes keys for itself. -/
def KeyTarget.isFormControl (t : KeyTarget) : Bool := t != .other

/-- A pressed key, as far as the shortcut looks at it. -/
structure KeyPress where
  key : String
  ctrl : Bool := false
  command : Bool := false
  target : KeyTarget := .other

/-- Whether a key press moves the focus to the search input. -/
def KeyPress.focusesSearch (p : KeyPress) : Bool :=
  !p.target.isFormControl && p.key == focusKey && !p.ctrl && !p.command

end SearchPanel
