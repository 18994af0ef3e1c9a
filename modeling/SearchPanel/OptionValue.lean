import SearchPanel.Config
import SearchPanel.Json.Failure

/-!
# Options from a script

A page's script may hand over options as a value of its own, of any kind. Only an object's member
`indexPath` is looked at; its other members are not seen. A value that is absent gives the defaults,
and so does a list, which has no such member.
-/

namespace SearchPanel

/-- A value of a script. -/
inductive OptionValue
  | undefined
  | null
  | boolean (value : Bool)
  | number (value : Float)
  | text (value : String)
  | list (items : List OptionValue)
  | object (members : List (String × OptionValue))
deriving Inhabited

/-- A value of the wrong kind among the options. -/
structure OptionError where
  found : Json.Found
  expected : String

/-- Numbers of a script are floats, and their texts have no exponents. -/
def scriptNumbers : Decimal.Form := { positional := none, tieUp := true }

/-- The wording of a wrong option. -/
def OptionError.message (e : OptionError) : String :=
  "Invalid options: Error: " ++ Json.wrongTypeMessage scriptNumbers e.found e.expected

/-- A value as messages name it. -/
def OptionValue.found : OptionValue → Json.Found
  | undefined | null => .null
  | boolean b => .boolean b
  | number x => .float x
  | text s => .string s
  | list _ => .sequence
  | object _ => .map

/-- The index path that a member asks for. -/
def OptionValue.toPath : Option OptionValue → Except OptionError (Option String)
  | none | some undefined | some null => .ok none
  | some (text path) => .ok (some path)
  | some v => .error ⟨v.found, "a string"⟩

/-- What a page may choose, from a value of its script. -/
def PageOptions.ofValue : OptionValue → Except OptionError PageOptions
  | .undefined | .null | .list _ => .ok {}
  | .object members =>
    (OptionValue.toPath (members.lookup "indexPath")).map fun path => { indexPath := path }
  | v => .error ⟨v.found, "struct PageOptions"⟩

end SearchPanel
