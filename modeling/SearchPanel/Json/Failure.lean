import SearchPanel.Decimal.Shortest
import SearchPanel.Text.Quoted

/-!
# Why a JSON text is refused

A `Failure` says what was wrong and where reading had come to. Its place is given by what was left
of the text, and by how many bytes of that still count as read: none if the fault lies behind the
reader (`Failure.behind`), one if it is the next byte (`Failure.ahead`). `Failure.locate` turns the
place into line and column, where columns count bytes of UTF-8.
-/

namespace SearchPanel.Json

/-- A value found where another kind was expected. -/
inductive Found
  | null
  | boolean (value : Bool)
  | integer (value : Int)
  | float (value : Float)
  | string (value : String)
  | sequence
  | map

/-- Floats in messages: positional for leading digits from `1e-5` to `1e15`, else with a signed
exponent. -/
def floatForm : Decimal.Form := { positional := some (-5, 15), tieUp := false }

/-- A found value as messages name it, its floats in a form. -/
def Found.describe (floats : Decimal.Form) : Found → String
  | null => "null"
  | boolean b => "boolean `" ++ toString b ++ "`"
  | integer n => "integer `" ++ toString n ++ "`"
  | float x => "floating point `" ++ floats.float x ++ "`"
  | string s => "string " ++ Text.quoted s
  | sequence => "sequence"
  | map => "map"

/-- The wording for a value of the wrong kind. -/
def wrongTypeMessage (floats : Decimal.Form) (found : Found) (expected : String) : String :=
  "invalid type: " ++ found.describe floats ++ ", expected " ++ expected

/-- What can be wrong with a JSON text. -/
inductive Cause
  | endInList
  | endInObject
  | endInString
  | endInValue
  | expectedColon
  | expectedListCommaOrEnd
  | expectedObjectCommaOrEnd
  | expectedWord
  | expectedValue
  | invalidEscape
  | invalidNumber
  | numberOutOfRange
  | controlCharacter
  | keyNotString
  | loneSurrogate
  | unpairedSurrogate
  | trailingComma
  | trailingCharacters
  | wrongType (found : Found) (expected : String)
  | unknownField (name : String) (known : List String)
  | duplicateField (name : String)

/-- The wording of a cause. -/
def Cause.message : Cause → String
  | endInList => "EOF while parsing a list"
  | endInObject => "EOF while parsing an object"
  | endInString => "EOF while parsing a string"
  | endInValue => "EOF while parsing a value"
  | expectedColon => "expected `:`"
  | expectedListCommaOrEnd => "expected `,` or `]`"
  | expectedObjectCommaOrEnd => "expected `,` or `\x7d`"
  | expectedWord => "expected ident"
  | expectedValue => "expected value"
  | invalidEscape => "invalid escape"
  | invalidNumber => "invalid number"
  | numberOutOfRange => "number out of range"
  | controlCharacter => "control character (\\u0000-\\u001F) found while parsing a string"
  | keyNotString => "key must be a string"
  | loneSurrogate => "lone leading surrogate in hex escape"
  | unpairedSurrogate => "unexpected end of hex escape"
  | trailingComma => "trailing comma"
  | trailingCharacters => "trailing characters"
  | wrongType found expected => wrongTypeMessage floatForm found expected
  | unknownField name known =>
    "unknown field `" ++ name ++ "`, expected " ++
      ", ".intercalate (known.map fun k => "`" ++ k ++ "`")
  | duplicateField name => "duplicate field `" ++ name ++ "`"

/-- A cause and the place where it was found. -/
structure Failure where
  cause : Cause
  /-- What was left of the text. -/
  rest : List Char
  /-- How many bytes of the rest count as read. -/
  beyond : Nat

/-- A fault in what was read up to `rest`. -/
def Failure.behind (cause : Cause) (rest : List Char) : Failure := ⟨cause, rest, 0⟩

/-- A fault of the next byte, or of the end if nothing is left. -/
def Failure.ahead (cause : Cause) (rest : List Char) : Failure := ⟨cause, rest, 1⟩

/-- How many bytes a text takes in UTF-8. -/
def byteCount (text : List Char) : Nat := text.foldr (fun c n => c.utf8Size + n) 0

/-- A place in a text: the line from one, the column as the bytes behind the last line feed. -/
structure Position where
  line : Nat := 1
  column : Nat := 0
deriving DecidableEq, Repr

/-- The place `bytes` bytes further into a text, or its end. -/
def Position.advance (p : Position) (bytes : Nat) : List Char → Position
  | [] => p
  | c :: rest =>
    if bytes = 0 then p
    else if c = '\n' then advance ⟨p.line + 1, 0⟩ (bytes - 1) rest
    else advance ⟨p.line, p.column + min c.utf8Size bytes⟩ (bytes - c.utf8Size) rest

/-- A fault and its place in the text. -/
structure Error where
  cause : Cause
  position : Position

/-- The wording of a fault. -/
def Error.message (e : Error) : String :=
  e.cause.message ++ " at line " ++ toString e.position.line ++ " column " ++
    toString e.position.column

/-- A failure with its place in the text that was read. -/
def Failure.locate (f : Failure) (text : List Char) : Error :=
  ⟨f.cause, Position.advance {} (byteCount text - byteCount f.rest + f.beyond) text⟩

end SearchPanel.Json
