import SearchPanel.LoadError

/-!
# Files

What stands at a path: bytes or a directory, or nothing. A text is read from it when the bytes are
UTF-8.
-/

namespace SearchPanel

/-- What stands at a path. -/
inductive StoredFile
  | bytes (content : ByteArray)
  | directory

/-- Why no text is read from a path. -/
inductive ReadError
  | notFound
  | notADirectory
  | isADirectory
  | notUtf8
  /-- The system refuses for another reason. -/
  | refused (reason : String) (code : Nat)
deriving DecidableEq, Repr

/-- The wording of a reason that the system gives. -/
def systemReason (reason : String) (code : Nat) : String :=
  reason ++ " (os error " ++ toString code ++ ")"

def ReadError.message : ReadError → String
  | notFound => systemReason "No such file or directory" 2
  | notADirectory => systemReason "Not a directory" 20
  | isADirectory => systemReason "Is a directory" 21
  | notUtf8 => "stream did not contain valid UTF-8"
  | refused reason code => systemReason reason code

/-- A file that holds a text. -/
def StoredFile.ofText (text : String) : StoredFile := .bytes text.toUTF8

/-- The text that is read from what stands at a path. -/
def readText : Option StoredFile → Except ReadError String
  | none => .error .notFound
  | some .directory => .error .isADirectory
  | some (.bytes content) =>
    match String.fromUTF8? content with
    | some text => .ok text
    | none => .error .notUtf8

/-- The documents of an index from what was read at its path. -/
def loadRead : Except ReadError String → Except LoadError (List Document)
  | .ok text => loadText text
  | .error e => .error (.unreadable e.message)

/-- The documents of the index that stands at a path. -/
def loadFile (file : Option StoredFile) : Except LoadError (List Document) :=
  loadRead (readText file)

end SearchPanel
