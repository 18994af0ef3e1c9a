import SearchPanel.Config
import SearchPanel.Text.Blank
import SearchPanel.Text.Quoted
import SearchPanel.Text.Split
import SearchPanel.Text.Substring

/-!
# Declared constants

A theme's script has the default settings written into it, so the file that declares them must
agree with it. A constant is declared on one line, `pub const NAME: Type = value;`, and the first
such line counts.
-/

namespace SearchPanel.Maintenance

/-- A text without the semicolons at its end. -/
def withoutSemicolons (text : List Char) : List Char :=
  (text.reverse.dropWhile (· = ';')).reverse

/-- The value on a line that declares a constant: what stands between its first equals sign and the
next one. -/
def declaredValue? (line : List Char) : Option (List Char) :=
  match Text.splitAt '=' line with
  | _ :: value :: _ => some (Text.trim (withoutSemicolons (Text.trim value)))
  | _ => none

/-- The lines of a text without the white space around them. -/
def trimmedLines (text : String) : List (List Char) := (Text.splitAt '\n' text.toList).map Text.trim

/-- The value of a constant that a text declares. -/
def constant? (text name : String) : Option String :=
  let start := ("pub const " ++ name ++ ":").toList
  (((trimmedLines text).find? start.isPrefixOf).bind declaredValue?).map String.ofList

/-- A constant that does not have its value. -/
inductive Mismatch
  | missing (name : String)
  | differs (name found expected : String)
deriving DecidableEq, Repr

/-- The constants that the theme's script relies on, with their values as they are declared. -/
def expectedConstants : List (String × String) :=
  [("INDEX_PATH", Text.quoted defaultIndexPath), ("MIN_QUERY_CHARS", toString defaultMinChars),
    ("MAX_RESULTS", toString defaultMaxResults), ("SNIPPET_LENGTH", toString defaultSnippetLength)]

/-- What is wrong with one constant of a text. -/
def mismatchOf? (text : String) (expected : String × String) : Option Mismatch :=
  match constant? text expected.1 with
  | none => some (.missing expected.1)
  | some found => if found = expected.2 then none else some (.differs expected.1 found expected.2)

/-- The first constant of a text that does not have its value. -/
def mismatch? (text : String) : Option Mismatch := expectedConstants.findSome? (mismatchOf? text)

end SearchPanel.Maintenance
