import SearchPanel.Config
import SearchPanel.Document
import SearchPanel.Json.Record

/-!
# Reading an index and page options

An index is a list of documents; members of a document that it does not know are skipped. Page
options are one record, whose only field is the path of the index; other members are refused, so
that a misspelled option is noticed.
-/

namespace SearchPanel.Json

/-- How a document is written. -/
def documentType : RecordType String where
  label := "struct Document"
  fields := ["title", "description", "content", "permalink"]
  closed := false
  readValue := readText
  length_readValue := length_readText

/-- A document from the fields that were written. -/
def toDocument (fs : Fields String) : Document :=
  let text (name : String) := (fs.lookup name).getD ""
  { title := text "title", description := text "description", content := text "content",
    permalink := text "permalink" }

/-- The documents of a list whose opening bracket has been read; `first` says that none has been
read yet. -/
def readDocuments (first : Bool) (text : List Char) : Reading (List Document) :=
  match hn : nextElement first text with
  | .error e => .error e
  | .ok (false, rest) => .ok ([], rest)
  | .ok (true, rest) =>
    match hr : readRecord documentType rest with
    | .error e => .error e
    | .ok (fs, rest) =>
      have := length_nextElement hn
      have := length_readRecord hr
      match readDocuments false rest with
      | .error e => .error e
      | .ok (docs, rest) => .ok (toDocument fs :: docs, rest)
termination_by text.length

/-- The index that begins after white space. -/
def readIndex (text : List Char) : Reading (List Document) :=
  match skipSpace text with
  | '[' :: rest => readDocuments true rest
  | start => .error (wrongType "a sequence" start)

/-- How page options are written. -/
def optionsType : RecordType (Option String) where
  label := "struct PageOptions"
  fields := ["indexPath"]
  closed := true
  readValue := readOptionalText
  length_readValue := length_readOptionalText

/-- The page options that begin after white space. -/
def readOptions (text : List Char) : Reading PageOptions :=
  match readRecord optionsType text with
  | .error e => .error e
  | .ok (fs, rest) => .ok ({ indexPath := (fs.lookup "indexPath").join }, rest)

end SearchPanel.Json

namespace SearchPanel

/-- The documents of an index. -/
def parseIndex (text : String) : Except Json.Error (List Document) :=
  Json.readAll Json.readIndex text

/-- Page options from their JSON text. -/
def parseOptions (text : String) : Except Json.Error PageOptions :=
  Json.readAll Json.readOptions text

end SearchPanel
