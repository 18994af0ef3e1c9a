import SearchPanel.Document
import SearchPanel.Text.Blank

/-!
# Index statistics

Sizes of an index in characters, and the positions of entries that a reader could not use: those
with a blank title, and those with a blank link.
-/

namespace SearchPanel

/-- What is reported about an index. -/
structure Stats where
  documents : Nat
  titleChars : Nat
  descriptionChars : Nat
  contentChars : Nat
  longestContent : Nat
  /-- Positions of the documents with a blank title. -/
  missingTitle : List Nat
  /-- Positions of the documents with a blank link. -/
  missingPermalink : List Nat
deriving DecidableEq, Repr

/-- The positions of the documents whose text is blank, counted from `k`. -/
def blankPositions (text : Document → String) (k : Nat) : List Document → List Nat
  | [] => []
  | d :: rest =>
    if Text.isBlankText (text d) then k :: blankPositions text (k + 1) rest
    else blankPositions text (k + 1) rest

/-- How many characters the documents have in one of their texts. -/
def charCount (text : Document → String) (docs : List Document) : Nat :=
  docs.foldr (fun d n => (text d).length + n) 0

namespace Stats

/-- The statistics of an index. -/
def ofDocuments (docs : List Document) : Stats :=
  { documents := docs.length
    titleChars := charCount (·.title) docs
    descriptionChars := charCount (·.description) docs
    contentChars := charCount (·.content) docs
    longestContent := (docs.map (·.content.length)).foldl max 0
    missingTitle := blankPositions (·.title) 0 docs
    missingPermalink := blankPositions (·.permalink) 0 docs }

/-- Every document has a title and a link. -/
def isClean (s : Stats) : Bool := s.missingTitle.isEmpty && s.missingPermalink.isEmpty

end Stats

end SearchPanel
