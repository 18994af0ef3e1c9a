/-!
# Result fragments

A fragment is a result as it is displayed: markup for title and body, and the link target. Title
and body are markup already and are inserted as they are. The link target stands in a quoted
attribute, so the four characters that mean something there are escaped.
-/

namespace SearchPanel

/-- The display form of one result. -/
structure Fragment where
  titleHtml : String
  bodyHtml : String
  href : String
deriving DecidableEq, Inhabited

/-- The written form of one character inside a double-quoted attribute. -/
def escapeAttributeChar (c : Char) : List Char :=
  if c = '&' then "&amp;".toList
  else if c = '<' then "&lt;".toList
  else if c = '>' then "&gt;".toList
  else if c = '"' then "&quot;".toList
  else [c]

/-- A text as the value of a double-quoted attribute. -/
def escapeAttribute (text : List Char) : List Char := text.flatMap escapeAttributeChar

namespace Fragment

/-- The list item in front of the link target. -/
def beforeHref : String := "<li><a class=\"search-result\" href=\""

/-- The list item between the link target and the title. -/
def beforeTitle : String := "\"><div class=\"search-result__title\">"

/-- The list item between the title and the body. -/
def beforeBody : String := "</div><p class=\"search-result__body\">"

/-- The end of the list item. -/
def afterBody : String := "</p></a></li>"

/-- The list item that shows a fragment. -/
def toHtml (f : Fragment) : String :=
  beforeHref ++ String.ofList (escapeAttribute f.href.toList) ++ beforeTitle ++ f.titleHtml ++
    beforeBody ++ f.bodyHtml ++ afterBody

/-- The markup of a whole list. -/
def listHtml (fragments : List Fragment) : String := String.join (fragments.map toHtml)

end Fragment

end SearchPanel
