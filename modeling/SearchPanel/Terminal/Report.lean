import SearchPanel.Fragment
import SearchPanel.Stats
import SearchPanel.Terminal.Markup
import SearchPanel.Terminal.Width

/-!
# Terminal reports

The results of a search, the summary of an index and the hint about a short query, as lines of
text. Results and summary stand in a box of `boxWidth` columns between its borders. The borders are
always gray; all other colors depend on the display.
-/

namespace SearchPanel.Terminal

/-- The columns between the borders of a box. -/
def boxWidth : Nat := 80

/-- The columns of a line of body text. -/
def bodyWidth : Nat := boxWidth - 5

/-- Spaces that fill what `text` leaves of `width` columns. -/
def padding (width : Nat) (text : List Char) : List Char :=
  List.replicate (width - visibleLength text) ' '

/-- A number at the right end of ten columns. -/
def column (n : Nat) : List Char :=
  let digits := (toString n).toList
  padding 10 digits ++ digits

/-- The positions of a list, as `[0, 3]`. -/
def positions (ks : List Nat) : List Char :=
  '[' :: (", ".intercalate (ks.map toString)).toList ++ [']']

namespace Display

/-- The color of borders. -/
def border (d : Display) : List Char := Color.code d.theme .gray

/-- A line of a box. -/
def row (d : Display) (content : List Char) : List Char :=
  d.border ++ '│' :: reset ++ content ++ padding boxWidth content ++ d.border ++ '│' :: reset

/-- The upper border of a box, with a label. -/
def boxTop (d : Display) (label : List Char) : List Char :=
  let part := "─ ".toList ++ d.paint .cyan bold label ++ [' ']
  d.border ++ '┌' :: reset ++ part ++ d.border ++
    List.replicate (boxWidth - visibleLength part) '─' ++ '┐' :: reset

/-- The lower border of a box. -/
def boxBottom (d : Display) : List Char :=
  d.border ++ '└' :: List.replicate boxWidth '─' ++ '┘' :: reset

/-- The lines of the result with the number `n`. -/
def resultRows (d : Display) (n : Nat) (f : Fragment) : List (List Char) :=
  let title := showMarkup f.titleHtml.toList d.highlight
  let body := showMarkup f.bodyHtml.toList d.highlight
  let indent := "    ".toList
  d.row (' ' :: (toString n).toList ++ ". ".toList ++ d.paint .blue bold title) ::
    (wrap body bodyWidth).map (fun line => d.row (indent ++ line)) ++
    [d.row (indent ++ d.paint .gray underline f.href.toList)]

/-- The lines of results numbered from `n`, with an empty line between two of them. -/
def resultsRows (d : Display) (n : Nat) : List Fragment → List (List Char)
  | [] => []
  | [f] => d.resultRows n f
  | f :: rest => d.resultRows n f ++ d.row [] :: resultsRows d (n + 1) rest

/-- The box that shows the results of `query`. -/
def results (d : Display) (query : String) (fragments : List Fragment) : List (List Char) :=
  let label := toString fragments.length ++ " result(s) for \"" ++ query ++ "\""
  d.boxTop label.toList :: d.resultsRows 1 fragments ++ [d.boxBottom]

/-- The line that names the documents without something, if there are any. -/
def missingRow (d : Display) (label : String) (ks : List Nat) : List (List Char) :=
  if ks.isEmpty then []
  else [d.row (' ' :: d.paint .red bold label.toList ++ ' ' :: positions ks)]

/-- The box that sums up the index at `path`. -/
def summary (d : Display) (path : String) (s : Stats) : List (List Char) :=
  let count (label : String) (n : Nat) := d.row (label.toList ++ column n)
  [d.boxTop ("INDEX " ++ path).toList,
    count " documents          " s.documents,
    count " title chars        " s.titleChars,
    count " description chars  " s.descriptionChars,
    count " content chars      " s.contentChars,
    count " longest content    " s.longestContent] ++
  (if s.isClean then
    [d.row (' ' :: d.paint .green [] "all documents have a title and permalink".toList)]
  else
    d.missingRow "missing title:" s.missingTitle ++
      d.missingRow "missing permalink:" s.missingPermalink) ++
  [d.boxBottom]

/-- The hint about a query with fewer than `minChars` characters. -/
def shortQuery (d : Display) (query : String) (minChars : Nat) : List Char :=
  let text := "\"" ++ query ++ "\" is shorter than " ++ toString minChars ++
    " characters; the sidebar would show nothing"
  d.paint .gray [] text.toList

end Display

end SearchPanel.Terminal
