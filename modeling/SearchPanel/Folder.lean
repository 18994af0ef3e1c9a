import SearchPanel.StoredFile
import SearchPanel.Text.Split

/-!
# Folders

A folder holds files at paths. A path is a list of names with slashes between them; each name but
the last one has to lead to a folder. An empty name and `.` stay where they are, `..` leads to the
folder around it, and from the root to the root. Outside the folder only the way from the root to it
is known.
-/

namespace SearchPanel

/-- The files below a folder, each with the names that lead to it. -/
structure Folder where
  files : List (List String × StoredFile) := []
  /-- The folder's own path, if other paths may start with it. -/
  path : Option String := none
  /-- The names that lead from the root to what stands around the folder. -/
  around : List String := []

namespace Folder

/-- Where a path has led. -/
inductive Place
  /-- Names that lead there from the folder. -/
  | inside (names : List String)
  /-- Names that lead there from the root, on the way to the folder. -/
  | above (names : List String)
deriving DecidableEq

/-- The root of all paths. -/
def Place.root : Place := above []

/-- What stands around a place. -/
def parent (f : Folder) : Place → Place
  | .inside [] => .above f.around
  | .inside names => .inside names.dropLast
  | .above names => .above names.dropLast

/-- Where a name may lead from a place. -/
def child? (f : Folder) (name : String) : Place → Option Place
  | .inside names => some (.inside (names ++ [name]))
  | .above names =>
    if (names ++ [name]).isPrefixOf f.around then some (.above (names ++ [name])) else none

/-- The names between the slashes of a path. -/
def names (path : String) : List String := (Text.splitAt '/' path.toList).map String.ofList

/-- A path from the names between its slashes. -/
def ofNames (names : List String) : String :=
  String.ofList (Text.joinWith '/' (names.map String.toList))

/-- Names that stay where they are. -/
def staysPut (name : String) : Bool := name = "" || name = "."

/-- A folder that holds at most one file. -/
def single (path : String) (file : Option StoredFile) : Folder :=
  { files := file.toList.map fun f => ((names path).filter fun n => !staysPut n, f) }

/-- What stands at a place, if anything. -/
def at? (f : Folder) : Place → Option StoredFile
  | .above _ | .inside [] => some .directory
  | .inside ns =>
    match f.files.find? (·.1 = ns) with
    | some entry => some entry.2
    | none => if f.files.any fun entry => ns.isPrefixOf entry.1 then some .directory else none

/-- Where some names lead from a place. -/
def follow (f : Folder) (place : Place) : List String → Except ReadError Place
  | [] => .ok place
  | n :: rest =>
    match f.at? place with
    | none => .error .notFound
    | some (.bytes _) => .error .notADirectory
    | some .directory =>
      if staysPut n then f.follow place rest
      else if n = ".." then f.follow (f.parent place) rest
      else match f.child? n place with
        | none => .error .notFound
        | some next => f.follow next rest

/-- The names behind the folder's own path, if a path starts with that. -/
def below? (f : Folder) (path : String) : Option (List String) :=
  f.path.bind fun own =>
    if path = own then some []
    else if (own ++ "/").toList.isPrefixOf path.toList then
      some (names (String.ofList (path.toList.drop (own.length + 1))))
    else none

/-- Where a path leads, seen from a place. -/
def resolve (f : Folder) (start : Place) (path : String) : Except ReadError Place :=
  if path = "" then .error .notFound
  else match f.below? path with
    | some ns => f.follow (.inside []) ns
    | none => f.follow (if path.toList.head? = some '/' then .root else start) (names path)

/-- The text of the file at a path, seen from a place. -/
def readFrom (f : Folder) (start : Place) (path : String) : Except ReadError String :=
  match f.resolve start path with
  | .ok place => readText (f.at? place)
  | .error e => .error e

/-- The text of the file at a path, seen from the folder itself. -/
def read (f : Folder) (path : String) : Except ReadError String := f.readFrom (.inside []) path

/-- The path of the folder around the last name of a path, or the path itself if it has no name. -/
def parentPath (path : String) : String :=
  match names path with
  | [] => path
  | first :: rest =>
    match rest.reverse.dropWhile staysPut with
    | [] => if first = "" then path else ""
    | _ :: before =>
      match (before.dropWhile staysPut).reverse with
      | [] => if first = "" then "/" else first
      | kept => ofNames (first :: kept)

/-- The path of a name below a path. -/
def join (path name : String) : String :=
  if path = "" then name else if path.toList.getLast? = some '/' then path ++ name
  else path ++ "/" ++ name

end Folder

end SearchPanel
