import Issuance.Error
import Issuance.Template.Source
import Issuance.Text.Split

/-! # Files

    What the program needs to know of files: whether a path leads anywhere, what can be read there,
    and whether a text can be written there. A folder of texts held in memory answers these
    questions like a disk that holds little else: folders on the way to a text are there, `.` and
    `..` are followed, and `..` leads out of the folder too, to where nothing is known and nothing
    written is kept. -/

namespace Issuance.Cli

/-- What the program can find out about files. -/
structure FileSystem where
  holds : String → Bool
  read : String → Except IoFailure String
  write : String → Except IoFailure Unit

namespace FileSystem

/-- Whether a failure to read shows that there is nothing at a path. -/
def showsAbsence : IoFailure → Bool
  | .notFound | .notDirectory | .nameTooLong => true
  | _ => false

/-- What is known of files from what came of reading some of them. Whether a text can be written
    turns out when it is. -/
def ofReadings (readings : List (String × Except IoFailure String)) : FileSystem where
  holds path :=
    match readings.lookup path with
    | some (.ok _) => true
    | some (.error failure) => !showsAbsence failure
    | none => false
  read path := (readings.lookup path).getD (.error .notFound)
  write _ := .ok ()

end FileSystem

/-! ### Paths -/

/-- The names on a path, without empty ones and those that stay where they are. -/
def stepsOf (path : List Char) : List (List Char) :=
  (Text.splitOn '/' path).filter fun s => s ≠ [] && s ≠ ['.']

/-- The extension of the file that a path names: what stands behind the last dot of its name, if
    something stands before that dot. -/
def extension? (path : String) : Option (List Char) :=
  match (stepsOf path.toList).getLast? with
  | none => none
  | some name =>
    if name = ['.', '.'] then none
    else
      match Text.cut '.' name.reverse with
      | some (back, front) => if front = [] then none else some back.reverse
      | none => none

/-- The format of a template file, by the extension of its name in letters of any case. -/
def formatOf (path : String) : SourceFormat :=
  match (extension? path).map fun e => e.map Char.toLower with
  | some e =>
    if e = "json".toList then .wpm else if e = "wpt".toList then .wpt else .wpml
  | none => .wpml

/-! ### Folders in memory -/

/-- Texts by the names on their paths. -/
abbrev Folder := List (List (List Char) × String)

namespace Folder

/-- The text under some names. -/
def text? (f : Folder) (steps : List (List Char)) : Option String :=
  (f.find? fun e => e.1 == steps).map Prod.snd

/-- Whether some names lead to a folder on the way to a text; no names lead to the folder itself. -/
def isFolder (f : Folder) (steps : List (List Char)) : Bool :=
  steps.isEmpty || f.any fun e => steps.isPrefixOf e.1 && e.1 != steps

/-- Where one can stand: in the folder below some names, above the folder, or below some names that
    are counted from the root. -/
inductive Standpoint where
  | within (steps : List (List Char))
  | above
  | rooted (steps : List (List Char))

/-- What is under a name: a folder to stand in, a text, something empty that keeps nothing, or
    nothing. A free name in the folder comes with the names that lead to it. -/
inductive Place where
  | folder (here : Standpoint)
  | text (steps : List (List Char)) (content : String)
  | drain
  | free (steps : Option (List (List Char)))

/-- The folders that every root has. -/
def rootFolders : List (List Char) :=
  ["bin".toList, "dev".toList, "etc".toList, "home".toList, "proc".toList, "root".toList,
   "sys".toList, "tmp".toList, "usr".toList, "var".toList]

/-- What is one step up. -/
def Standpoint.up : Standpoint → Standpoint
  | .within steps => if steps.isEmpty then .above else .within steps.dropLast
  | .above => .above
  | .rooted steps => .rooted steps.dropLast

/-- What is under a name. -/
def under (f : Folder) (here : Standpoint) (name : List Char) : Place :=
  match here with
  | .within steps =>
    let there := steps ++ [name]
    if f.isFolder there then .folder (.within there)
    else
      match f.text? there with
      | some content => .text there content
      | none => .free (some there)
  | .above => .free none
  | .rooted steps =>
    if steps = [] ∧ name ∈ rootFolders then .folder (.rooted [name])
    else if steps = ["dev".toList] ∧ name = "null".toList then .drain
    else .free none

/-- How many bytes a name can have. -/
def nameLimit : Nat := 255

/-- How many bytes a path can have. -/
def pathLimit : Nat := 4095

/-- Follows names from a standpoint. All but the last must lead to folders. -/
def follow (f : Folder) (here : Standpoint) : List (List Char) → Except IoFailure Place
  | [] => .ok (.folder here)
  | name :: rest =>
    if name = ['.', '.'] then follow f here.up rest
    else if nameLimit < (String.ofList name).utf8ByteSize then .error .nameTooLong
    else
      match f.under here name with
      | .folder there => follow f there rest
      | place =>
        if rest = [] then .ok place
        else
          match place with
          | .free _ => .error .notFound
          | _ => .error .notDirectory

/-- Whether a path can only lead to a folder. -/
def wantsFolder (path : List Char) : Bool :=
  match (Text.splitOn '/' path).getLast? with
  | some last => last == [] || last == ['.'] || last == ['.', '.']
  | none => false

/-- Whether a path gives a name for a folder: it ends in a slash behind something other than `.` and
    `..`. -/
def namesFolder (path : List Char) : Bool :=
  path.getLast? == some '/' &&
    match ((Text.splitOn '/' path).filter (· ≠ [])).getLast? with
    | some last => last ≠ ['.'] && last ≠ ['.', '.']
    | none => false

/-- Where some of a path's names lead, if the path can be followed at all. -/
def followFrom (f : Folder) (path : String) (steps : List (List Char)) :
    Except IoFailure Place :=
  if path.isEmpty then .error .notFound
  else if pathLimit < path.utf8ByteSize then .error .nameTooLong
  else f.follow (if path.toList.head? = some '/' then .rooted [] else .within []) steps

/-- Refuses what is no folder if a path can only lead to one. -/
def expectFolder (path : String) (place : Place) : Except IoFailure Place :=
  match place with
  | .folder here => .ok (.folder here)
  | .free steps => if wantsFolder path.toList then .error .notFound else .ok (.free steps)
  | place => if wantsFolder path.toList then .error .notDirectory else .ok place

/-- Where a path leads. -/
def locate (f : Folder) (path : String) : Except IoFailure Place :=
  f.followFrom path (stepsOf path.toList) >>= expectFolder path

/-- Whether a path leads anywhere. -/
def holds (f : Folder) (path : String) : Bool :=
  match f.locate path with
  | .ok (.free _) | .error _ => false
  | .ok _ => true

/-- The text that a path leads to. -/
def read (f : Folder) (path : String) : Except IoFailure String :=
  match f.locate path with
  | .ok (.text _ content) => .ok content
  | .ok .drain => .ok ""
  | .ok (.folder _) => .error .isDirectory
  | .ok (.free _) => .error .notFound
  | .error failure => .error failure

/-- The names under which a text written to a path is kept, if it is kept. Nothing is written to a
    name for a folder, whether or not there is one. -/
def target (f : Folder) (path : String) : Except IoFailure (Option (List (List Char))) :=
  if namesFolder path.toList then
    match f.followFrom path ((stepsOf path.toList).dropLast) with
    | .ok (.folder _) => .error .isDirectory
    | .ok (.free _) => .error .notFound
    | .ok _ => .error .notDirectory
    | .error failure => .error failure
  else
    match f.locate path with
    | .ok (.text steps _) => .ok (some steps)
    | .ok (.free steps) => .ok steps
    | .ok .drain => .ok none
    | .ok (.folder _) => .error .isDirectory
    | .error failure => .error failure

/-- The folder as the program sees it. -/
def fileSystem (f : Folder) : FileSystem where
  holds := f.holds
  read := f.read
  write path := (f.target path).map fun _ => ()

/-- The folder with a text written to a path, if that can be done. -/
def write (f : Folder) (path text : String) : Folder :=
  match f.target path with
  | .error _ | .ok none => f
  | .ok (some steps) =>
    if (f.text? steps).isSome then f.map fun e => if e.1 == steps then (steps, text) else e
    else f ++ [(steps, text)]

/-- The folder that holds texts under paths. -/
def ofFiles (files : List (String × String)) : Folder :=
  files.map fun e => (stepsOf e.1.toList, e.2)

/-- The texts of a folder that are not, or not so, in another, by their paths. -/
def changedFrom (f before : Folder) : List (String × String) :=
  (f.filter fun e => before.text? e.1 != some e.2).map fun e =>
    (String.ofList (Text.join ['/'] e.1), e.2)

end Folder
end Issuance.Cli
