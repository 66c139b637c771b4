import ScreenSynthesis.Text.Digits
import ScreenSynthesis.Text.Split

/-!
# Files

What the program may find at a path, and why a file cannot be read. A file tree holds files under
relative paths and answers for every path what is there.
-/

namespace ScreenSynthesis.CommandLine

/-- What is found at a path. -/
inductive FileEntry where
  | missing
  /-- Some part of the path in front of its end is a file. -/
  | behindFile
  | directory
  /-- A file whose bytes are no text. -/
  | binary
  | text (content : String)
deriving DecidableEq, Repr, Inhabited

/-- Why a file cannot be read. -/
inductive ReadFault where
  | missing
  | behindFile
  | directory
  | binary
deriving DecidableEq, Repr

/-- The wording of a fault. -/
def ReadFault.message : ReadFault → String
  | .missing => "No such file or directory (os error 2)"
  | .behindFile => "Not a directory (os error 20)"
  | .directory => "Is a directory (os error 21)"
  | .binary => "stream did not contain valid UTF-8"

namespace FileEntry

/-- The content of a file. -/
def content : FileEntry → Except ReadFault String
  | .text s => .ok s
  | .missing => .error .missing
  | .behindFile => .error .behindFile
  | .directory => .error .directory
  | .binary => .error .binary

/-- Whether there is a file. -/
def isFile : FileEntry → Bool
  | .text _ | .binary => true
  | _ => false

end FileEntry

/-- What is found at each path. -/
abbrev Files := String → FileEntry

/-! ## Paths -/

/-- The parts of a path between its slashes, without those that lead nowhere. -/
def pathParts (path : String) : List String :=
  ((Text.pieces '/' path.toList).map String.ofList).filter fun part => part ≠ "" && part ≠ "."

/-- The name of the file at the end of a path. -/
def fileName? (path : String) : Option String :=
  match (pathParts path).getLast? with
  | some ".." | none => none
  | some name => some name

/-- A file name cut at its last dot, unless that is in front of it. -/
def splitExtension (name : String) : String × Option String :=
  match Text.splitLast '.' name.toList with
  | some ([], _) | none => (name, none)
  | some (stem, ext) => (String.ofList stem, some (String.ofList ext))

/-- The extension of the file at a path, in lower case. -/
def extension? (path : String) : Option String :=
  (fileName? path).bind fun name =>
    (splitExtension name).2.map fun ext => String.ofList (Text.lowerCase ext.toList)

/-- The name of the file at a path without its extension. -/
def fileStem (path : String) : String :=
  match fileName? path with
  | some name => (splitExtension name).1
  | none => ""

/-- A dot in front belongs to the name. -/
example : extension? "dir/sub.unit.JSON" = some "json" ∧ fileStem "dir/sub.unit.JSON" = "sub.unit" ∧
    extension? ".json" = none ∧ fileStem ".json" = ".json" := by decide

/-! ## File trees -/

/-- Entries under the parts of their paths. Directories need no entries of their own. -/
structure FileTree where
  entries : List (List String × FileEntry)
deriving Repr, Inhabited

namespace FileTree

/-- The tree with entries under relative paths. -/
def ofList (entries : List (String × FileEntry)) : FileTree :=
  ⟨entries.map fun (path, entry) => (pathParts path, entry)⟩

/-- What is found at the end of some parts. -/
def find (t : FileTree) (parts : List String) : FileEntry :=
  match t.entries.lookup parts with
  | some entry => entry
  | none => if t.entries.any fun (p, _) => parts.isPrefixOf p then .directory else .missing

/-- Follows parts from a directory. Only from directories can a path go on. -/
def walk (t : FileTree) (place : List String) : List String → FileEntry
  | [] => t.find place
  | part :: rest =>
    match t.find place with
    | .directory =>
      if part = ".." then
        if place.isEmpty then .missing else walk t place.dropLast rest
      else walk t (place ++ [part]) rest
    | .missing => .missing
    | _ => .behindFile

/-- What is found at a path. A path that ends in a slash leads to a directory only. -/
def files (t : FileTree) : Files := fun path =>
  if path = "" || path.startsWith "/" then .missing
  else
    let t : FileTree := ⟨([], .directory) :: t.entries⟩
    match t.walk [] (pathParts path) with
    | .text s => if path.endsWith "/" || path.endsWith "/." then .behindFile else .text s
    | .binary => if path.endsWith "/" || path.endsWith "/." then .behindFile else .binary
    | found => found

end FileTree

end ScreenSynthesis.CommandLine
