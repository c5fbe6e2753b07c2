import Haptics.Text.Cut

/-!
# File trees

A file tree says what stands at each location below its root.  Programs name places in it by
paths, which are followed name by name from the root or from the working directory; they read
whole files and overwrite files that are there, and never create or remove one.
-/

namespace Haptics

/-- What a file holds; bytes that spell a text are always held as that text. -/
inductive Contents where
  | text (value : String)
  | binary (bytes : List UInt8)
deriving DecidableEq

/-- The contents that given bytes spell. -/
def Contents.ofBytes (bytes : ByteArray) : Contents :=
  match String.fromUTF8? bytes with
  | some value => .text value
  | none => .binary bytes.toList

/-- The names on the way from the root. -/
abbrev Location := List String

/-- A location and all those above it, from the root down. -/
def Location.path (location : Location) : List Location :=
  (List.range (location.length + 1)).map fun depth => location.take depth

/-- What stands at a location. -/
inductive Entry where
  | directory
  | file (contents : Contents)
deriving DecidableEq

/-- Why a path cannot be read or written. -/
inductive FileFault where
  | notFound
  | isDirectory
  | notDirectory
  | notText
deriving DecidableEq, Repr

def FileFault.message : FileFault → String
  | .notFound => "No such file or directory (os error 2)"
  | .isDirectory => "Is a directory (os error 21)"
  | .notDirectory => "Not a directory (os error 20)"
  | .notText => "stream did not contain valid UTF-8"

/-- Entries by location, of two for one location the earlier; the root is always a directory. -/
structure FileTree where
  entries : List (Location × Entry)
  workingDirectory : Location

namespace FileTree

/-- A tree that holds nothing but the working directory. -/
def empty (workingDirectory : Location) : FileTree :=
  { entries := workingDirectory.path.map fun location => (location, .directory)
    workingDirectory := workingDirectory }

/-- What stands at a location. -/
def find? (tree : FileTree) (location : Location) : Option Entry :=
  if location = [] then some .directory else tree.entries.lookup location

/-! ## Paths -/

def isAbsolute (path : String) : Bool :=
  path.toList.head? == some '/'

/-- A path below another one; an absolute path stands for itself. -/
def join (base path : String) : String :=
  if isAbsolute path || base.isEmpty then path
  else if base.toList.getLast? = some '/' then base ++ path
  else base ++ "/" ++ path

/-- The names on a path.  A slash at its end asks for a directory, as a dot behind it would. -/
def names (path : String) : List String :=
  let between := (Text.runs (· == '/') path.toList).map String.ofList
  if path.toList.getLast? = some '/' then between ++ ["."] else between

/-- Follows names from a location at which `entry` stands. -/
def follow (tree : FileTree) (location : Location) (entry : Entry) :
    List String → Except FileFault (Location × Entry)
  | [] => .ok (location, entry)
  | name :: rest =>
    match entry with
    | .file _ => .error .notDirectory
    | .directory =>
      if name = "." then tree.follow location .directory rest
      else if name = ".." then tree.follow location.dropLast .directory rest
      else
        match tree.find? (location ++ [name]) with
        | some next => tree.follow (location ++ [name]) next rest
        | none => .error .notFound

/-- The location that a path leads to, and what stands there.  The empty path leads nowhere. -/
def resolve (tree : FileTree) (path : String) : Except FileFault (Location × Entry) :=
  if path.isEmpty then .error .notFound
  else
    tree.follow (if isAbsolute path then [] else tree.workingDirectory) .directory (names path)

/-! ## Access -/

/-- Whether a path leads to a file or a directory. -/
def contains (tree : FileTree) (path : String) : Bool :=
  match tree.resolve path with
  | .ok _ => true
  | .error _ => false

def readText (tree : FileTree) (path : String) : Except FileFault String :=
  match tree.resolve path with
  | .error fault => .error fault
  | .ok (_, .directory) => .error .isDirectory
  | .ok (_, .file (.binary _)) => .error .notText
  | .ok (_, .file (.text value)) => .ok value

def replace (tree : FileTree) (location : Location) (value : String) : FileTree :=
  { tree with
    entries := tree.entries.map fun item =>
      if item.1 = location then (location, .file (.text value)) else item }

/-- Overwrites a file that is there. -/
def overwrite (tree : FileTree) (path value : String) : Except FileFault FileTree :=
  match tree.resolve path with
  | .error fault => .error fault
  | .ok (_, .directory) => .error .isDirectory
  | .ok (location, .file _) => .ok (tree.replace location value)

/-! ## Edits from outside -/

/-- Takes away what stands at a location and below it. -/
def remove (tree : FileTree) (location : Location) : FileTree :=
  { tree with entries := tree.entries.filter fun item => !location.isPrefixOf item.1 }

/-- Makes a location and all locations above it directories. -/
def makeDirectory (tree : FileTree) (location : Location) : FileTree :=
  { tree with
    entries := (location.path.map fun above => (above, Entry.directory)) ++ tree.entries }

/-- Puts a file at a location, below directories. -/
def put (tree : FileTree) (location : Location) (contents : Contents) : FileTree :=
  let cleared := (tree.remove location).makeDirectory location.dropLast
  { cleared with entries := (location, .file contents) :: cleared.entries }

def files (tree : FileTree) : List (Location × Contents) :=
  (tree.entries.map (·.1)).eraseDups.filterMap fun location =>
    match tree.find? location with
    | some (.file contents) => some (location, contents)
    | _ => none

def contents? (tree : FileTree) (location : Location) : Option Contents :=
  match tree.find? location with
  | some (.file contents) => some contents
  | _ => none

/-- The files whose contents differ from those in an earlier tree, with their contents now;
nothing for a file that is gone. -/
def changes (before now : FileTree) : List (Location × Option Contents) :=
  let written := now.files.filterMap fun file =>
    if before.contents? file.1 = some file.2 then none else some (file.1, some file.2)
  let gone := before.files.filterMap fun file =>
    if now.contents? file.1 = none then some (file.1, none) else none
  written ++ gone

end FileTree
end Haptics
