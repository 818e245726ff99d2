import BlockScript.CommandLine.FileSystem
import BlockScript.Table

/-!
# A directory to run in

A file system that is small enough to compute with: a working directory that holds files only. A
path is a sequence of steps, each from one place to another; it starts at the root if its first
character is a slash, and at the working directory otherwise. Of everything outside the working
directory only the directories around it, the standard directories and the null device are known,
and nothing that is written there is kept.

It stands for no machine. What is said of runs is said of every file system; this one is for running
the program on given files.
-/

set_option autoImplicit false

namespace BlockScript.CommandLine

/-! ## Places -/

/-- A directory that holds files only. -/
structure Directory where
  /-- The files by their names. -/
  files : Table String
  deriving DecidableEq

/-- Something that a path can name. -/
inductive Place where
  /-- The working directory. -/
  | here
  /-- A file of the working directory, with its content. -/
  | file (content : String)
  /-- A directory in which the working directory lies. -/
  | above
  /-- The root of all directories. -/
  | root
  /-- A standard directory, which lies in the root. -/
  | standard (name : String)
  /-- The null device, which has no content and takes whatever is written to it. -/
  | null
  deriving DecidableEq, Repr

namespace Place

/-- Holds of the places from which steps lead on. -/
def isDirectory : Place → Bool
  | here | above | root | standard _ => true
  | file _ | null => false

/-- The directory in which a directory lies; the root lies in itself. -/
def parent : Place → Place
  | here | above => above
  | root | standard _ => root
  | file content => file content
  | null => null

end Place

/-- The names of the standard directories. -/
def standardDirectories : List String :=
  ["bin", "boot", "dev", "etc", "home", "lib", "media", "mnt", "opt", "proc", "root", "run", "sbin",
    "srv", "sys", "tmp", "usr", "var"]

/-! ## Steps -/

/-- The most bytes that a name has. -/
def longestName : Nat := 255

/-- The most bytes that a path has. -/
def longestPath : Nat := 4095

/-- Holds of the steps that lead nowhere: the empty one, between two slashes, and the dot. -/
def isStay (step : String) : Bool := step == "" || step == "."

/-- What has a name in a place, as far as it is known. -/
def Directory.child? (directory : Directory) (place : Place) (name : String) : Option Place :=
  match place with
  | .here => (directory.files.entries.lookup name).map .file
  | .root => if standardDirectories.contains name then some (.standard name) else none
  | .standard parent => if parent = "dev" ∧ name = "null" then some .null else none
  | .above | .file _ | .null => none

/-- Takes one step. -/
def Directory.enter (directory : Directory) (place : Place) (step : String) :
    Except FileError Place :=
  if ! place.isDirectory then .error .notDirectory
  else if isStay step then .ok place
  else if step = ".." then .ok place.parent
  else if longestName < step.utf8ByteSize then .error .nameTooLong
  else match directory.child? place step with
    | some child => .ok child
    | none => .error .notFound

/-- Takes steps one after the other. -/
def Directory.follow (directory : Directory) (start : Place) (steps : List String) :
    Except FileError Place :=
  steps.foldlM directory.enter start

/-- A path, taken apart at its slashes. -/
structure Route where
  /-- Where the path starts. -/
  start : Place
  /-- The steps, of which the last one is empty if the path ends with a slash. -/
  steps : List String
  deriving DecidableEq, Repr

/-- Takes a path apart. -/
def Route.of (path : String) : Except FileError Route :=
  if longestPath < path.utf8ByteSize then .error .nameTooLong
  else .ok
    { start := if path.toList.head? = some '/' then .root else .here
      steps := (path.toList.splitOnP (· == '/')).map String.ofList }

/-- The last step of a route that ends with a name, perhaps before slashes, and the steps before
it; none if the path has slashes only. -/
def Route.ending? (route : Route) : Option (List String × String) :=
  match route.steps.reverse.dropWhile (· == "") with
  | [] => none
  | last :: before => some (before.reverse, last)

/-! ## Files -/

namespace Directory

/-- The text that is read at a path. -/
def readAt (directory : Directory) (path : String) : Except FileError String := do
  let route ← Route.of path
  match ← directory.follow route.start route.steps with
  | .file content => .ok content
  | .null => .ok ""
  | .here | .above | .root | .standard _ => .error .isDirectory

/-- The place to which a path leads and the name with which it ends there. A path that ends with a
slash or with a step that is no name is one of a directory, whether there is one or not. -/
def target (directory : Directory) (path : String) : Except FileError (Place × String) := do
  let route ← Route.of path
  match route.ending? with
  | none => .error .isDirectory
  | some (before, last) =>
    let place ← directory.follow route.start before
    if ! place.isDirectory then .error .notDirectory
    else if isStay last || last == ".." || route.steps.getLast? == some "" then
      .error .isDirectory
    else if longestName < last.utf8ByteSize then .error .nameTooLong
    else .ok (place, last)

/-- The directory after a text has been written at a path. Only what is written in the working
directory is kept. -/
def writeAt (directory : Directory) (path text : String) : Except FileError Directory := do
  let (place, name) ← directory.target path
  if place = .here then .ok ⟨directory.files.put name text⟩
  else if (directory.child? place name).any Place.isDirectory then .error .isDirectory
  else .ok directory

/-- The name of a file in the working directory to which a path leads. -/
def fileName? (directory : Directory) (path : String) : Option String :=
  match directory.target path with
  | .ok (.here, name) => some name
  | _ => none

/-- A directory as a file system: its files are known by their names. -/
instance : FileSystem Directory where
  read directory path := (directory.readAt path).mapError FileError.message
  write directory path text := (directory.writeAt path text).mapError FileError.message
  File := String
  file? := fileName?
  content? directory name := directory.files.entries.lookup name

end Directory

end BlockScript.CommandLine
