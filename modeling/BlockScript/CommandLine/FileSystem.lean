/-!
# Files

A run reads and writes files in a world that is not its own: of that world it knows what comes of
reading a text at a path and of writing one (`FileSystem`). A path may lead to a file, or to
something else: a directory, a device, nothing at all.

`LawfulFileSystem` says how files behave. What is read at a path that leads to a file is what the
file holds; a text that is written there is what the file holds from then on; and no other file
changes. A write that fails has no state after it, so it has no effect.

Main statements: what is written at a path that leads to a file is read there (`read_write`), and
what is read at a path that leads to another file is what was read before (`read_write_of_ne`).
-/

set_option autoImplicit false

namespace BlockScript.CommandLine

/-! ## Refusals -/

/-- Some reasons for which a file cannot be read or written. -/
inductive FileError where
  /-- Nothing has the name. -/
  | notFound
  /-- A step leads on from something that is no directory. -/
  | notDirectory
  /-- The path names a directory. -/
  | isDirectory
  /-- A step of the path, or all of it, is too long. -/
  | nameTooLong
  deriving DecidableEq, Repr

namespace FileError

/-- Every reason. -/
def all : List FileError := [notFound, notDirectory, isDirectory, nameTooLong]

/-- The number by which operating systems know a reason. -/
def number : FileError → Nat
  | notFound => 2
  | notDirectory => 20
  | isDirectory => 21
  | nameTooLong => 36

/-- What a reason says. -/
def text : FileError → String
  | notFound => "No such file or directory"
  | notDirectory => "Not a directory"
  | isDirectory => "Is a directory"
  | nameTooLong => "File name too long"

/-- The wording of a reason. -/
def message (error : FileError) : String :=
  error.text ++ " (os error " ++ error.number.repr ++ ")"

/-- The reason with a number. -/
def ofNumber? (number : Nat) : Option FileError := all.find? (·.number == number)

/-- A reason is the one with its own number, so no two reasons share one. -/
theorem ofNumber?_number (error : FileError) : ofNumber? error.number = some error := by
  cases error <;> decide

end FileError

/-! ## Reading and writing -/

/-- A state of the world, in which texts are read and written at paths. -/
class FileSystem (State : Type) where
  /-- The text at a path, or the wording of the reason for which none is read. -/
  read : State → String → Except String String
  /-- The state after a text has been written at a path, or the wording of the reason for which
  none is written. -/
  write : State → String → String → Except String State
  /-- What can hold a text. -/
  File : Type
  /-- The file to which a path leads, whether it is there yet or not. A path leads to none if it is
  one of a directory or of a device, or if what is there cannot be read. -/
  file? : State → String → Option File
  /-- The text that a file holds, if it is there and holds one. -/
  content? : State → File → Option String

/-- Files hold what was written to them last. -/
class LawfulFileSystem (State : Type) [FileSystem State] : Prop where
  /-- What is read at a path that leads to a file is what the file holds. -/
  read_eq_ok_iff {state : State} {path : String} {file : FileSystem.File State}
    (leads : FileSystem.file? state path = some file) {text : String} :
    FileSystem.read state path = .ok text ↔ FileSystem.content? state file = some text
  /-- After a write every path leads where it led. -/
  file?_write {before after : State} {path text : String}
    (writes : FileSystem.write before path text = .ok after) (other : String) :
    FileSystem.file? after other = FileSystem.file? before other
  /-- The file that is written holds the text. -/
  content?_write {before after : State} {path text : String}
    (writes : FileSystem.write before path text = .ok after) {file : FileSystem.File State}
    (leads : FileSystem.file? before path = some file) :
    FileSystem.content? after file = some text
  /-- Every other file holds what it held. -/
  content?_write_of_ne {before after : State} {path text : String}
    (writes : FileSystem.write before path text = .ok after) {other : FileSystem.File State}
    (elsewhere : FileSystem.file? before path ≠ some other) :
    FileSystem.content? after other = FileSystem.content? before other

namespace FileSystem

variable {State : Type} [FileSystem State] [LawfulFileSystem State]

/-- **What is written to a file is read there.** -/
theorem read_write {before after : State} {path text : String} {file : File State}
    (writes : write before path text = .ok after) (leads : file? before path = some file) :
    read after path = .ok text := by
  have still : file? after path = some file := by
    rw [LawfulFileSystem.file?_write writes, leads]
  exact (LawfulFileSystem.read_eq_ok_iff still).mpr (LawfulFileSystem.content?_write writes leads)

/-- **What is read in another file is what was read before.** -/
theorem read_write_of_ne {before after : State} {path text other : String} {file : File State}
    (writes : write before path text = .ok after) (leads : file? before other = some file)
    (elsewhere : file? before path ≠ some file) {content : String} :
    read after other = .ok content ↔ read before other = .ok content := by
  have still : file? after other = some file := by
    rw [LawfulFileSystem.file?_write writes, leads]
  rw [LawfulFileSystem.read_eq_ok_iff still, LawfulFileSystem.read_eq_ok_iff leads,
    LawfulFileSystem.content?_write_of_ne writes elsewhere]

end FileSystem

end BlockScript.CommandLine
