import BlockScript.Text.Blank

/-!
# Lines

A line of a text ends at a line feed, and one carriage return directly before that line feed belongs
to the line's end. Text after the last line feed is a line of its own, which keeps a carriage return
at its end; when there is no such text there is no such line, so the empty text has no lines.

A script is laid out in lines, and the indentation of a line says how deep it lies: its leading
spaces are its depth times the indent width. `Line.write` lays a line out and `Line.scanAll` reads
the lines of a text back, with their numbers, leaving out those with nothing but blanks in them.

The width of written scripts is limited (`IndentWidth`); a script may be read at any width.
-/

set_option autoImplicit false

namespace BlockScript

/-! ## Lines of a text -/

namespace Text

/-- A line without the carriage return before its line feed. -/
def dropReturn (line : List Char) : List Char :=
  if line.getLast? = some '\r' then line.dropLast else line

/-- The lines among the pieces between line feeds: the last piece had no line feed after it. -/
def linesOfPieces : List (List Char) → List (List Char)
  | [] => []
  | [last] => if last.isEmpty then [] else [last]
  | piece :: next :: rest => dropReturn piece :: linesOfPieces (next :: rest)

/-- The lines of a text, without their ends. -/
def lines (cs : List Char) : List (List Char) := linesOfPieces (cs.splitOnP (· == '\n'))

end Text

namespace Script

/-! ## Widths -/

/-- The widest level of nesting that is written. -/
def IndentWidth.widest : Nat := 16

/-- The number of spaces that a written script uses for one level of nesting. -/
structure IndentWidth where
  /-- The number of spaces. -/
  spaces : Nat
  /-- A level is visible. -/
  one_le : 1 ≤ spaces
  /-- A level is not too wide. -/
  le_widest : spaces ≤ IndentWidth.widest
  deriving DecidableEq

namespace IndentWidth

/-- The permitted width nearest to a number. -/
def clamp (spaces : Nat) : IndentWidth :=
  ⟨max 1 (min spaces widest), by omega, by simp only [widest]; omega⟩

/-- The permitted width of a number of spaces, if it is one. -/
def ofNat? (spaces : Nat) : Option IndentWidth :=
  if h : 1 ≤ spaces ∧ spaces ≤ widest then some ⟨spaces, h.1, h.2⟩ else none

/-- A permitted width is the nearest one to itself. -/
theorem clamp_spaces (width : IndentWidth) : clamp width.spaces = width := by
  obtain ⟨spaces, low, high⟩ := width
  simp only [clamp, IndentWidth.mk.injEq]
  omega

/-- A number is the number of spaces of a permitted width when that width is made of it. -/
theorem ofNat?_eq_some_iff {spaces : Nat} {width : IndentWidth} :
    ofNat? spaces = some width ↔ spaces = width.spaces := by
  obtain ⟨own, low, high⟩ := width
  simp only [ofNat?]
  split
  · simp
  · next refused =>
    simp only [reduceCtorEq, false_iff]
    exact fun same => refused ⟨same ▸ low, same ▸ high⟩

/-- The width of scripts where nothing else is asked for: two spaces. -/
def standard : IndentWidth := ⟨2, by decide, by decide⟩

end IndentWidth

/-! ## Lines of a script -/

/-- A line of a script: how deep it lies and what it says. -/
structure Line where
  /-- The number of levels around the line. -/
  depth : Nat
  /-- What the line says, without indentation. -/
  text : List Char
  deriving DecidableEq

/-- A line laid out, with its end. -/
def Line.write (width : Nat) (line : Line) : List Char :=
  List.replicate (line.depth * width) ' ' ++ line.text ++ ['\n']

/-- A line of a text, with its place there. -/
structure NumberedLine extends Line where
  /-- The place of the line in the text, from one on; blank lines count. -/
  number : Nat
  deriving DecidableEq

/-! ## Reading lines -/

/-- The ways in which the indentation of a line is no multiple of the width. -/
inductive IndentError where
  /-- A blank that is no space stands before the text of the line. -/
  | notSpaces
  /-- The spaces do not make up whole levels. -/
  | notMultiple (spaces width : Nat)
  deriving DecidableEq, Repr

/-- The wording of a refusal. -/
def IndentError.message : IndentError → String
  | notSpaces => "indentation must use spaces only"
  | notMultiple spaces width => s!"indentation of {spaces} spaces is not a multiple of {width}"

/-- Reads one line that does not consist of blanks alone. -/
def Line.scan (width : Nat) (raw : List Char) : Except IndentError Line :=
  let spaces := (raw.takeWhile (· == ' ')).length
  let content := raw.dropWhile (· == ' ')
  if content.head?.any Text.isBlank then .error .notSpaces
  else if spaces % width ≠ 0 then .error (.notMultiple spaces width)
  else .ok ⟨spaces / width, Text.trimEnd content⟩

/-- Reads lines of which the first has the given number; an error comes with its line's number. -/
def Line.scanFrom (width : Nat) :
    Nat → List (List Char) → Except (Nat × IndentError) (List NumberedLine)
  | _, [] => .ok []
  | number, raw :: rest =>
    if Text.isAllBlank raw then scanFrom width (number + 1) rest
    else
      match Line.scan width raw with
      | .error fault => .error (number, fault)
      | .ok line => (scanFrom width (number + 1) rest).map (⟨line, number⟩ :: ·)

/-- Reads the lines of a text that do not consist of blanks alone. -/
def Line.scanAll (width : Nat) (source : List Char) :
    Except (Nat × IndentError) (List NumberedLine) :=
  Line.scanFrom width 1 (Text.lines source)

end Script

end BlockScript
