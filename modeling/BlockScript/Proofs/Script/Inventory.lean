import BlockScript.Proofs.Script.RoundTrip

/-!
# The lines of a script and what they are for

Every line of a script is there for an action, for a statement or for a second branch, and each of
these has one line (`Program.lines_accounted`). In a written script the lines stand in the order of
what they are for, indented by the conditionals around them, and between two actions there is one
empty line. In a script that is read, whatever its layout, there are as many visible lines as there
are actions, statements and second branches in the program.

The inventory of a program (`Action.entries`) lists all that has a line, each with the number of
conditionals around it. The writer goes down a statement with a depth in hand, and the inventory is
put together from below; they come to the same (`Statement.linesAll_eq_map`). For the reader it is
the grammar that tells which lines there are (`Spells.length_eq`).
-/

set_option autoImplicit false

namespace BlockScript.Script

/-! ## Sizes -/

mutual
/-- The number of conditionals with a second branch in a statement, itself included. -/
def Statement.alternatives : Statement → Nat
  | .publish .. => 0
  | .conditional _ thenBranch elseBranch =>
    (if elseBranch.isEmpty then 0 else 1) + Statement.alternativesAll thenBranch +
      Statement.alternativesAll elseBranch

/-- The number of conditionals with a second branch in a list of statements, nested ones
included. -/
def Statement.alternativesAll : List Statement → Nat
  | [] => 0
  | statement :: rest => statement.alternatives + Statement.alternativesAll rest
end

/-- The number of conditionals with a second branch in a program. -/
def Program.alternatives (program : Program) : Nat :=
  program.actions.foldr (fun action count => Statement.alternativesAll action.body + count) 0

/-- The number of lines for which there is something in a program: its actions, its statements and
the second branches. -/
def Program.size (program : Program) : Nat :=
  program.actions.length + program.statementCount + program.alternatives

/-- The number of visible lines of a text. -/
def visibleCount (source : String) : Nat :=
  (Text.lines source.toList).countP fun raw => !Text.isAllBlank raw

/-- The number of blank lines of a text. -/
def blankCount (source : String) : Nat :=
  (Text.lines source.toList).countP Text.isAllBlank

/-! ## The inventory -/

/-- What a line of a script is for. -/
inductive Entry where
  | ofAction (action : Action)
  | ofStatement (statement : Statement)
  /-- A second branch. -/
  | alternative

/-- What the line for an entry says. -/
def Entry.text : Entry → List Char
  | ofAction action => action.header
  | ofStatement (.publish topic payload) => publishLine topic payload
  | ofStatement (.conditional condition _ _) => ifLine condition
  | alternative => Keyword.ELSE.chars

/-- Entries inside a further conditional. -/
def inside (entries : List (Nat × Entry)) : List (Nat × Entry) :=
  entries.map fun entry => (entry.1 + 1, entry.2)

mutual
/-- The entries of a statement, each with the number of conditionals around it. -/
def Statement.entries : Statement → List (Nat × Entry)
  | .publish topic payload => [(0, .ofStatement (.publish topic payload))]
  | .conditional condition thenBranch elseBranch =>
    (0, .ofStatement (.conditional condition thenBranch elseBranch)) ::
      inside (Statement.entriesAll thenBranch) ++
        if elseBranch.isEmpty then []
        else (0, .alternative) :: inside (Statement.entriesAll elseBranch)

/-- The entries of a list of statements, each with the number of conditionals around it. -/
def Statement.entriesAll : List Statement → List (Nat × Entry)
  | [] => []
  | statement :: rest => statement.entries ++ Statement.entriesAll rest
end

/-- The entries of an action, each with the number of conditionals around it. -/
def Action.entries (action : Action) : List (Nat × Entry) :=
  (0, .ofAction action) :: Statement.entriesAll action.body

/-- A line of a text is that of an entry: before what it says it has exactly the spaces for the
conditionals around it. -/
def StandsFor (width : Nat) (raw : List Char) (entry : Nat × Entry) : Prop :=
  raw.takeWhile (· == ' ') = List.replicate (entry.1 * width) ' ' ∧
    raw.dropWhile (· == ' ') = entry.2.text

theorem Entry.solid_text (entry : Entry) : Text.Solid entry.text := by
  cases entry with
  | ofAction action => exact solid_header action
  | ofStatement statement =>
      cases statement with
      | conditional condition thenBranch elseBranch => exact solid_ifLine condition
      | publish topic payload => exact solid_publishLine topic payload
  | alternative => exact solid_else

/-- The line for an entry, below a depth. -/
def lineAt (depth : Nat) (entry : Nat × Entry) : Line := ⟨depth + entry.1, entry.2.text⟩

theorem map_lineAt_inside (depth : Nat) (entries : List (Nat × Entry)) :
    (inside entries).map (lineAt depth) = entries.map (lineAt (depth + 1)) := by
  rw [inside, List.map_map]
  refine List.map_congr_left fun entry _ => ?_
  rw [Function.comp_apply, lineAt, lineAt, Nat.add_right_comm, Nat.add_assoc]

/-- **The writer writes the lines of the inventory.** -/
theorem Statement.linesAll_eq_map : (depth : Nat) → (statements : List Statement) →
    Statement.linesAll depth statements =
      (Statement.entriesAll statements).map (lineAt depth)
  | _, [] => rfl
  | depth, .publish topic payload :: rest => by
      rw [linesAll, linesAll_eq_map depth rest, entriesAll, List.map_append]
      rfl
  | depth, .conditional condition thenBranch elseBranch :: rest => by
      -- One more level below the depth, or one more conditional around: the same line.
      have yes := linesAll_eq_map (depth + 1) thenBranch
      have no := linesAll_eq_map (depth + 1) elseBranch
      rw [linesAll, lines, linesAll_eq_map depth rest, yes, no, entriesAll, entries,
        List.map_append, List.map_append, List.map_cons, map_lineAt_inside]
      cases elseBranch with
      | nil => rfl
      | cons statement statements =>
          simp only [List.isEmpty_cons, Bool.false_eq_true, ↓reduceIte, List.map_cons,
            map_lineAt_inside]
          rfl

theorem Action.lines_eq_map (action : Action) : action.lines = action.entries.map (lineAt 0) := by
  rw [lines, Statement.linesAll_eq_map, entries, List.map_cons]
  rfl

/-- A line that was laid out stands for its entry. -/
theorem standsFor_raw (width : Nat) (entry : Nat × Entry) :
    StandsFor width ((lineAt 0 entry).raw width) entry := by
  have spaces := span_spaces_append entry.2.solid_text.first (entry.1 * width)
  rwa [StandsFor, Line.raw, lineAt, Nat.zero_add]

/-! ## The number of lines -/

/-- There are as many entries as statements and second branches. -/
theorem Statement.length_entriesAll : (statements : List Statement) →
    (Statement.entriesAll statements).length =
      Statement.countAll statements + Statement.alternativesAll statements
  | [] => rfl
  | .publish topic payload :: rest => by
      rw [entriesAll, List.length_append, length_entriesAll rest, entries, countAll, count,
        alternativesAll, alternatives, List.length_singleton]
      omega
  | .conditional condition thenBranch elseBranch :: rest => by
      have yes := length_entriesAll thenBranch
      have no := length_entriesAll elseBranch
      rw [entriesAll, List.length_append, length_entriesAll rest, entries, countAll, count,
        alternativesAll, alternatives, List.length_append, List.length_cons, inside,
        List.length_map, yes]
      cases elseBranch with
      | nil =>
          simp only [List.isEmpty_nil, ↓reduceIte, List.length_nil, countAll, alternativesAll]
          omega
      | cons statement statements =>
          simp only [List.isEmpty_cons, Bool.false_eq_true, ↓reduceIte, List.length_cons, inside,
            List.length_map, no]
          omega

theorem Program.size_cons (action : Action) (actions : List Action) :
    Program.size ⟨action :: actions⟩ =
      1 + Statement.countAll action.body + Statement.alternativesAll action.body +
        Program.size ⟨actions⟩ := by
  simp only [size, statementCount, alternatives, List.length_cons, List.foldr_cons]
  omega

/-- The writer writes as many lines as a program has entries. -/
theorem length_flatMap_lines (actions : List Action) :
    (actions.flatMap Action.lines).length = Program.size ⟨actions⟩ := by
  induction actions with
  | nil => rfl
  | cons action actions ih =>
      rw [List.flatMap_cons, List.length_append, ih, Program.size_cons, Action.lines_eq_map,
        List.length_map, Action.entries, List.length_cons, Statement.length_entriesAll]
      omega

/-- **Lines spell as many statements and second branches as there are lines.** -/
theorem Spells.length_eq {depth : Nat} {lines : List Line} {statements : List Statement}
    (spells : Spells depth lines statements) :
    lines.length = Statement.countAll statements + Statement.alternativesAll statements := by
  induction spells with
  | nil => rfl
  | publish _ _ ih =>
      rw [List.length_cons, ih, Statement.countAll, Statement.count, Statement.alternativesAll,
        Statement.alternatives]
      omega
  | conditional _ _ _ _ ihFirst ihLater =>
      simp only [List.length_cons, List.length_append, ihFirst, ihLater, Statement.countAll,
        Statement.count, Statement.alternativesAll, Statement.alternatives, List.isEmpty_nil,
        ↓reduceIte]
      omega
  | alternative _ _ _ _ secondNonempty _ ihFirst ihSecond ihLater =>
      simp only [List.length_cons, List.length_append, ihFirst, ihSecond, ihLater,
        Statement.countAll, Statement.count, Statement.alternativesAll, Statement.alternatives,
        List.isEmpty_iff, secondNonempty, ↓reduceIte]
      omega

theorem SpellsActions.length_eq {lines : List Line} {actions : List Action}
    (spells : SpellsActions lines actions) : lines.length = Program.size ⟨actions⟩ := by
  induction spells with
  | nil => rfl
  | cons _ own _ _ _ ih =>
      rw [List.length_cons, List.length_append, own.length_eq, ih, Program.size_cons]
      omega

/-- The visible lines of a text are the lines of a script that it has. -/
theorem LaidOut.visibleCount_eq {width : Nat} {source : String} {lines : List Line}
    (laidOut : LaidOut width source.toList lines) : visibleCount source = lines.length := by
  rw [visibleCount, List.countP_eq_length_filter]
  exact laidOut.length_eq

/-! ## Whole scripts -/

/-- The lines of a script are those of its actions, with an empty one between any two. -/
theorem rawLines_eq_intercalate (width : Nat) (actions : List Action) :
    rawLines width actions =
      List.intercalate [[]] (actions.map fun action => action.lines.map (·.raw width)) := by
  induction actions with
  | nil => rfl
  | cons action actions ih =>
      cases actions with
      | nil => simp [rawLines, List.intercalate]
      | cons next rest =>
          rw [rawLines, ih, List.map_cons, List.map_cons, List.map_cons]
          simp [List.intercalate]

theorem length_rawLines (width : Nat) (actions : List Action) :
    (rawLines width actions).length =
      (actions.flatMap Action.lines).length + (actions.length - 1) := by
  induction actions with
  | nil => rfl
  | cons action actions ih =>
      cases actions with
      | nil => simp [rawLines]
      | cons next rest =>
          rw [rawLines, List.length_append, List.length_cons, ih, List.flatMap_cons (x := action),
            List.length_append, List.length_map]
          simp only [List.length_cons]
          omega

/-- A script with an action in it ends with a line feed. -/
theorem Program.getLast?_write (width : Nat) {program : Program}
    (nonempty : program.actions ≠ []) : (program.write width).getLast? = some '\n' := by
  have lines : rawLines width program.actions ≠ [] := by
    obtain ⟨action, rest, whole⟩ := List.exists_cons_of_ne_nil nonempty
    rw [whole]
    cases rest <;> simp [rawLines, Action.lines]
  obtain ⟨earlier, last, whole⟩ := (List.eq_nil_or_concat' _).resolve_left lines
  rw [Program.write, ← flatMap_rawLines, whole, List.flatMap_append, List.flatMap_singleton,
    ← List.append_assoc, List.getLast?_concat]

/-- A script has one visible line for each entry of its program. -/
theorem Program.Unbroken.visibleCount_render {program : Program} (unbroken : program.Unbroken)
    (width : IndentWidth) : visibleCount (program.render width) = program.size := by
  have laidOut : LaidOut width.spaces (program.render width).toList
      (program.actions.flatMap Action.lines) := by
    rw [Program.render, String.toList_ofList]
    exact laidOut_write width.spaces unbroken
  rw [laidOut.visibleCount_eq, length_flatMap_lines]

/-- A script has one blank line before each action but the first. -/
theorem Program.Unbroken.blankCount_render {program : Program} (unbroken : program.Unbroken)
    (width : IndentWidth) : blankCount (program.render width) = program.actions.length - 1 := by
  have all : (Text.lines (program.render width).toList).length =
      blankCount (program.render width) + visibleCount (program.render width) := by
    rw [blankCount, visibleCount, List.length_eq_countP_add_countP (p := Text.isAllBlank)]
    simp
  have lines : (Text.lines (program.render width).toList).length =
      program.size + (program.actions.length - 1) := by
    rw [Program.render, String.toList_ofList, lines_write width.spaces unbroken, length_rawLines,
      length_flatMap_lines]
  rw [unbroken.visibleCount_render width, lines] at all
  omega

/-- The lines of a script stand for the entries of its actions. -/
theorem Program.Unbroken.exists_groups {program : Program} (unbroken : program.Unbroken)
    (width : IndentWidth) :
    ∃ groups, Text.lines (program.render width).toList = List.intercalate [[]] groups ∧
      List.Forall₂ (List.Forall₂ (StandsFor width.spaces)) groups
        (program.actions.map Action.entries) := by
  refine ⟨program.actions.map fun action => action.lines.map (·.raw width.spaces), ?_, ?_⟩
  · rw [Program.render, String.toList_ofList, lines_write width.spaces unbroken,
      rawLines_eq_intercalate]
  · rw [List.forall₂_map_left_iff, List.forall₂_map_right_iff, List.forall₂_same]
    intro action _
    rw [Action.lines_eq_map, List.map_map, List.forall₂_map_left_iff, List.forall₂_same]
    exact fun entry _ => standsFor_raw width.spaces entry

/-- **Every line is accounted for.** The script of a program without line feeds in its names and
conditions is empty if there is no action, and otherwise it ends with a line feed. It has a visible
line for each action, each statement and each second branch, and a blank one before each action but
the first. These lines stand for the entries of the actions, one after the other, and the blank ones
are empty. A script that is read, at any width, has as many visible lines as its program has
actions, statements and second branches. -/
theorem Program.lines_accounted :
    (∀ (program : Program) (width : IndentWidth), program.Unbroken →
      (program.actions = [] → program.render width = "") ∧
      (program.actions ≠ [] → (program.render width).toList.getLast? = some '\n') ∧
      visibleCount (program.render width) =
        program.actions.length + program.statementCount + program.alternatives ∧
      blankCount (program.render width) = program.actions.length - 1 ∧
      ∃ groups, Text.lines (program.render width).toList = List.intercalate [[]] groups ∧
        List.Forall₂ (List.Forall₂ (StandsFor width.spaces)) groups
          (program.actions.map Action.entries)) ∧
    ∀ (width : Nat) (source : String) (program : Program),
      Program.parse width source = .ok program →
        visibleCount source =
          program.actions.length + program.statementCount + program.alternatives := by
  constructor
  · intro program width unbroken
    refine ⟨fun empty => ?_, fun nonempty => ?_, unbroken.visibleCount_render width,
      unbroken.blankCount_render width, unbroken.exists_groups width⟩
    · rw [Program.render, Program.write, empty]
      rfl
    · rw [Program.render, String.toList_ofList]
      exact getLast?_write width.spaces nonempty
  · intro width source program reads
    obtain ⟨lines, laidOut, spells⟩ := parse_eq_ok_iff_spells.mp reads
    exact laidOut.visibleCount_eq.trans spells.length_eq

/-- A program that no script can say, with an empty first branch inside another conditional, and a
script with blank lines in it. -/
theorem Program.lines_accounted_nested :
    let program : Program := ⟨[⟨"a\r", .standard,
      [.conditional "x" [.conditional " " [] [.publish "t\n" ""]] []]⟩, ⟨"", .standard, []⟩]⟩
    let source := "DEFINE ACTION a ON EVERY 1s DO\n\nIF x THEN\n PUBLISH TOPIC \"\" \"\"\n"
    program.Unbroken ∧ visibleCount (program.render .standard) = 6 ∧
      blankCount (program.render .standard) = 1 ∧
      ∃ read, Program.parse 1 source = .ok read ∧ visibleCount source = 3 := by
  intro program source
  have inner : Statement.Unbroken (.conditional " " [] [.publish "t\n" ""]) :=
    ⟨by decide, trivial, trivial, trivial⟩
  have unbroken : program.Unbroken := by
    intro action member
    obtain rfl | rfl := List.mem_pair.mp member
    · exact ⟨by decide, ⟨by decide, ⟨inner, trivial⟩, trivial⟩, trivial⟩
    · exact ⟨by decide, trivial⟩
  obtain ⟨-, -, visible, blank, -⟩ := lines_accounted.1 program .standard unbroken
  have reads : Program.parse 1 source = .ok ⟨[⟨"a", ⟨1, .seconds, by decide, by decide⟩,
      [.conditional "x" [.publish "" ""] []]⟩]⟩ := by decide +kernel
  exact ⟨unbroken, visible, blank, _, reads, lines_accounted.2 1 source _ reads⟩

end BlockScript.Script
