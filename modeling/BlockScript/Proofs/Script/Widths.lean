import BlockScript.Proofs.Script.RoundTrip

/-!
# Scripts read at another width

A script that was written at one indent width can be read at another one only if nothing in it is
indented, that is if its program has no conditional
(`Program.WellFormed.parse_render_of_not_branches`). Otherwise the reader stops at the line after
the first conditional, which is the first indented line
(`Program.WellFormed.parse_render_of_branches`). If the width of the reader does not divide that of
the writer, this line has no whole number of levels. If it does, the line lies two levels deep or
more, where the branch asks for one. So the reader never gets as far as the lines that could be
taken for another branch at the other width.

What comes before the first conditional is the same at every width: the lines of the actions before
it, the header of its own action, and the statements before it there (`rawsBefore`).
-/

set_option autoImplicit false

namespace BlockScript.Script

/-! ## Conditionals -/

/-- Holds of a conditional. -/
def Statement.isConditional : Statement → Bool
  | .publish .. => false
  | .conditional .. => true

/-- Holds of an action with a conditional in it. One that lies in a branch lies inside a conditional
of the body itself. -/
def Action.branches (action : Action) : Bool := action.body.any (·.isConditional)

/-- Holds of a program with a conditional in it. -/
def Program.branches (program : Program) : Bool := program.actions.any (·.branches)

/-- Holds of a line of a script, as it stands in the text, that opens a conditional. -/
def opensIf (raw : List Char) : Bool := "IF ".toList.isPrefixOf (raw.dropWhile (· == ' '))

/-- The number of the first line of a script that opens a conditional. -/
def firstIf? (script : String) : Option Nat :=
  ((Text.lines script.toList).findIdx? opensIf).map (· + 1)

/-- A list in which something has a property, taken apart where the first does. -/
theorem exists_first_of_any {α : Type} {p : α → Bool} {xs : List α} (some : xs.any p = true) :
    ∃ before x after, xs = before ++ x :: after ∧ p x = true ∧ ∀ y ∈ before, p y = false := by
  obtain ⟨x, found⟩ := Option.isSome_iff_exists.mp (List.find?_isSome.mpr (List.any_eq_true.mp some))
  obtain ⟨holds, before, after, rfl, none⟩ := List.find?_eq_some_iff_append.mp found
  exact ⟨before, x, after, rfl, holds, fun y member => by simpa using none y member⟩

/-! ## Lines that are not indented -/

/-- A line that is not indented and opens no conditional. -/
structure Line.Flat (line : Line) : Prop where
  /-- The line is not indented. -/
  depth : line.depth = 0
  /-- The text starts and ends with something visible. -/
  solid : Text.Solid line.text
  /-- The line opens no conditional. -/
  noIf : opensIf line.text = false

theorem Line.raw_of_depth_eq_zero {line : Line} (depth : line.depth = 0) (width : Nat) :
    line.raw width = line.text := by
  rw [Line.raw, depth, Nat.zero_mul, List.replicate_zero, List.nil_append]

theorem Line.Flat.opensIf_raw {line : Line} (flat : line.Flat) (width : Nat) :
    opensIf (line.raw width) = false := by
  rw [Line.raw_of_depth_eq_zero flat.depth width, flat.noIf]

/-- Flat lines stand in the text in the same way at every width. -/
theorem Line.map_raw_of_flat {lines : List Line} (flat : ∀ line ∈ lines, line.Flat)
    (width other : Nat) : lines.map (·.raw width) = lines.map (·.raw other) := by
  refine List.map_congr_left fun line member => ?_
  have depth := (flat line member).depth
  rw [Line.raw_of_depth_eq_zero depth width, Line.raw_of_depth_eq_zero depth other]

/-- Statements without conditionals are written in flat lines. -/
theorem flat_linesAll {statements : List Statement}
    (plain : ∀ statement ∈ statements, statement.isConditional = false) :
    ∀ line ∈ Statement.linesAll 0 statements, line.Flat := by
  induction statements with
  | nil => simp [Statement.linesAll]
  | cons statement statements ih =>
      obtain ⟨own, others⟩ := List.forall_mem_cons.mp plain
      cases statement with
      | conditional condition yes no => cases own
      | publish topic payload =>
          rw [Statement.linesAll, Statement.lines, List.singleton_append, List.forall_mem_cons]
          refine ⟨⟨rfl, solid_publishLine topic payload, ?_⟩, ih others⟩
          simp [publishLine_eq, opensIf, List.isPrefixOf]

theorem flat_header (action : Action) : Line.Flat ⟨0, action.header⟩ where
  depth := rfl
  solid := solid_header action
  noIf := by simp [header_eq, opensIf, Keyword.chars, Keyword.text, List.isPrefixOf]

/-- Actions without conditionals are written in flat lines. -/
theorem Action.flat_lines {action : Action} (plain : action.branches = false) :
    ∀ line ∈ action.lines, line.Flat := by
  rw [Action.lines, List.forall_mem_cons]
  exact ⟨flat_header action, flat_linesAll (by simpa [Action.branches] using plain)⟩

/-- **A script without conditionals is the same at every width.** -/
theorem Program.write_eq_write {program : Program} (plain : program.branches = false)
    (width other : Nat) : program.write width = program.write other := by
  rw [Program.write, Program.write]
  congr 1
  refine List.map_congr_left fun action member => ?_
  have own : action.branches = false := by
    simp only [Program.branches, List.any_eq_false, Bool.not_eq_true] at plain
    exact plain action member
  rw [Action.write, Action.write]
  refine List.flatMap_congr fun line inside => ?_
  rw [Line.write, Line.write, (Action.flat_lines own line inside).depth, Nat.zero_mul, Nat.zero_mul]

/-! ## Before the first conditional -/

/-- The first conditional of a program has the given condition and first branch. It stands in
`action`, with the statements `plain` before it there, and the actions `earlier` come before. -/
structure Program.FirstConditional (program : Program) (earlier : List Action) (action : Action)
    (plain : List Statement) (condition : String) (yes : List Statement) : Prop where
  actions : ∃ others, program.actions = earlier ++ action :: others
  body : ∃ no later, action.body = plain ++ .conditional condition yes no :: later
  /-- The actions before it have no conditional. -/
  flatEarlier : ∀ other ∈ earlier, other.branches = false
  /-- The statements before it are no conditionals. -/
  flatPlain : ∀ statement ∈ plain, statement.isConditional = false

/-- A program with a conditional has a first one. -/
theorem Program.exists_firstConditional {program : Program} (branches : program.branches = true) :
    ∃ earlier action plain condition yes,
      program.FirstConditional earlier action plain condition yes := by
  obtain ⟨earlier, action, others, actions, own, flatEarlier⟩ := exists_first_of_any branches
  obtain ⟨plain, statement, later, body, isConditional, flatPlain⟩ := exists_first_of_any own
  cases statement with
  | publish topic payload => cases isConditional
  | conditional condition yes no =>
      exact ⟨earlier, action, plain, condition, yes, ⟨others, actions⟩, ⟨no, later, body⟩,
        flatEarlier, flatPlain⟩

/-- The lines of statements one after the other. -/
theorem Statement.linesAll_append (depth : Nat) (statements others : List Statement) :
    Statement.linesAll depth (statements ++ others) =
      Statement.linesAll depth statements ++ Statement.linesAll depth others := by
  induction statements with
  | nil => rfl
  | cons statement statements ih =>
      rw [List.cons_append, Statement.linesAll, ih, Statement.linesAll, List.append_assoc]

/-- Well-formed statements start with a line that says something. -/
theorem exists_linesAll_eq_cons {statements : List Statement} (nonempty : statements ≠ [])
    (wellFormed : Statement.WellFormedAll statements) (depth : Nat) :
    ∃ text rest sentence, Statement.linesAll depth statements = ⟨depth, text⟩ :: rest ∧
      Sentence.read text = .ok sentence := by
  have spells := Spells.linesAll depth statements wellFormed
  generalize Statement.linesAll depth statements = lines at spells
  cases spells with
  | nil => exact absurd rfl nonempty
  | publish read _ => exact ⟨_, _, _, rfl, read⟩
  | conditional read _ _ _ => exact ⟨_, _, _, rfl, read⟩
  | alternative read _ _ _ _ _ => exact ⟨_, _, _, rfl, read⟩

section

variable (earlier : List Action) (action : Action) (plain : List Statement)

/-- The first lines of an action: its header, and the first statements of its body. -/
def openingLines : List Line := ⟨0, action.header⟩ :: Statement.linesAll 0 plain

/-- The lines of some actions, and the first ones of a further one. -/
def linesBefore : List Line := earlier.flatMap Action.lines ++ openingLines action plain

/-- How these lines stand in the text. -/
def rawsBefore (width : Nat) : List (List Char) :=
  rawLinesBefore width earlier ++ (openingLines action plain).map (·.raw width)

end

/-- The lines of an action and of others after it. -/
theorem exists_rawLines_cons (width : Nat) (action : Action) (others : List Action) :
    ∃ after, rawLines width (action :: others) = action.lines.map (·.raw width) ++ after := by
  cases others with
  | nil => exact ⟨[], (List.append_nil _).symm⟩
  | cons next rest => exact ⟨_, rfl⟩

section

variable {program : Program} {earlier : List Action} {action : Action}
  {plain yes : List Statement} {condition : String}

namespace Program.FirstConditional

/-- Around the first conditional everything is well formed. -/
theorem wellFormed (first : program.FirstConditional earlier action plain condition yes)
    (wellFormed : program.WellFormed) :
    (∀ other ∈ earlier, other.WellFormed) ∧ isIdentifier action.name = true ∧
      Statement.WellFormedAll plain ∧ Text.Solid condition.toList ∧ yes ≠ [] ∧
        Statement.WellFormedAll yes := by
  obtain ⟨others, actions⟩ := first.actions
  obtain ⟨no, later, body⟩ := first.body
  rw [Program.WellFormed, actions, List.forall_mem_append, List.forall_mem_cons] at wellFormed
  obtain ⟨before, own, -⟩ := wellFormed
  have statements := own.body
  rw [body, Statement.wellFormedAll_append] at statements
  obtain ⟨wellFormedPlain, ⟨⟨nonempty, same, -⟩, someYes, wellFormedYes, -⟩, -⟩ := statements
  exact ⟨before, own.identifier, wellFormedPlain, solid_toList_iff.mpr ⟨nonempty, same⟩, someYes,
    wellFormedYes⟩

/-- **The text of a script up to its first indented line**, which is the one after the line of its
first conditional. -/
theorem exists_rawLines_eq (first : program.FirstConditional earlier action plain condition yes)
    (width : Nat) {text : List Char} {rest : List Line}
    (inside : Statement.linesAll 1 yes = ⟨1, text⟩ :: rest) :
    ∃ after, rawLines width program.actions =
      (rawsBefore earlier action plain width ++ [ifLine condition]) ++
        Line.raw width ⟨1, text⟩ :: after := by
  obtain ⟨others, actions⟩ := first.actions
  obtain ⟨no, later, body⟩ := first.body
  obtain ⟨after, whole⟩ := exists_rawLines_cons width action others
  have rawIf : Line.raw width ⟨0, ifLine condition⟩ = ifLine condition :=
    Line.raw_of_depth_eq_zero rfl width
  rw [actions, rawLines_append_cons, whole, Action.lines, body, Statement.linesAll_append,
    Statement.linesAll, Statement.lines, inside]
  simp only [List.map_cons, List.map_append, List.cons_append, rawIf, rawsBefore, openingLines,
    List.append_assoc, List.nil_append]
  exact ⟨_, rfl⟩

/-- The first lines of the action with the first conditional are flat. -/
theorem flat_openingLines
    (first : program.FirstConditional earlier action plain condition yes) :
    ∀ line ∈ openingLines action plain, line.Flat :=
  List.forall_mem_cons.mpr ⟨flat_header action, flat_linesAll first.flatPlain⟩

/-- **The text before the first conditional is the same at every width.** -/
theorem rawsBefore_eq (first : program.FirstConditional earlier action plain condition yes)
    (width other : Nat) :
    rawsBefore earlier action plain width = rawsBefore earlier action plain other := by
  have before : rawLinesBefore width earlier = rawLinesBefore other earlier :=
    List.flatMap_congr fun action member => congrArg (· ++ [[]]) <|
      Line.map_raw_of_flat (Action.flat_lines (first.flatEarlier action member)) width other
  rw [rawsBefore, rawsBefore, before, Line.map_raw_of_flat first.flat_openingLines width other]

/-- Nothing before the first conditional opens one. -/
theorem opensIf_rawsBefore
    (first : program.FirstConditional earlier action plain condition yes) (width : Nat) :
    ∀ raw ∈ rawsBefore earlier action plain width, opensIf raw = false := by
  rw [rawsBefore, List.forall_mem_append]
  refine ⟨fun raw member => ?_, fun raw member => ?_⟩
  · obtain ⟨other, found, inside⟩ := List.mem_flatMap.mp member
    rcases List.mem_append.mp inside with written | empty
    · obtain ⟨line, own, rfl⟩ := List.mem_map.mp written
      exact (Action.flat_lines (first.flatEarlier other found) line own).opensIf_raw width
    · obtain rfl := List.mem_singleton.mp empty
      rfl
  · obtain ⟨line, inside, rfl⟩ := List.mem_map.mp member
    exact (first.flat_openingLines line inside).opensIf_raw width

/-- The lines before the first conditional, and the line of that one, lie in the text. -/
theorem forall₂_lies_rawsBefore
    (first : program.FirstConditional earlier action plain condition yes) (width : Nat) :
    List.Forall₂ (Line.Lies width)
      ((rawsBefore earlier action plain width ++ [ifLine condition]).filter
        fun raw => !Text.isAllBlank raw)
      (linesBefore earlier action plain ++ [⟨0, ifLine condition⟩]) := by
  have before := forall₂_lies_rawLinesBefore width fun other member line inside =>
    (Action.flat_lines (first.flatEarlier other member) line inside).solid
  have body := Line.forall₂_lies_map_raw width fun line member =>
    (first.flat_openingLines line member).solid
  have opening := @Line.forall₂_lies_map_raw width [⟨0, ifLine condition⟩]
    (List.forall_mem_singleton.mpr (solid_ifLine condition))
  rw [List.map_singleton, Line.raw_of_depth_eq_zero rfl] at opening
  rw [rawsBefore, linesBefore, List.filter_append, List.filter_append]
  exact List.rel_append (List.rel_append before body) opening

end Program.FirstConditional

end

/-! ## The reader at the first conditional -/

/-- **The reader after the line of the first conditional**: its first branch is open, and nothing
else is. -/
theorem exists_run_ifLine {earlier : List Action} {action : Action} {plain : List Statement}
    {condition : String} (wellFormed : ∀ other ∈ earlier, other.WellFormed)
    (identifier : isIdentifier action.name = true)
    (wellFormedPlain : Statement.WellFormedAll plain) (solid : Text.Solid condition.toList)
    {numbered : List NumberedLine}
    (spelled : numbered.map (·.toLine) =
      linesBefore earlier action plain ++ [⟨0, ifLine condition⟩]) :
    ∃ finished current conditional, current.ifs = [conditional] ∧
      numbered.foldlM Progress.step .start = .ok ⟨finished, some current⟩ := by
  rw [linesBefore, openingLines, List.append_assoc, List.cons_append] at spelled
  obtain ⟨before, after, rfl, spelledBefore, spelledAfter⟩ := List.map_eq_append_iff.mp spelled
  obtain ⟨header, inside, rfl, ownHeader, spelledInside⟩ := List.map_eq_cons_iff.mp spelledAfter
  obtain ⟨body, next, rfl, spelledBody, spelledNext⟩ := List.map_eq_append_iff.mp spelledInside
  obtain ⟨line, rfl, ownLine⟩ := List.map_eq_singleton_iff.mp spelledNext
  obtain ⟨flat, sameHeader⟩ := Line.mk.inj ownHeader
  obtain ⟨depth, same⟩ := Line.mk.inj ownLine
  have spells : SpellsActions (before.map (·.toLine)) earlier :=
    spelledBefore ▸ SpellsActions.of_wellFormed wellFormed
  have readHeader : Header.read header.text = .ok ⟨action.name, action.every⟩ :=
    sameHeader ▸ Header.read_header identifier
  have starts : startsDefine header.text = true := sameHeader ▸ startsDefine_header action
  have read : Sentence.read line.text = .ok (.condition condition) :=
    same ▸ Sentence.read_ifLine solid
  obtain ⟨finished, runs⟩ :=
    Program.exists_run_header (ofLines_of_spellsActions spells) flat readHeader starts
  obtain ⟨current, leads, settles⟩ :=
    (Spells.linesAll 0 plain wellFormedPlain).leads_start spelledBody header.number
      ⟨action.name, action.every⟩
  have opens := settles.place_condition depth read
  refine ⟨finished,
    { current with ifs := [⟨line.number, plain.reverse, condition, none⟩], block := [] },
    ⟨line.number, plain.reverse, condition, none⟩, rfl, ?_⟩
  rw [List.append_cons, List.foldlM_append, runs, ok_bind, List.foldlM_append, leads.steps, ok_bind,
    List.foldlM_cons, Progress.step]
  simp only [opens, ok_bind, List.foldlM_nil]
  rfl

/-- Inside one conditional the reader refuses a line that lies deeper than its branch. -/
theorem Progress.step_tooDeep {finished : List Action} {current : OpenAction}
    {conditional : OpenIf} (inside : current.ifs = [conditional]) {line : NumberedLine}
    (deep : 1 < line.depth) (noElse : line.text ≠ Keyword.ELSE.chars) :
    Progress.step ⟨finished, some current⟩ line = .error ⟨line.number, .tooDeep 1⟩ := by
  have other : isElse line = false :=
    Bool.eq_false_iff.mpr fun isElse => noElse (isElse_eq_true_iff.mp isElse)
  have below : ¬ line.depth ≤ 0 := by omega
  have refused : current.place line = .error ⟨line.number, .tooDeep 1⟩ := by
    rw [OpenAction.place, inside]
    simp only [OpenAction.placeFrom, List.length_nil, Nat.zero_add, other, below, deep,
      decide_false, Bool.or_self, Bool.false_eq_true, ↓reduceIte]
  simp only [Progress.step, refused]

/-! ## Scanning at another width -/

/-- Lines of which each can be scanned can be scanned together. -/
theorem Line.exists_scanFrom {width : Nat} {raws : List (List Char)}
    (each : ∀ raw ∈ raws, Text.isAllBlank raw = true ∨ ∃ line, Line.scan width raw = .ok line)
    (number : Nat) : ∃ numbered, Line.scanFrom width number raws = .ok numbered := by
  induction raws generalizing number with
  | nil => exact ⟨[], rfl⟩
  | cons raw raws ih =>
      obtain ⟨own, others⟩ := List.forall_mem_cons.mp each
      obtain ⟨numbered, scanned⟩ := ih others (number + 1)
      rw [Line.scanFrom, scanned]
      rcases own with blank | ⟨line, scannedOne⟩
      · exact ⟨numbered, if_pos blank⟩
      · split
        · exact ⟨numbered, rfl⟩
        · rw [scannedOne]
          exact ⟨⟨line, number⟩ :: numbered, rfl⟩

/-- At a width that divides its own a line lies deeper by that factor. -/
theorem Line.scan_raw_of_dvd {width other : Nat} (positive : 0 < other) (divides : other ∣ width)
    {line : Line} (solid : Text.Solid line.text) :
    Line.scan other (line.raw width) = .ok ⟨line.depth * (width / other), line.text⟩ := by
  have same : line.raw width = Line.raw other ⟨line.depth * (width / other), line.text⟩ := by
    rw [Line.raw, Line.raw, Nat.mul_assoc, Nat.div_mul_cancel divides]
  have lies := @Line.lies_raw other ⟨line.depth * (width / other), line.text⟩ solid
  rw [same, lies.scan_eq positive]

/-- At any other width a line that lies one level deep has no whole number of levels. -/
theorem Line.scan_raw_of_not_dvd {width other : Nat} (noDivisor : ¬ other ∣ width)
    {text : List Char} (solid : Text.Solid text) :
    Line.scan other (Line.raw width ⟨1, text⟩) = .error (.notMultiple width other) := by
  have remainder : width % other ≠ 0 := fun whole => noDivisor (Nat.dvd_of_mod_eq_zero whole)
  rw [Line.raw, Nat.one_mul, Line.scan_replicate_append solid.first, if_pos remainder]

/-! ## Scripts at another width -/

/-- **A script without conditionals is read back at every width.** -/
theorem Program.WellFormed.parse_render_of_not_branches {program : Program}
    (wellFormed : program.WellFormed) (plain : program.branches = false) (width : IndentWidth)
    {other : Nat} (positive : 1 ≤ other) :
    Program.parse other (program.render width) = .ok program := by
  rw [Program.render, Program.write_eq_write plain width.spaces other]
  exact wellFormed.parse_write positive

/-- Every line of the script of a well-formed program can be scanned at a width that divides its
own. -/
theorem Program.WellFormed.exists_scanFrom_of_dvd {program : Program}
    (wellFormed : program.WellFormed) {width : IndentWidth} {other : Nat} (positive : 0 < other)
    (divides : other ∣ width.spaces) {raws : List (List Char)}
    (part : ∀ raw ∈ raws, raw ∈ Text.lines (program.render width).toList) (number : Nat) :
    ∃ numbered, Line.scanFrom other number raws = .ok numbered := by
  rw [Program.render, String.toList_ofList, lines_write width.spaces wellFormed.unbroken] at part
  refine Line.exists_scanFrom (fun raw member => ?_) number
  rcases mem_rawLines (part raw member) with rfl | ⟨action, found, line, inside, rfl⟩
  · exact .inl rfl
  · have solid := ((wellFormed.unbroken action found).printable line inside).solid
    exact .inr ⟨_, Line.scan_raw_of_dvd positive divides solid⟩

section

variable {program : Program} {earlier : List Action} {action : Action}
  {plain yes : List Statement} {condition : String}

namespace Program.FirstConditional

/-- The lines of a script, up to the first one that is indented. -/
theorem exists_lines_render
    (first : program.FirstConditional earlier action plain condition yes)
    (wellFormed : program.WellFormed) (width : IndentWidth) :
    ∃ text after, Text.Solid text ∧ text ≠ Keyword.ELSE.chars ∧
      Text.lines (program.render width).toList =
        (rawsBefore earlier action plain width.spaces ++ [ifLine condition]) ++
          Line.raw width.spaces ⟨1, text⟩ :: after := by
  obtain ⟨-, -, -, -, someYes, wellFormedYes⟩ := first.wellFormed wellFormed
  obtain ⟨text, rest, sentence, inside, read⟩ := exists_linesAll_eq_cons someYes wellFormedYes 1
  have printable := printable_of_mem_linesAll 1 yes
    (Statement.unbrokenAll_of_wellFormedAll yes wellFormedYes)
  rw [inside] at printable
  obtain ⟨after, raws⟩ := first.exists_rawLines_eq width.spaces inside
  refine ⟨text, after, (printable _ List.mem_cons_self).solid, Sentence.ne_else_of_read read, ?_⟩
  rw [Program.render, String.toList_ofList, lines_write width.spaces wellFormed.unbroken, raws]

/-- The line of the first conditional is the first one that opens one. -/
theorem firstIf?_render (first : program.FirstConditional earlier action plain condition yes)
    (wellFormed : program.WellFormed) (width : IndentWidth) :
    firstIf? (program.render width) =
      some ((rawsBefore earlier action plain width.spaces).length + 1) := by
  obtain ⟨text, after, -, -, lines⟩ := first.exists_lines_render wellFormed width
  have opens : opensIf (ifLine condition) = true := by simp [opensIf, ifLine, List.isPrefixOf]
  have none : (rawsBefore earlier action plain width.spaces).findIdx? opensIf = none :=
    List.findIdx?_eq_none_iff.mpr (first.opensIf_rawsBefore width.spaces)
  rw [firstIf?, lines, List.append_assoc, List.findIdx?_append, none, List.singleton_append,
    List.findIdx?_cons, opens]
  simp

/-- **The reader refuses a line that lies two levels deep after that of the first conditional**,
whatever comes after it. -/
theorem ofLines_tooDeep (first : program.FirstConditional earlier action plain condition yes)
    (wellFormed : program.WellFormed) {numbered later : List NumberedLine}
    (spelled : numbered.map (·.toLine) =
      linesBefore earlier action plain ++ [⟨0, ifLine condition⟩])
    {line : NumberedLine} (deep : 1 < line.depth) (noElse : line.text ≠ Keyword.ELSE.chars) :
    Program.ofLines (numbered ++ line :: later) = .error ⟨line.number, .tooDeep 1⟩ := by
  obtain ⟨before, identifier, wellFormedPlain, solid, -, -⟩ := first.wellFormed wellFormed
  obtain ⟨finished, current, conditional, isOpen, runs⟩ :=
    exists_run_ifLine before identifier wellFormedPlain solid spelled
  rw [Program.ofLines, List.foldlM_append, runs, ok_bind, List.foldlM_cons,
    Progress.step_tooDeep isOpen deep noElse]
  rfl

end Program.FirstConditional

end

/-- **A script with a conditional is refused at every other width**, on the line after that of its
first conditional. -/
theorem Program.WellFormed.parse_render_of_branches {program : Program}
    (wellFormed : program.WellFormed) (branches : program.branches = true) (width : IndentWidth)
    {other : Nat} (positive : 1 ≤ other) (differs : other ≠ width.spaces) :
    ∃ line, firstIf? (program.render width) = some line ∧
      Program.parse other (program.render width) = .error ⟨line + 1,
        if other ∣ width.spaces then .tooDeep 1 else .indent (.notMultiple width.spaces other)⟩ := by
  obtain ⟨earlier, action, plain, condition, yes, first⟩ :=
    Program.exists_firstConditional branches
  obtain ⟨text, after, solid, noElse, lines⟩ := first.exists_lines_render wellFormed width
  refine ⟨_, first.firstIf?_render wellFormed width, ?_⟩
  -- Up to the line of the conditional the script can be read at every width.
  obtain ⟨numbered, spelled, scanned⟩ :=
    (Line.scanFrom_eq_ok_iff positive 1).mpr (first.forall₂_lies_rawsBefore other)
  rw [first.rawsBefore_eq other width.spaces] at scanned
  have shown : Text.isAllBlank (Line.raw width.spaces ⟨1, text⟩) = false :=
    Line.raw_not_isAllBlank width.spaces solid
  have number : 1 + (rawsBefore earlier action plain width.spaces ++ [ifLine condition]).length =
      (rawsBefore earlier action plain width.spaces).length + 1 + 1 := by
    rw [List.length_append, List.length_singleton, Nat.add_comm]
  have inText : ∀ raw ∈ after, raw ∈ Text.lines (program.render width).toList := by
    rw [lines]
    exact fun raw member => List.mem_append_right _ (List.mem_cons_of_mem _ member)
  rw [Program.parse, Nat.max_eq_right positive, Line.scanAll, lines, Line.scanFrom_append, scanned,
    ok_bind, number, Line.scanFrom, shown, if_neg Bool.false_ne_true]
  by_cases divides : other ∣ width.spaces
  · have deep : 1 < 1 * (width.spaces / other) := by
      have atLeast := Nat.div_pos (Nat.le_of_dvd width.one_le divides) positive
      rw [Nat.one_mul]
      exact Nat.lt_of_le_of_ne atLeast fun one =>
        differs (Nat.eq_of_dvd_of_div_eq_one divides one.symm)
    obtain ⟨later, scannedLater⟩ :=
      wellFormed.exists_scanFrom_of_dvd positive divides inText
        ((rawsBefore earlier action plain width.spaces).length + 1 + 1 + 1)
    rw [Line.scan_raw_of_dvd positive divides solid, scannedLater, if_pos divides]
    exact first.ofLines_tooDeep wellFormed spelled deep noElse
  · rw [Line.scan_raw_of_not_dvd divides solid, if_neg divides]
    rfl

end BlockScript.Script
