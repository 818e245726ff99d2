import BlockScript.Proofs.Script.Grammar
import BlockScript.Proofs.Text.Lines
import Mathlib.Data.List.Forall2

/-!
# The layout of scripts

How lines become text and text becomes lines. `LaidOut` says which lines a text has, and the scanner
finds just these (`scanAll_eq_ok_iff`). No line that it finds has a line feed in it
(`newline_notMem_of_mem_scanAll`).

The text of a program has the lines that the writer laid out (`laidOut_write`): the spaces before a
line come out as its depth, and the empty lines between actions are passed over. This needs that
every line is printable, that is solid and without line feeds, which the lines of an action are when
no name and no condition has a line feed in it (`Action.Unbroken.printable`).
-/

set_option autoImplicit false

namespace BlockScript.Script

/-! ## Programs without line feeds -/

mutual
/-- No condition of a statement has a line feed in it. -/
def Statement.Unbroken : Statement → Prop
  | .publish .. => True
  | .conditional condition thenBranch elseBranch =>
    '\n' ∉ condition.toList ∧ Statement.UnbrokenAll thenBranch ∧ Statement.UnbrokenAll elseBranch

/-- No condition in a list of statements has a line feed in it. -/
def Statement.UnbrokenAll : List Statement → Prop
  | [] => True
  | statement :: rest => statement.Unbroken ∧ Statement.UnbrokenAll rest
end

/-- Neither the name of an action nor a condition in it has a line feed in it. -/
structure Action.Unbroken (action : Action) : Prop where
  /-- The name has none. -/
  name : '\n' ∉ action.name.toList
  /-- The conditions have none. -/
  body : Statement.UnbrokenAll action.body

/-- No name and no condition of a program has a line feed in it. -/
def Program.Unbroken (program : Program) : Prop := ∀ action ∈ program.actions, action.Unbroken

theorem newline_notMem_of_notBlank {cs : List Char} (solid : ∀ c ∈ cs, Text.isBlank c = false) :
    '\n' ∉ cs := by
  intro feed
  have notBlank := solid '\n' feed
  revert notBlank
  decide

theorem Statement.unbrokenAll_of_wellFormedAll : (statements : List Statement) →
    Statement.WellFormedAll statements → Statement.UnbrokenAll statements
  | [], _ => trivial
  | .publish _ _ :: rest, wellFormed => ⟨trivial, unbrokenAll_of_wellFormedAll rest wellFormed.2⟩
  | .conditional _ thenBranch elseBranch :: rest, wellFormed => by
      obtain ⟨⟨⟨-, -, noFeed⟩, -, first, second⟩, later⟩ := wellFormed
      have yes := unbrokenAll_of_wellFormedAll thenBranch first
      have no := unbrokenAll_of_wellFormedAll elseBranch second
      exact ⟨⟨noFeed, yes, no⟩, unbrokenAll_of_wellFormedAll rest later⟩

/-- A program that a script can say has no line feeds in its names and conditions. -/
theorem Program.WellFormed.unbroken {program : Program} (wellFormed : program.WellFormed) :
    program.Unbroken := by
  intro action member
  obtain ⟨identifier, -, body⟩ := wellFormed action member
  exact ⟨newline_notMem_of_notBlank (notBlank_of_mem_identifier identifier),
    Statement.unbrokenAll_of_wellFormedAll action.body body⟩

/-! ## Printable lines -/

/-- A line that can be laid out and found again. -/
structure Line.Printable (line : Line) : Prop where
  /-- The text starts and ends with something visible. -/
  solid : Text.Solid line.text
  /-- The text is one line. -/
  noFeed : '\n' ∉ line.text

theorem newline_notMem_header {action : Action} (name : '\n' ∉ action.name.toList) :
    '\n' ∉ action.header := by
  have every : '\n' ∉ action.every.text.toList :=
    newline_notMem_of_notBlank fun _ => Duration.notBlank_of_mem_text
  simp [header_eq, Keyword.chars, Keyword.text, name, every]

theorem newline_notMem_ifLine {condition : String} (noFeed : '\n' ∉ condition.toList) :
    '\n' ∉ ifLine condition := by
  simp [ifLine, noFeed]

theorem newline_notMem_publishLine (topic payload : String) :
    '\n' ∉ publishLine topic payload := by
  simp [publishLine_eq, newline_notMem_quoteChars]

/-- The lines of statements are printable where no condition has a line feed in it. -/
theorem printable_of_mem_linesAll : (depth : Nat) → (statements : List Statement) →
    Statement.UnbrokenAll statements →
      ∀ line ∈ Statement.linesAll depth statements, line.Printable
  | _, [], _ => by simp [Statement.linesAll]
  | depth, .publish topic payload :: rest, unbroken => by
      have later := printable_of_mem_linesAll depth rest unbroken.2
      rw [Statement.linesAll, Statement.lines, List.singleton_append, List.forall_mem_cons]
      exact ⟨⟨solid_publishLine topic payload, newline_notMem_publishLine topic payload⟩, later⟩
  | depth, .conditional condition thenBranch elseBranch :: rest, unbroken => by
      obtain ⟨⟨noFeed, first, second⟩, later⟩ := unbroken
      have yes := printable_of_mem_linesAll (depth + 1) thenBranch first
      have no := printable_of_mem_linesAll (depth + 1) elseBranch second
      have others := printable_of_mem_linesAll depth rest later
      have header : Line.Printable ⟨depth, ifLine condition⟩ :=
        ⟨solid_ifLine condition, newline_notMem_ifLine noFeed⟩
      have elseFeed : '\n' ∉ Keyword.ELSE.chars := by decide
      have alternative : Line.Printable ⟨depth, Keyword.ELSE.chars⟩ := ⟨solid_else, elseFeed⟩
      rw [Statement.linesAll, Statement.lines, List.forall_mem_append]
      refine ⟨?_, others⟩
      split <;>
        simp only [List.cons_append, List.append_nil, List.forall_mem_cons, List.forall_mem_append]
      · exact ⟨header, yes⟩
      · exact ⟨header, yes, alternative, no⟩

/-- **The lines of an action are printable** where no name and no condition has a line feed in
it. -/
theorem Action.Unbroken.printable {action : Action} (unbroken : action.Unbroken) :
    ∀ line ∈ action.lines, line.Printable := by
  rw [Action.lines, List.forall_mem_cons]
  exact ⟨⟨solid_header action, newline_notMem_header unbroken.name⟩,
    printable_of_mem_linesAll 0 action.body unbroken.body⟩

/-! ## One line -/

/-- The line of a script for which a line of its text stands: whole levels of spaces and then
something visible, of which the blanks at the end do not count. -/
inductive Line.Lies (width : Nat) : List Char → Line → Prop where
  | indented {depth : Nat} {content : List Char}
      (visible : ∃ c ∈ content.head?, Text.isBlank c = false) :
      Lies width (List.replicate (depth * width) ' ' ++ content) ⟨depth, Text.trimEnd content⟩

/-- The spaces before something visible, and what they are before. -/
theorem span_spaces_append {content : List Char}
    (visible : ∃ c ∈ content.head?, Text.isBlank c = false) (spaces : Nat) :
    (List.replicate spaces ' ' ++ content).takeWhile (· == ' ') = List.replicate spaces ' ' ∧
      (List.replicate spaces ' ' ++ content).dropWhile (· == ' ') = content := by
  obtain ⟨first, starts, notBlank⟩ := visible
  obtain ⟨rest, rfl⟩ := List.head?_eq_some_iff.mp starts
  have noSpace : (first == ' ') = false := by
    rw [beq_eq_false_iff_ne]
    rintro rfl
    cases notBlank
  have onlySpaces : ∀ c ∈ List.replicate spaces ' ', (c == ' ') = true :=
    fun c member => beq_iff_eq.mpr (List.eq_of_mem_replicate member)
  constructor
  · rw [List.takeWhile_append_of_pos onlySpaces, List.takeWhile_cons_of_neg (by simp [noSpace]),
      List.append_nil]
  · rw [List.dropWhile_append_of_pos onlySpaces, List.dropWhile_cons_of_neg (by simp [noSpace])]

/-- What the scanner makes of spaces with something visible after them. -/
theorem Line.scan_replicate_append {content : List Char}
    (visible : ∃ c ∈ content.head?, Text.isBlank c = false) (width spaces : Nat) :
    Line.scan width (List.replicate spaces ' ' ++ content) =
      if spaces % width ≠ 0 then .error (.notMultiple spaces width)
      else .ok ⟨spaces / width, Text.trimEnd content⟩ := by
  obtain ⟨before, rest⟩ := span_spaces_append visible spaces
  obtain ⟨first, starts, notBlank⟩ := visible
  have noBlank : content.head?.any Text.isBlank = false := by
    rw [Option.mem_def.mp starts]
    exact notBlank
  simp only [Line.scan, before, rest, noBlank, List.length_replicate, Bool.false_eq_true, ↓reduceIte]

/-- **The scanner finds the line for which a line of the text stands.** -/
theorem Line.Lies.scan_eq {width : Nat} (positive : 0 < width) {raw : List Char} {line : Line}
    (lies : Line.Lies width raw line) : Line.scan width raw = .ok line := by
  obtain @⟨depth, content, visible⟩ := lies
  have whole : ¬ depth * width % width ≠ 0 := not_not.mpr (Nat.mul_mod_left depth width)
  rw [Line.scan_replicate_append visible, if_neg whole, Nat.mul_div_cancel depth positive]

/-- **The scanner finds no other line**, in a line that does not consist of blanks. -/
theorem Line.lies_of_scan {width : Nat} {raw : List Char} {line : Line}
    (notBlank : Text.isAllBlank raw = false) (scanned : Line.scan width raw = .ok line) :
    Line.Lies width raw line := by
  have whole := List.takeWhile_append_dropWhile (p := (· == ' ')) (l := raw)
  have spaces : raw.takeWhile (· == ' ') =
      List.replicate (raw.takeWhile (· == ' ')).length ' ' :=
    List.eq_replicate_iff.mpr ⟨rfl, fun _ member => by simpa using List.mem_takeWhile_imp member⟩
  simp only [Line.scan] at scanned
  split at scanned
  · cases scanned
  next noBlank =>
  split at scanned
  · cases scanned
  next multiple =>
  obtain rfl := Except.ok.inj scanned
  have levels := Nat.div_mul_cancel (Nat.dvd_of_mod_eq_zero (not_not.mp multiple))
  -- A line of spaces alone has no content; every other line has, and it starts visibly.
  have visible : ∃ c ∈ (raw.dropWhile (· == ' ')).head?, Text.isBlank c = false := by
    cases content : raw.dropWhile (· == ' ') with
    | nil =>
        rw [content, List.append_nil] at whole
        have blank : Text.isAllBlank raw = true := by
          rw [← whole, spaces]
          exact List.all_eq_true.mpr fun c member => List.eq_of_mem_replicate member ▸
            Text.isBlank_space
        rw [blank] at notBlank
        cases notBlank
    | cons c rest =>
        rw [content] at noBlank
        exact ⟨c, rfl, by simpa using noBlank⟩
  have lies := @Line.Lies.indented width ((raw.takeWhile (· == ' ')).length / width) _ visible
  rwa [levels, ← spaces, whole] at lies

/-- A scanned line does not end with a blank. -/
theorem Line.Lies.ends {width : Nat} {raw : List Char} {line : Line}
    (lies : Line.Lies width raw line) : ∀ c ∈ line.text.getLast?, Text.isBlank c = false := by
  cases lies with
  | indented => exact fun _ => Text.notBlank_of_mem_getLast?_trimEnd

/-- A line laid out, without its end. -/
def Line.raw (width : Nat) (line : Line) : List Char :=
  List.replicate (line.depth * width) ' ' ++ line.text

/-- A line that was laid out lies there. -/
theorem Line.lies_raw (width : Nat) {line : Line} (solid : Text.Solid line.text) :
    Line.Lies width (line.raw width) line := by
  have lies := @Line.Lies.indented width line.depth _ solid.first
  rwa [Text.trimEnd_eq_self solid.last] at lies

theorem Line.raw_not_isAllBlank (width : Nat) {line : Line} (solid : Text.Solid line.text) :
    Text.isAllBlank (line.raw width) = false := by
  rw [Text.isAllBlank, raw, List.all_append]
  exact Bool.and_eq_false_imp.mpr fun _ => solid.not_isAllBlank

/-- What is scanned in a line is part of it. -/
theorem Line.mem_of_scan {width : Nat} {raw : List Char} {line : Line}
    (scanned : Line.scan width raw = .ok line) {c : Char} (member : c ∈ line.text) : c ∈ raw := by
  simp only [Line.scan] at scanned
  split at scanned
  · cases scanned
  split at scanned
  · cases scanned
  · obtain rfl := Except.ok.inj scanned
    exact List.dropWhile_subset _ (Text.mem_of_mem_trimEnd member)

/-! ## Many lines -/

/-- The lines of a script that a text has: one for each of its lines that do not consist of blanks
alone, in order. -/
def LaidOut (width : Nat) (source : List Char) (lines : List Line) : Prop :=
  List.Forall₂ (Line.Lies width) ((Text.lines source).filter fun raw => !Text.isAllBlank raw) lines

theorem Line.scanFrom_eq_ok_iff {width : Nat} (positive : 0 < width) {raws : List (List Char)}
    {lines : List Line} (number : Nat) :
    (∃ numbered : List NumberedLine, numbered.map (·.toLine) = lines ∧
      Line.scanFrom width number raws = .ok numbered) ↔
      List.Forall₂ (Line.Lies width) (raws.filter fun raw => !Text.isAllBlank raw) lines := by
  induction raws generalizing number lines with
  | nil =>
      rw [List.filter_nil, List.forall₂_nil_left_iff]
      simp [Line.scanFrom, eq_comm]
  | cons raw raws ih =>
      rw [Line.scanFrom]
      cases blank : Text.isAllBlank raw with
      | true => simp only [↓reduceIte, ih, blank, List.filter_cons, Bool.not_true,
          Bool.false_eq_true]
      | false =>
          rw [List.filter_cons_of_pos (by simp [blank]), List.forall₂_cons_left_iff]
          simp only [Bool.false_eq_true, ↓reduceIte]
          constructor
          · rintro ⟨numbered, rfl, scanned⟩
            split at scanned
            · cases scanned
            · next line scannedOne =>
              obtain ⟨later, scannedRest, rfl⟩ := map_eq_ok_iff.mp scanned
              exact ⟨line, _, Line.lies_of_scan blank scannedOne,
                (ih (number + 1)).mp ⟨later, rfl, scannedRest⟩, rfl⟩
          · rintro ⟨line, rest, lies, others, rfl⟩
            obtain ⟨later, rfl, scannedRest⟩ := (ih (number + 1)).mpr others
            refine ⟨⟨line, number⟩ :: later, rfl, ?_⟩
            rw [lies.scan_eq positive, scannedRest]
            rfl

/-- **The scanner finds the lines that a text has**, and it finds them in every text that has
any. -/
theorem scanAll_eq_ok_iff {width : Nat} (positive : 0 < width) {source : List Char}
    {lines : List Line} :
    (∃ numbered : List NumberedLine, numbered.map (·.toLine) = lines ∧
      Line.scanAll width source = .ok numbered) ↔ LaidOut width source lines :=
  Line.scanFrom_eq_ok_iff positive 1

/-- Lines that were laid out lie there one after the other. -/
theorem Line.forall₂_lies_map_raw (width : Nat) {lines : List Line}
    (solid : ∀ line ∈ lines, Text.Solid line.text) :
    List.Forall₂ (Line.Lies width)
      ((lines.map (·.raw width)).filter fun raw => !Text.isAllBlank raw) lines := by
  rw [List.filter_eq_self.mpr, List.forall₂_map_left_iff, List.forall₂_same]
  · exact fun line member => Line.lies_raw width (solid line member)
  · intro raw member
    obtain ⟨line, inside, rfl⟩ := List.mem_map.mp member
    rw [Line.raw_not_isAllBlank width (solid line inside), Bool.not_false]

/-- Lines are scanned one after the other, and the first refusal is the result. -/
theorem Line.scanFrom_append (width number : Nat) (raws more : List (List Char)) :
    Line.scanFrom width number (raws ++ more) =
      Line.scanFrom width number raws >>= fun lines =>
        (Line.scanFrom width (number + raws.length) more).map (lines ++ ·) := by
  induction raws generalizing number with
  | nil =>
      rw [List.nil_append, Line.scanFrom, ok_bind, List.length_nil, Nat.add_zero]
      cases Line.scanFrom width number more <;> rfl
  | cons raw raws ih =>
      have place : number + (raw :: raws).length = number + 1 + raws.length := by
        rw [List.length_cons]
        omega
      rw [List.cons_append, Line.scanFrom, Line.scanFrom, ih, place]
      split
      · rfl
      · split
        · rfl
        · cases Line.scanFrom width (number + 1) raws with
          | error => rfl
          | ok lines =>
              rw [ok_bind]
              cases Line.scanFrom width (number + 1 + raws.length) more <;> rfl

/-- No scanned line has a line feed in it when no line of the text has one. -/
theorem Line.newline_notMem_of_mem_scanFrom {width number : Nat} {raws : List (List Char)}
    {numbered : List NumberedLine} (scanned : Line.scanFrom width number raws = .ok numbered)
    (noFeed : ∀ raw ∈ raws, '\n' ∉ raw) : ∀ line ∈ numbered, '\n' ∉ line.text := by
  induction raws generalizing number numbered with
  | nil =>
      obtain rfl := Except.ok.inj scanned
      simp
  | cons raw raws ih =>
      obtain ⟨own, others⟩ := List.forall_mem_cons.mp noFeed
      rw [Line.scanFrom] at scanned
      split at scanned
      · exact ih scanned others
      · split at scanned
        · cases scanned
        · next line scannedOne =>
          obtain ⟨later, scannedRest, rfl⟩ := map_eq_ok_iff.mp scanned
          refine List.forall_mem_cons.mpr ⟨fun feed => own ?_, ih scannedRest others⟩
          exact Line.mem_of_scan scannedOne feed

/-- **No line of a script has a line feed in it.** -/
theorem newline_notMem_of_mem_scanAll {width : Nat} {source : List Char}
    {numbered : List NumberedLine} (scanned : Line.scanAll width source = .ok numbered) :
    ∀ line ∈ numbered, '\n' ∉ line.text :=
  Line.newline_notMem_of_mem_scanFrom scanned fun _ => Text.newline_notMem_of_mem_lines

/-! ## Whole scripts -/

/-- The lines of a script as they stand in the text, with an empty one between two actions. -/
def rawLines (width : Nat) : List Action → List (List Char)
  | [] => []
  | [action] => action.lines.map (·.raw width)
  | action :: next :: rest => action.lines.map (·.raw width) ++ [] :: rawLines width (next :: rest)

/-- The lines of actions as they stand in the text before other actions, so with an empty one after
each of them. -/
def rawLinesBefore (width : Nat) (actions : List Action) : List (List Char) :=
  actions.flatMap fun action => action.lines.map (·.raw width) ++ [[]]

/-- The lines of a script, taken apart between two actions. -/
theorem rawLines_append_cons (width : Nat) (earlier : List Action) (action : Action)
    (others : List Action) :
    rawLines width (earlier ++ action :: others) =
      rawLinesBefore width earlier ++ rawLines width (action :: others) := by
  unfold rawLinesBefore
  induction earlier with
  | nil => rfl
  | cons first earlier ih =>
      rw [List.flatMap_cons, List.append_assoc, ← ih, List.append_assoc, List.singleton_append]
      cases earlier <;> rfl

/-- The lines of actions lie there, and the empty ones are passed over. -/
theorem forall₂_lies_rawLinesBefore (width : Nat) {actions : List Action}
    (solid : ∀ action ∈ actions, ∀ line ∈ action.lines, Text.Solid line.text) :
    List.Forall₂ (Line.Lies width)
      ((rawLinesBefore width actions).filter fun raw => !Text.isAllBlank raw)
      (actions.flatMap Action.lines) := by
  unfold rawLinesBefore
  induction actions with
  | nil => exact .nil
  | cons action actions ih =>
      obtain ⟨own, others⟩ := List.forall_mem_cons.mp solid
      have empty : List.filter (fun raw => !Text.isAllBlank raw) [[]] = [] := rfl
      rw [List.flatMap_cons, List.flatMap_cons, List.filter_append, List.filter_append, empty,
        List.append_nil]
      exact List.rel_append (Line.forall₂_lies_map_raw width own) (ih others)

/-- Every line of a script ends with a line feed. -/
theorem flatMap_rawLines (width : Nat) (actions : List Action) :
    (rawLines width actions).flatMap (· ++ ['\n']) =
      List.intercalate ['\n'] (actions.map (·.write width)) := by
  have one (action : Action) :
      (action.lines.map (·.raw width)).flatMap (· ++ ['\n']) = action.write width := by
    rw [List.flatMap_map, Action.write]
    rfl
  induction actions with
  | nil => rfl
  | cons action actions ih =>
      cases actions with
      | nil => simp [rawLines, one, List.intercalate]
      | cons next rest =>
          rw [rawLines, List.flatMap_append, one, List.flatMap_cons, ih]
          simp [List.intercalate]

/-- The lines of a script of printable lines are found in its text. -/
theorem mem_rawLines {width : Nat} {actions : List Action} {raw : List Char}
    (member : raw ∈ rawLines width actions) :
    raw = [] ∨ ∃ action ∈ actions, ∃ line ∈ action.lines, line.raw width = raw := by
  induction actions with
  | nil => cases member
  | cons action actions ih =>
      have own (here : raw ∈ action.lines.map (·.raw width)) :
          ∃ other ∈ action :: actions, ∃ line ∈ other.lines, line.raw width = raw :=
        ⟨action, List.mem_cons_self, List.mem_map.mp here⟩
      cases actions with
      | nil => exact .inr (own member)
      | cons next rest =>
          rcases List.mem_append.mp member with here | after
          · exact .inr (own here)
          rcases List.mem_cons.mp after with rfl | later
          · exact .inl rfl
          · rcases ih later with empty | ⟨other, found, inside⟩
            · exact .inl empty
            · exact .inr ⟨other, List.mem_cons_of_mem _ found, inside⟩

/-- The text of a program has the lines that were laid out. -/
theorem lines_write (width : Nat) {program : Program} (unbroken : program.Unbroken) :
    Text.lines (program.write width) = rawLines width program.actions := by
  rw [Program.write, ← flatMap_rawLines]
  refine Text.lines_flatMap (fun raw member => ?_) (fun raw member => ?_)
  · rcases mem_rawLines member with rfl | ⟨action, found, line, inside, rfl⟩
    · exact List.not_mem_nil
    · intro feed
      rcases List.mem_append.mp feed with space | text
      · cases List.eq_of_mem_replicate space
      · exact ((unbroken action found).printable line inside).noFeed text
  · rcases mem_rawLines member with rfl | ⟨action, found, line, inside, rfl⟩
    · exact nofun
    · have solid := ((unbroken action found).printable line inside).solid
      obtain ⟨last, ends, notBlank⟩ := solid.last
      rw [Line.raw, List.getLast?_append_of_ne_nil _ solid.ne_nil, Option.mem_def.mp ends]
      rintro ⟨⟩
      cases notBlank

/-- **The text of a program has the lines that were laid out**, and no others that do not consist of
blanks alone. -/
theorem laidOut_write (width : Nat) {program : Program} (unbroken : program.Unbroken) :
    LaidOut width (program.write width) (program.actions.flatMap Action.lines) := by
  have solid : ∀ action ∈ program.actions, ∀ line ∈ action.lines, Text.Solid line.text :=
    fun action member line inside => ((unbroken action member).printable line inside).solid
  rw [LaidOut, lines_write width unbroken]
  rcases program.actions.eq_nil_or_concat' with empty | ⟨earlier, last, whole⟩
  · rw [empty]
    exact .nil
  · rw [whole] at solid ⊢
    obtain ⟨before, own⟩ := List.forall_mem_append.mp solid
    rw [rawLines_append_cons, List.filter_append, List.flatMap_append, List.flatMap_singleton]
    exact List.rel_append (forall₂_lies_rawLinesBefore width before)
      (Line.forall₂_lies_map_raw width (own last (List.mem_singleton_self last)))

end BlockScript.Script
