import BlockScript.Proofs.Script.Refusal

/-!
# What the reader sees of a script

The reader passes over blank lines, and of every other line the blanks at its end do not count. What
it sees are the visible lines of a script, so scripts that have them in common are read alike
(`Program.parse_of_visible`): as the same program, or with the same refusal at corresponding lines.

The number of a line is the one thing about it that depends on blank lines. The reader takes the
numbers along and puts them in its refusals, but it decides nothing by them: with other numbers for
the lines it does the same, up to these numbers (`Progress.step_renumber` for one line,
`Program.ofLines_renumber` for all of them). So every line may be numbered by its rank among the
visible ones, which is the number that it has when the visible lines are all there is
(`Line.scanFrom_visible`).
-/

set_option autoImplicit false

namespace BlockScript.Script

/-! ## Other numbers for lines -/

section

variable (place : Nat → Nat)

/-- The line with another number. -/
def NumberedLine.renumber (line : NumberedLine) : NumberedLine := ⟨line.toLine, place line.number⟩

/-- The refusal, about a line with another number. -/
def ReadError.renumber (error : ReadError) : ReadError := ⟨place error.line, error.fault⟩

/-- The conditional, opened by a line with another number. -/
def OpenIf.renumber (conditional : OpenIf) : OpenIf :=
  { conditional with line := place conditional.line }

/-- The action, opened by a line with another number, with the conditionals in it. -/
def OpenAction.renumber (action : OpenAction) : OpenAction :=
  { action with line := place action.line, ifs := action.ifs.map (.renumber place) }

/-- The same place, where lines have other numbers. -/
def Placed.renumber : Placed → Placed
  | inside action => inside (action.renumber place)
  | after action => after action

/-- The same progress, where lines have other numbers. -/
def Progress.renumber (progress : Progress) : Progress :=
  { progress with current? := progress.current?.map (.renumber place) }

/-- The result of a step where lines have other numbers: `f` gives them to what it results in. -/
def renumbered {α : Type} (f : α → α) (result : Except ReadError α) : Except ReadError α :=
  (result.map f).mapError (.renumber place)

end

section

variable {place : Nat → Nat} {α β : Type}

@[simp] theorem renumbered_ok (f : α → α) (value : α) :
    renumbered place f (.ok value) = .ok (f value) :=
  rfl

@[simp] theorem renumbered_error (f : α → α) (error : ReadError) :
    renumbered place f (.error error) = .error (error.renumber place) :=
  rfl

/-- A sequence does the same with other numbers when its steps do. -/
theorem renumbered_bind {f : α → α} {g : β → β} {first : Except ReadError α}
    {next other : α → Except ReadError β}
    (later : ∀ value, other (f value) = renumbered place g (next value)) :
    (renumbered place f first >>= other) = renumbered place g (first >>= next) := by
  cases first with
  | error error => rfl
  | ok value => exact later value

/-! ## Closing -/

theorem OpenIf.close_renumber (conditional : OpenIf) (block : List Statement) :
    (conditional.renumber place).close block = renumbered place id (conditional.close block) := by
  unfold close
  split
  · rfl
  · simp only [renumber]
    cases conditional.thenBranch? <;> rfl

theorem OpenAction.closeBody_renumber (action : OpenAction) (block : List Statement) :
    (action.renumber place).closeBody block = renumbered place id (action.closeBody block) := by
  unfold closeBody
  split <;> rfl

theorem OpenAction.close_renumber (action : OpenAction) :
    (action.renumber place).close = renumbered place id action.close := by
  have outwards (ifs : List OpenIf) (block : List Statement) :
      (ifs.map (OpenIf.renumber place)).foldlM (fun block conditional => conditional.close block)
          block =
        renumbered place id
          (ifs.foldlM (fun block conditional => conditional.close block) block) := by
    induction ifs generalizing block with
    | nil => rfl
    | cons conditional ifs ih =>
        rw [List.map_cons, List.foldlM_cons, List.foldlM_cons, OpenIf.close_renumber]
        exact renumbered_bind ih
  simp only [close, renumber, outwards]
  exact renumbered_bind action.closeBody_renumber

/-! ## One line -/

theorem OpenAction.say_renumber (action : OpenAction) (line : NumberedLine) (ifs : List OpenIf)
    (block : List Statement) :
    (action.renumber place).say (line.renumber place) (ifs.map (.renumber place)) block =
      renumbered place (.renumber place) (action.say line ifs block) := by
  unfold say
  have text : (line.renumber place).text = line.text := rfl
  rw [text]
  split <;> rfl

/-- What a line does to an action does not depend on the numbers of lines. -/
theorem OpenAction.placeFrom_renumber (action : OpenAction) (line : NumberedLine)
    (ifs : List OpenIf) (block : List Statement) :
    (action.renumber place).placeFrom (line.renumber place) (ifs.map (.renumber place)) block =
      renumbered place (.renumber place) (action.placeFrom line ifs block) := by
  have same : isElse (line.renumber place) = isElse line := rfl
  have starts : startsHeader (line.renumber place) = startsHeader line := rfl
  have depth : (line.renumber place).depth = line.depth := rfl
  have closes (block : List Statement) :
      ((action.renumber place).closeBody block).map Placed.after =
        renumbered place (.renumber place) ((action.closeBody block).map .after) := by
    rw [closeBody_renumber]
    cases action.closeBody block <;> rfl
  have stays (ifs : List OpenIf) (block : List Statement) :
      ((action.renumber place).say (line.renumber place) (ifs.map (.renumber place)) block).map
          Placed.inside =
        renumbered place (.renumber place) ((action.say line ifs block).map .inside) := by
    rw [say_renumber]
    cases action.say line ifs block <;> rfl
  -- From the innermost conditional outwards, as the line closes one after the other.
  induction ifs generalizing block with
  | nil =>
      have own := stays [] block
      rw [List.map_nil] at own ⊢
      rw [placeFrom, placeFrom, same, starts, depth, closes, own]
      split
      · rfl
      split
      · rfl
      split <;> rfl
  | cons conditional ifs ih =>
      have own := stays (conditional :: ifs) block
      have branch : (conditional.renumber place).thenBranch? = conditional.thenBranch? := rfl
      rw [List.map_cons] at own ⊢
      rw [placeFrom, placeFrom, same, depth, own, List.length_map, OpenIf.close_renumber, branch]
      split
      · refine renumbered_bind fun around => ?_
        split
        · rfl
        · exact ih around
      · split <;> rfl

theorem Progress.openAction_renumber (finished : List Action) (line : NumberedLine) :
    openAction finished (line.renumber place) =
      renumbered place (.renumber place) (openAction finished line) := by
  unfold openAction
  have depth : (line.renumber place).depth = line.depth := rfl
  have text : (line.renumber place).text = line.text := rfl
  rw [depth, text]
  split
  · rfl
  · split <;> rfl

/-- **One line is read alike whatever the numbers of lines are.** -/
theorem Progress.step_renumber (progress : Progress) (line : NumberedLine) :
    (progress.renumber place).step (line.renumber place) =
      renumbered place (.renumber place) (progress.step line) := by
  obtain ⟨finished, current?⟩ := progress
  cases current? with
  | none => exact openAction_renumber finished line
  | some action =>
      have places : (action.renumber place).place (line.renumber place) =
          renumbered place (.renumber place) (action.place line) :=
        action.placeFrom_renumber line action.ifs action.block
      simp only [renumber, step, Option.map_some, places]
      cases action.place line with
      | error error => rfl
      | ok placed =>
          cases placed with
          | inside next => rfl
          | after done => exact openAction_renumber (done :: finished) line

theorem Progress.finish_renumber (progress : Progress) :
    (progress.renumber place).finish = renumbered place id progress.finish := by
  obtain ⟨finished, current?⟩ := progress
  cases current? with
  | none => rfl
  | some action =>
      simp only [finish, renumber, Option.map_some, OpenAction.close_renumber]
      cases action.close <;> rfl

/-- **Lines are read alike whatever their numbers are**, and a refusal is about the line with the
other number. -/
theorem Program.ofLines_renumber (lines : List NumberedLine) :
    Program.ofLines (lines.map (.renumber place)) =
      renumbered place id (Program.ofLines lines) := by
  have run (progress : Progress) :
      (lines.map (.renumber place)).foldlM Progress.step (progress.renumber place) =
        renumbered place (.renumber place) (lines.foldlM Progress.step progress) := by
    induction lines generalizing progress with
    | nil => rfl
    | cons line lines ih =>
        rw [List.map_cons, List.foldlM_cons, List.foldlM_cons, Progress.step_renumber]
        exact renumbered_bind ih
  have start : Progress.start.renumber place = .start := rfl
  have whole := run .start
  rw [start] at whole
  rw [ofLines, ofLines, whole]
  exact renumbered_bind Progress.finish_renumber

end

/-! ## The visible lines -/

/-- The lines that are not blank, without the blanks at their ends. -/
def visible (raws : List (List Char)) : List (List Char) :=
  (raws.filter fun raw => !Text.isAllBlank raw).map Text.trimEnd

theorem visible_cons_of_blank {raw : List Char} (blank : Text.isAllBlank raw = true)
    (raws : List (List Char)) : visible (raw :: raws) = visible raws := by
  rw [visible, List.filter_cons_of_neg (by simp [blank]), visible]

theorem visible_cons_of_notBlank {raw : List Char} (notBlank : Text.isAllBlank raw = false)
    (raws : List (List Char)) : visible (raw :: raws) = Text.trimEnd raw :: visible raws := by
  rw [visible, List.filter_cons_of_pos (by simp [notBlank]), List.map_cons, visible]

/-- Trimming a line at its end changes nothing about the spaces at its start. -/
theorem span_spaces_trimEnd {raw : List Char} (notBlank : Text.isAllBlank raw = false) :
    (Text.trimEnd raw).takeWhile (· == ' ') = raw.takeWhile (· == ' ') ∧
      (Text.trimEnd raw).dropWhile (· == ' ') = Text.trimEnd (raw.dropWhile (· == ' ')) ∧
      (Text.trimEnd (raw.dropWhile (· == ' '))).head? = (raw.dropWhile (· == ' ')).head? := by
  have whole := List.takeWhile_append_dropWhile (p := (· == ' ')) (l := raw)
  have spaces : ∀ c ∈ raw.takeWhile (· == ' '), (c == ' ') = true :=
    fun c member => by simpa using List.mem_takeWhile_imp member
  have content : Text.isAllBlank (raw.dropWhile (· == ' ')) = false := by
    rw [← whole, Text.isAllBlank, List.all_append] at notBlank
    refine (Bool.and_eq_false_imp.mp notBlank) (List.all_eq_true.mpr fun c member => ?_)
    rw [beq_iff_eq.mp (spaces c member)]
    exact Text.isBlank_space
  have trimmed : Text.trimEnd raw =
      raw.takeWhile (· == ' ') ++ Text.trimEnd (raw.dropWhile (· == ' ')) := by
    conv_lhs => rw [← whole]
    exact Text.trimEnd_append content _
  have left : Text.trimEnd (raw.dropWhile (· == ' ')) ≠ [] := fun empty =>
    Bool.false_ne_true (content.symm.trans (Text.trimEnd_eq_nil_iff.mp empty))
  have starts := Text.head?_trimEnd left
  -- What is left of the content starts as the content does, so not with a space.
  obtain ⟨c, rest, form⟩ := List.exists_cons_of_ne_nil left
  have noSpace := List.head?_dropWhile_not (· == ' ') raw
  rw [← starts, form, List.head?_cons] at noSpace
  refine ⟨?_, ?_, starts⟩
  · rw [trimmed, List.takeWhile_append_of_pos spaces, form,
      List.takeWhile_cons_of_neg (by simp [noSpace]), List.append_nil]
  · rw [trimmed, List.dropWhile_append_of_pos spaces, form,
      List.dropWhile_cons_of_neg (by simp [noSpace])]

/-- **The blanks at the end of a line do not matter to the scanner.** -/
theorem Line.scan_trimEnd {raw : List Char} (notBlank : Text.isAllBlank raw = false)
    (width : Nat) : Line.scan width (Text.trimEnd raw) = Line.scan width raw := by
  obtain ⟨spaces, content, starts⟩ := span_spaces_trimEnd notBlank
  simp only [Line.scan, spaces, content, starts, Text.trimEnd_trimEnd]

/-- **Lines are scanned like the visible ones among them**, when every line is numbered by how many
visible lines come before it. -/
theorem Line.scanFrom_visible {width number rank : Nat} {raws : List (List Char)}
    {place : Nat → Nat}
    (ranks : ∀ before, place (number + before) = rank + (visible (raws.take before)).length) :
    ((Line.scanFrom width number raws).map (List.map (NumberedLine.renumber place))).mapError
        (fun refusal => (place refusal.1, refusal.2)) =
      Line.scanFrom width rank (visible raws) := by
  induction raws generalizing number rank with
  | nil => rfl
  | cons raw raws ih =>
      obtain rfl : place number = rank := ranks 0
      have later (before : Nat) : place (number + 1 + before) =
          place number + (visible (raw :: raws.take before)).length := by
        rw [Nat.add_assoc, Nat.add_comm 1]
        exact ranks (before + 1)
      rw [scanFrom]
      -- A blank line has a number and no rank.
      cases blank : Text.isAllBlank raw with
      | true =>
          rw [if_pos rfl, visible_cons_of_blank blank]
          exact ih fun before => by rw [later, visible_cons_of_blank blank]
      | false =>
          have rest := @ih (number + 1) (place number + 1) fun before => by
            rw [later, visible_cons_of_notBlank blank, List.length_cons]
            omega
          rw [if_neg Bool.false_ne_true, visible_cons_of_notBlank blank, scanFrom,
            Text.isAllBlank_trimEnd, blank, if_neg Bool.false_ne_true, scan_trimEnd blank, ← rest]
          cases scan width raw with
          | error fault => rfl
          | ok line => cases scanFrom width (number + 1) raws <;> rfl

/-! ## Scripts with the same visible lines -/

/-- The rank among the visible lines of the line with a number, if it is one of them. -/
def rankOf (raws : List (List Char)) (number : Nat) : Nat :=
  1 + (visible (raws.take (number - 1))).length

/-- What is made of visible lines that are numbered by their ranks. -/
def Program.ofVisible (width : Nat) (raws : List (List Char)) : Except ReadError Program :=
  match Line.scanFrom (max 1 width) 1 raws with
  | .error (rank, fault) => .error ⟨rank, .indent fault⟩
  | .ok lines => Program.ofLines lines

/-- **A script is read like its visible lines alone**, up to the numbers of the lines. -/
theorem Program.renumbered_parse (width : Nat) (source : String) :
    renumbered (rankOf (Text.lines source.toList)) id (Program.parse width source) =
      Program.ofVisible width (visible (Text.lines source.toList)) := by
  have scanned := @Line.scanFrom_visible (max 1 width) 1 1 (Text.lines source.toList)
    (rankOf (Text.lines source.toList)) fun before => by rw [rankOf, Nat.add_sub_cancel_left]
  rw [parse_eq_of_lines rfl, ofVisible, ← scanned]
  cases Line.scanFrom (max 1 width) 1 (Text.lines source.toList) with
  | error refusal => rfl
  | ok lines => exact (ofLines_renumber lines).symm

/-- A text has a visible line with a number, which has a rank among the visible lines; both count
from one. -/
def HasVisible (raws : List (List Char)) (number rank : Nat) : Prop :=
  ∃ before raw after, raws = before ++ raw :: after ∧ Text.isAllBlank raw = false ∧
    number = before.length + 1 ∧ rank = (visible before).length + 1

/-- What is refused is a visible line. -/
theorem Program.hasVisible_of_parse_eq_error {width : Nat} {source : String} {error : ReadError}
    (fails : Program.parse width source = .error error) :
    HasVisible (Text.lines source.toList) error.line
      (rankOf (Text.lines source.toList) error.line) := by
  have ranked {before after : List (List Char)} {raw : List Char}
      (whole : Text.lines source.toList = before ++ raw :: after)
      (number : error.line = before.length + 1) :
      rankOf (Text.lines source.toList) error.line = (visible before).length + 1 := by
    rw [rankOf, whole, number, Nat.add_sub_cancel, List.take_left, Nat.add_comm]
  rw [parse_eq_of_lines rfl] at fails
  split at fails
  · next scanFails =>
    obtain rfl := Except.error.inj fails
    obtain ⟨before, raw, after, whole, number, notBlank, -⟩ :=
      Line.exists_of_scanFrom_eq_error scanFails
    rw [Nat.add_comm] at number
    exact ⟨before, raw, after, whole, notBlank, number, ranked whole number⟩
  · next scanned =>
    obtain ⟨earlier, line, later, rfl, own, -⟩ := exists_of_ofLines_eq_error fails
    obtain ⟨before, raw, after, whole, number, notBlank, -⟩ :=
      Line.exists_of_scanFrom_eq_append scanned
    rw [own, Nat.add_comm] at number
    exact ⟨before, raw, after, whole, notBlank, number, ranked whole number⟩

/-- **Scripts with the same visible lines are read alike.** They are the same program, or both are
refused for the same reason, at lines that have the same rank among the visible ones. -/
theorem Program.parse_of_visible {width : Nat} {first second : String}
    (same : visible (Text.lines first.toList) = visible (Text.lines second.toList)) :
    (∃ program, Program.parse width first = .ok program ∧
      Program.parse width second = .ok program) ∨
    ∃ fault line other rank, Program.parse width first = .error ⟨line, fault⟩ ∧
      Program.parse width second = .error ⟨other, fault⟩ ∧
      HasVisible (Text.lines first.toList) line rank ∧
      HasVisible (Text.lines second.toList) other rank := by
  have alike := renumbered_parse width first
  rw [same, ← renumbered_parse width second] at alike
  cases own : Program.parse width first with
  | ok program =>
      cases others : Program.parse width second with
      | ok other =>
          rw [own, others] at alike
          exact .inl ⟨program, rfl, alike.symm⟩
      | error refusal =>
          rw [own, others] at alike
          cases alike
  | error error =>
      cases others : Program.parse width second with
      | ok other =>
          rw [own, others] at alike
          cases alike
      | error refusal =>
          have stands := hasVisible_of_parse_eq_error own
          have standsOther := hasVisible_of_parse_eq_error others
          rw [own, others, renumbered_error, renumbered_error] at alike
          obtain ⟨line, fault⟩ := error
          obtain ⟨other, otherFault⟩ := refusal
          obtain ⟨ranks, sameFault⟩ := ReadError.mk.inj (Except.error.inj alike)
          obtain rfl : fault = otherFault := sameFault
          rw [← ranks] at standsOther
          exact .inr ⟨fault, line, other, _, rfl, rfl, stands, standsOther⟩

/-- A branch without statements, in a script without and with blank lines in it. -/
theorem Program.parse_of_visible_branch :
    let first := "DEFINE ACTION a ON EVERY 1s DO\nIF x THEN\nELSE\n"
    let second := "\nDEFINE ACTION a ON EVERY 1s DO\t\r\n  \nIF x THEN\u00a0\n\r\nELSE"
    ∃ fault rank, Program.parse 2 first = .error ⟨2, fault⟩ ∧
      Program.parse 2 second = .error ⟨4, fault⟩ ∧
      HasVisible (Text.lines first.toList) 2 rank ∧
      HasVisible (Text.lines second.toList) 4 rank := by
  intro first second
  have same : visible (Text.lines first.toList) = visible (Text.lines second.toList) := by
    decide +kernel
  have fails : Program.parse 2 first = .error ⟨2, .emptyBlock .THEN⟩ := by decide +kernel
  have failsToo : Program.parse 2 second = .error ⟨4, .emptyBlock .THEN⟩ := by decide +kernel
  rcases @parse_of_visible 2 first second same with ⟨program, reads, -⟩ |
    ⟨fault, line, other, rank, own, others, stands, standsOther⟩
  · rw [fails] at reads
    cases reads
  · obtain ⟨rfl, rfl⟩ := ReadError.mk.inj (Except.error.inj (fails.symm.trans own))
    obtain ⟨rfl, -⟩ := ReadError.mk.inj (Except.error.inj (failsToo.symm.trans others))
    exact ⟨_, rank, fails, failsToo, stands, standsOther⟩

end BlockScript.Script
