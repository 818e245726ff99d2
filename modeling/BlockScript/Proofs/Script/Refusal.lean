import BlockScript.Proofs.Script.Layout
import BlockScript.Proofs.Script.Reading

/-!
# Where a script is refused

A refusal is about one line of the script, and it takes no line after that one to see it. The
script cut after that line is refused for the same reason, and so is every other script that starts
with the same lines, unless the reason is that a block stayed empty (`Program.parse_refused`).

Indentation is looked at before anything else, and line by line
(`Line.exists_of_scanFrom_eq_error`). After that the reader goes through the lines once. What it
refuses is the line that it has come to, or a block that this line, or the end, closes while it is
empty. A block is empty only right after the line that opened it (`Progress.fresh_of_step`), so in
this case the end alone closes it just as well: with the lines up to that one the reader finishes
with the same refusal (`Program.exists_of_ofLines_eq_error`).
-/

set_option autoImplicit false

namespace BlockScript.Script

/-! ## Indentation -/

/-- The lines of a text are scanned up to the first one that is refused. -/
theorem Line.exists_of_scanFrom_eq_error {width number place : Nat} {fault : IndentError}
    {raws : List (List Char)} (fails : Line.scanFrom width number raws = .error (place, fault)) :
    ∃ before raw after, raws = before ++ raw :: after ∧ place = number + before.length ∧
      Text.isAllBlank raw = false ∧
        ∀ more, Line.scanFrom width number (before ++ raw :: more) = .error (place, fault) := by
  induction raws generalizing number with
  | nil => cases fails
  | cons first raws ih =>
      -- What comes after a line that is passed over, or scanned, is refused later.
      have later (failsLater : Line.scanFrom width (number + 1) raws = .error (place, fault))
          (passes : ∀ others, Line.scanFrom width (number + 1) others = .error (place, fault) →
            Line.scanFrom width number (first :: others) = .error (place, fault)) :
          ∃ before raw after, first :: raws = before ++ raw :: after ∧
            place = number + before.length ∧ Text.isAllBlank raw = false ∧
              ∀ more, Line.scanFrom width number (before ++ raw :: more) =
                .error (place, fault) := by
        obtain ⟨before, raw, after, rfl, rfl, notBlank, same⟩ := ih failsLater
        refine ⟨first :: before, raw, after, rfl, ?_, notBlank, fun more => passes _ (same more)⟩
        rw [List.length_cons]
        omega
      rw [Line.scanFrom] at fails
      split at fails
      · next blank =>
        refine later fails fun others failsOthers => ?_
        rw [Line.scanFrom, if_pos blank, failsOthers]
      · next notBlank =>
        split at fails
        · next own refused =>
          obtain ⟨rfl, rfl⟩ := Prod.mk.inj (Except.error.inj fails)
          refine ⟨[], first, raws, rfl, rfl, Bool.eq_false_iff.mpr notBlank, fun more => ?_⟩
          rw [List.nil_append, Line.scanFrom, if_neg notBlank, refused]
        · next line scanned =>
          refine later (map_eq_error_iff.mp fails) fun others failsOthers => ?_
          rw [Line.scanFrom, if_neg notBlank, scanned, failsOthers]
          rfl

/-- A line that is found in a text is one of its lines, and the lines before it are found in the
text before. -/
theorem Line.exists_of_scanFrom_eq_append {width number : Nat} {raws : List (List Char)}
    {earlier later : List NumberedLine} {line : NumberedLine}
    (scanned : Line.scanFrom width number raws = .ok (earlier ++ line :: later)) :
    ∃ before raw after, raws = before ++ raw :: after ∧ line.number = number + before.length ∧
      Text.isAllBlank raw = false ∧
        Line.scanFrom width number (before ++ [raw]) = .ok (earlier ++ [line]) := by
  induction raws generalizing number earlier with
  | nil =>
      have none := Except.ok.inj scanned
      exact absurd none.symm (by simp)
  | cons first raws ih =>
      rw [Line.scanFrom] at scanned
      split at scanned
      · next blank =>
        obtain ⟨before, raw, after, rfl, place, notBlank, same⟩ := ih scanned
        refine ⟨first :: before, raw, after, rfl, ?_, notBlank, ?_⟩
        · rw [place, List.length_cons]
          omega
        · rw [List.cons_append, Line.scanFrom, if_pos blank, same]
      · next notBlank =>
        split at scanned
        · cases scanned
        · next own scannedOne =>
          obtain ⟨others, scannedRest, whole⟩ := map_eq_ok_iff.mp scanned
          cases earlier with
          | nil =>
              obtain ⟨rfl, rfl⟩ := List.cons.inj whole
              refine ⟨[], first, raws, rfl, rfl, Bool.eq_false_iff.mpr notBlank, ?_⟩
              rw [List.nil_append, Line.scanFrom, if_neg notBlank, scannedOne]
              rfl
          | cons head earlier =>
              obtain ⟨rfl, rfl⟩ := List.cons.inj whole
              obtain ⟨before, raw, after, rfl, place, visible, same⟩ := ih scannedRest
              refine ⟨first :: before, raw, after, rfl, ?_, visible, ?_⟩
              · rw [place, List.length_cons]
                omega
              · rw [List.cons_append, Line.scanFrom, if_neg notBlank, scannedOne, same]
                rfl

/-! ## Blocks without statements -/

/-- The number of the line that opened the innermost block. -/
def OpenAction.opener (action : OpenAction) : Nat :=
  match action.ifs with
  | [] => action.line
  | conditional :: _ => conditional.line

/-- The innermost block has a statement, unless it was opened by the line with a given number. -/
def Progress.Fresh (progress : Progress) (number : Nat) : Prop :=
  ∀ action, progress.current? = some action → action.block = [] → action.opener = number

/-- Only a line that opens a block leaves an empty one behind. -/
theorem OpenAction.opener_of_inside {action next : OpenAction} {line : NumberedLine}
    (places : action.place line = .ok (.inside next)) (empty : next.block = []) :
    next.opener = line.number := by
  obtain ⟨outer, around, -, lands⟩ := placeFrom_cases places
  cases lands with
  | sentence _ adds =>
      unfold say at adds
      split at adds
      · cases adds
      · obtain rfl := Except.ok.inj adds
        cases empty
      · obtain rfl := Except.ok.inj adds
        rfl
  | turn _ _ => rfl

theorem Progress.fresh_of_openAction {finished : List Action} {line : NumberedLine}
    {next : Progress} (opened : openAction finished line = .ok next) : next.Fresh line.number := by
  unfold openAction at opened
  split at opened
  · cases opened
  · split at opened
    · cases opened
    · obtain rfl := Except.ok.inj opened
      rintro action ⟨⟩ -
      rfl

/-- **After a line only a block that this line opened is empty.** -/
theorem Progress.fresh_of_step {progress next : Progress} {line : NumberedLine}
    (steps : progress.step line = .ok next) : next.Fresh line.number := by
  unfold step at steps
  split at steps
  · exact fresh_of_openAction steps
  · split at steps
    · cases steps
    · next inner places =>
      obtain rfl := Except.ok.inj steps
      rintro _ ⟨⟩ empty
      exact OpenAction.opener_of_inside places empty
    · exact fresh_of_openAction steps

/-! ## Closing -/

/-- A block with a statement can be closed, and the block around it has one then. -/
theorem OpenIf.exists_close (conditional : OpenIf) {block : List Statement}
    (filled : block ≠ []) : ∃ around, conditional.close block = .ok around ∧ around ≠ [] := by
  have notEmpty := List.isEmpty_eq_false_iff.mpr filled
  unfold close
  simp only [notEmpty, Bool.false_eq_true, ↓reduceIte]
  cases conditional.thenBranch? <;> exact ⟨_, rfl, List.cons_ne_nil _ _⟩

/-- Where the innermost block has a statement, everything can be closed. -/
theorem OpenAction.exists_close {action : OpenAction} (filled : action.block ≠ []) :
    ∃ done, action.close = .ok done := by
  have outwards (ifs : List OpenIf) : ∀ {block : List Statement}, block ≠ [] →
      ∃ body, ifs.foldlM (fun block conditional => conditional.close block) block = .ok body ∧
        body ≠ [] := by
    induction ifs with
    | nil => exact fun {block} filled => ⟨block, rfl, filled⟩
    | cons conditional ifs ih =>
        intro block filled
        obtain ⟨around, closes, filledAround⟩ := conditional.exists_close filled
        obtain ⟨body, rest, filledBody⟩ := ih filledAround
        exact ⟨body, by rw [List.foldlM_cons, closes, ok_bind, rest], filledBody⟩
  obtain ⟨body, closes, filledBody⟩ := outwards action.ifs filled
  have notEmpty := List.isEmpty_eq_false_iff.mpr filledBody
  refine ⟨⟨action.header.name, action.header.every, body.reverse⟩, ?_⟩
  simp only [close, closes, ok_bind, closeBody, notEmpty, Bool.false_eq_true, ↓reduceIte]

/-- An empty block cannot be closed. -/
theorem OpenAction.close_of_empty {action : OpenAction} (empty : action.block = []) :
    ∃ opener, action.close = .error ⟨action.opener, .emptyBlock opener⟩ := by
  unfold close opener
  rw [empty]
  cases action.ifs with
  | nil => exact ⟨_, rfl⟩
  | cons conditional ifs => exact ⟨_, rfl⟩

/-- **At the end an empty block is refused**, at the line that opened it. -/
theorem Progress.eq_of_finish_eq_error {progress : Progress} {number : Nat} {error : ReadError}
    (fresh : progress.Fresh number) (fails : progress.finish = .error error) :
    ∃ opener, error = ⟨number, .emptyBlock opener⟩ := by
  obtain ⟨finished, current?⟩ := progress
  cases current? with
  | none => cases fails
  | some action =>
      have failsToClose : action.close = .error error := map_eq_error_iff.mp fails
      have empty : action.block = [] := by
        by_contra filled
        obtain ⟨done, closes⟩ := OpenAction.exists_close filled
        rw [closes] at failsToClose
        cases failsToClose
      obtain ⟨opener, refused⟩ := OpenAction.close_of_empty empty
      rw [refused, fresh action rfl empty] at failsToClose
      exact ⟨opener, (Except.error.inj failsToClose).symm⟩

/-! ## What is refused -/

theorem OpenAction.line_of_say_eq_error {action : OpenAction} {line : NumberedLine}
    {ifs : List OpenIf} {block : List Statement} {error : ReadError}
    (fails : action.say line ifs block = .error error) : error.line = line.number := by
  unfold say at fails
  split at fails
  · obtain rfl := Except.error.inj fails
    rfl
  · cases fails
  · cases fails

/-- A line that is not placed is refused itself, or for a block that it closes and that the end
closes too. -/
theorem OpenAction.of_placeFrom_eq_error {action : OpenAction} {line : NumberedLine}
    {ifs : List OpenIf} {block : List Statement} {error : ReadError}
    (fails : action.placeFrom line ifs block = .error error) :
    error.line = line.number ∨
      (ifs.foldlM (fun block conditional => conditional.close block) block >>= action.closeBody) =
        .error error := by
  induction ifs generalizing block with
  | nil =>
      rw [placeFrom] at fails
      split at fails
      · exact .inr (map_eq_error_iff.mp fails)
      split at fails
      · obtain rfl := Except.error.inj fails
        exact .inl rfl
      split at fails
      · exact .inr (map_eq_error_iff.mp fails)
      · exact .inl (line_of_say_eq_error (map_eq_error_iff.mp fails))
  | cons conditional ifs ih =>
      rw [List.foldlM_cons]
      rw [placeFrom] at fails
      split at fails
      · rcases bind_eq_error_iff.mp fails with empty | ⟨around, closes, rest⟩
        · exact .inr (by rw [empty]; rfl)
        · split at rest
          · cases rest
          · rw [closes]
            exact ih rest
      · split at fails
        · obtain rfl := Except.error.inj fails
          exact .inl rfl
        · exact .inl (line_of_say_eq_error (map_eq_error_iff.mp fails))

theorem Progress.line_of_openAction_eq_error {finished : List Action} {line : NumberedLine}
    {error : ReadError} (fails : openAction finished line = .error error) :
    error.line = line.number := by
  unfold openAction at fails
  split at fails
  · obtain rfl := Except.error.inj fails
    rfl
  · split at fails
    · obtain rfl := Except.error.inj fails
      rfl
    · cases fails

/-- **A line is refused itself, or for a block that the end would close as well.** -/
theorem Progress.of_step_eq_error {progress : Progress} {line : NumberedLine} {error : ReadError}
    (fails : progress.step line = .error error) :
    error.line = line.number ∨ progress.finish = .error error := by
  obtain ⟨finished, current?⟩ := progress
  cases current? with
  | none => exact .inl (line_of_openAction_eq_error fails)
  | some action =>
      simp only [step] at fails
      split at fails
      · next placeFails =>
        obtain rfl := Except.error.inj fails
        refine (OpenAction.of_placeFrom_eq_error placeFails).imp_right fun closeFails => ?_
        exact map_eq_error_iff.mpr closeFails
      · cases fails
      · exact .inl (line_of_openAction_eq_error fails)

/-- Where lines are refused after some progress, it is at the end of that progress already or at one
of the lines. -/
theorem Progress.of_run_eq_error {progress : Progress} {lines : List NumberedLine}
    {error : ReadError}
    (fails : (lines.foldlM step progress >>= finish) = .error error) :
    progress.finish = .error error ∨
      ∃ earlier line later, lines = earlier ++ line :: later ∧ line.number = error.line ∧
        ((earlier ++ [line]).foldlM step progress >>= finish) = .error error ∧
        ((∀ opener, error.fault ≠ .emptyBlock opener) →
          (earlier ++ [line]).foldlM step progress = .error error) := by
  induction lines generalizing progress with
  | nil => exact .inl fails
  | cons line lines ih =>
      have alone : ([] ++ [line]).foldlM step progress = progress.step line := by
        rw [List.nil_append, List.foldlM_cons]
        exact bind_pure _
      rw [List.foldlM_cons, bind_assoc] at fails
      rcases bind_eq_error_iff.mp fails with refused | ⟨next, steps, rest⟩
      · refine (of_step_eq_error refused).symm.imp_right fun own => ?_
        refine ⟨[], line, lines, rfl, own.symm, ?_, fun _ => alone.trans refused⟩
        rw [alone, refused]
        rfl
      rcases ih rest with atEnd | ⟨earlier, other, later, rfl, own, whole, stops⟩
      · -- The end is reached right after this line, which opened the block that stayed empty.
        obtain ⟨opener, rfl⟩ := eq_of_finish_eq_error (fresh_of_step steps) atEnd
        refine .inr ⟨[], line, lines, rfl, rfl, ?_, fun other => absurd rfl (other opener)⟩
        rw [alone, steps, ok_bind, atEnd]
      · refine .inr ⟨line :: earlier, other, later, rfl, own, ?_, fun differs => ?_⟩
        · rw [List.cons_append, List.foldlM_cons, steps, ok_bind, whole]
        · rw [List.cons_append, List.foldlM_cons, steps, ok_bind, stops differs]

/-- **A refusal is about a line, and it takes the lines up to that one to see it.** With these lines
the reader finishes with the same refusal, and it does not even come to the end of them, unless the
reason is that a block stayed empty. -/
theorem Program.exists_of_ofLines_eq_error {lines : List NumberedLine} {error : ReadError}
    (fails : Program.ofLines lines = .error error) :
    ∃ earlier line later, lines = earlier ++ line :: later ∧ line.number = error.line ∧
      Program.ofLines (earlier ++ [line]) = .error error ∧
      ((∀ opener, error.fault ≠ .emptyBlock opener) →
        (earlier ++ [line]).foldlM Progress.step .start = .error error) :=
  (Progress.of_run_eq_error fails).resolve_left nofun

/-! ## Whole scripts -/

/-- A script is read line by line. -/
theorem Program.parse_eq_of_lines {width : Nat} {source : String} {raws : List (List Char)}
    (lines : Text.lines source.toList = raws) :
    Program.parse width source =
      match Line.scanFrom (max 1 width) 1 raws with
      | .error (number, fault) => .error ⟨number, .indent fault⟩
      | .ok numbered => Program.ofLines numbered := by
  rw [← lines]
  rfl

/-- **A refusal is about one line of the script**, which does not consist of blanks alone. The
script cut after that line is refused for the same reason. Every other script that starts with the
same lines is refused as well, unless the reason is that a block stayed empty. -/
theorem Program.parse_refused {width : Nat} {source : String} {error : ReadError}
    (fails : Program.parse width source = .error error) :
    ∃ before raw after, Text.lines source.toList = before ++ raw :: after ∧
      error.line = before.length + 1 ∧ Text.isAllBlank raw = false ∧
      (∃ cut rest : String, source = cut ++ rest ∧
        Text.lines cut.toList = before ++ [raw] ∧ Text.lines rest.toList = after) ∧
      (∀ cut : String, Text.lines cut.toList = before ++ [raw] →
        Program.parse width cut = .error error) ∧
      ((∀ opener, error.fault ≠ .emptyBlock opener) →
        ∀ (other : String) (more : List (List Char)),
          Text.lines other.toList = before ++ raw :: more →
            ∃ refusal, Program.parse width other = .error refusal) := by
  have cuts {before after : List (List Char)} {raw : List Char}
      (whole : Text.lines source.toList = before ++ raw :: after) :
      ∃ cut rest : String, source = cut ++ rest ∧
        Text.lines cut.toList = before ++ [raw] ∧ Text.lines rest.toList = after := by
    rw [← List.singleton_append, ← List.append_assoc] at whole
    obtain ⟨cut, rest, same, own, others⟩ := Text.exists_cut whole
    refine ⟨String.ofList cut, String.ofList rest, ?_, ?_, ?_⟩
    · rw [← String.ofList_append, ← same, String.ofList_toList]
    · rwa [String.toList_ofList]
    · rwa [String.toList_ofList]
  rw [parse_eq_of_lines rfl] at fails
  split at fails
  · next number fault scanFails =>
    obtain rfl := Except.error.inj fails
    obtain ⟨before, raw, after, whole, rfl, visible, same⟩ :=
      Line.exists_of_scanFrom_eq_error scanFails
    have refused {other : String} {more : List (List Char)}
        (lines : Text.lines other.toList = before ++ raw :: more) :
        Program.parse width other = .error ⟨1 + before.length, .indent fault⟩ := by
      rw [parse_eq_of_lines lines, same]
    exact ⟨before, raw, after, whole, Nat.add_comm _ _, visible, cuts whole,
      fun cut lines => refused lines, fun _ other more lines => ⟨_, refused lines⟩⟩
  · next numbered scanned =>
    obtain ⟨earlier, line, later, rfl, own, reads, stops⟩ := exists_of_ofLines_eq_error fails
    obtain ⟨before, raw, after, whole, place, visible, scannedCut⟩ :=
      Line.exists_of_scanFrom_eq_append scanned
    refine ⟨before, raw, after, whole, by rw [← own, place, Nat.add_comm], visible, cuts whole,
      fun cut lines => ?_, fun differs other more lines => ?_⟩
    · rw [parse_eq_of_lines lines, scannedCut]
      exact reads
    · rw [← List.singleton_append, ← List.append_assoc] at lines
      rw [parse_eq_of_lines lines, Line.scanFrom_append, scannedCut, ok_bind]
      cases Line.scanFrom (max 1 width) (1 + (before ++ [raw]).length) more with
      | error refusal => exact ⟨_, rfl⟩
      | ok others =>
          refine ⟨error, ?_⟩
          simp only [Except.map, ofLines, List.foldlM_append, stops differs, error_bind]

/-- A statement in a branch that cannot be read, between an empty line and an `ELSE`. -/
theorem Program.parse_refused_branch :
    let error : ReadError := ⟨4, .unexpected .statement "PUBLISH"⟩
    Program.parse 2 "DEFINE ACTION a ON EVERY 1s DO\n\nIF x THEN\n  PUBLISH\r\nELSE\n" =
        .error error ∧
      Program.parse 2 "DEFINE ACTION a ON EVERY 1s DO\n\nIF x THEN\n  PUBLISH\r\n" =
        .error error ∧
      ∃ refusal, Program.parse 2
        "DEFINE ACTION a ON EVERY 1s DO\n\nIF x THEN\n  PUBLISH\n  PUBLISH TOPIC \"t\" \"\"" =
          .error refusal := by
  intro error
  have fails : Program.parse 2
      "DEFINE ACTION a ON EVERY 1s DO\n\nIF x THEN\n  PUBLISH\r\nELSE\n" = .error error := by
    decide +kernel
  obtain ⟨before, raw, after, whole, place, -, -, cut, others⟩ := parse_refused fails
  have lines : Text.lines
      "DEFINE ACTION a ON EVERY 1s DO\n\nIF x THEN\n  PUBLISH\r\nELSE\n".toList =
        ["DEFINE ACTION a ON EVERY 1s DO".toList, [], "IF x THEN".toList] ++
          "  PUBLISH".toList :: ["ELSE".toList] := by
    decide +kernel
  obtain ⟨rfl, rest⟩ := List.append_inj (whole.symm.trans lines) (Nat.succ.inj place).symm
  obtain ⟨rfl, rfl⟩ := List.cons.inj rest
  exact ⟨fails, cut _ (by decide +kernel),
    others nofun _ ["  PUBLISH TOPIC \"t\" \"\"".toList] (by decide +kernel)⟩

end BlockScript.Script
