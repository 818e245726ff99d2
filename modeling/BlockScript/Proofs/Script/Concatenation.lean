import BlockScript.Proofs.Script.RoundTrip
import BlockScript.Proofs.Script.Wording
import Mathlib.Data.List.Infix

/-!
# Scripts one after the other

The lines of two texts with a line feed between them are the lines of the one and then those of
the other (`LaidOut.append`), so two scripts together say what the one says and then what the other
says: that is how the grammar puts them together (`SpellsActions.append`), except for the first
header of the second script. A header may have any blank after its first word when nothing comes
before it, but only a space when an action does.

The reader follows the grammar in this. Two scripts together are read as the actions of both if the
second one opens with `DEFINE` and a space, or nothing comes before it; otherwise its first header
is refused as no statement of the action before it (`Program.parse_append`).
-/

set_option autoImplicit false

namespace BlockScript.Script

/-! ## Carriage returns -/

/-- A carriage return at the end of a line makes no difference to what the line says. -/
theorem Line.lies_concat_return {width : Nat} {raw : List Char} {line : Line} :
    Line.Lies width (raw ++ ['\r']) line ↔ Line.Lies width raw line := by
  have blank : Text.isBlank '\r' = true := by decide
  constructor
  · generalize whole : raw ++ ['\r'] = all
    rintro @⟨depth, content, visible⟩
    -- What is visible is no carriage return, so there is something before the one at the end.
    rcases List.eq_nil_or_concat content with rfl | ⟨before, last, rfl⟩
    · obtain ⟨_, starts, -⟩ := visible
      cases starts
    rw [List.concat_eq_append, ← List.append_assoc] at whole
    obtain ⟨rfl, same⟩ := List.append_inj' whole rfl
    obtain rfl := List.singleton_inj.mp same
    rw [List.concat_eq_append] at visible ⊢
    rw [Text.trimEnd_concat_blank blank]
    cases before with
    | nil =>
        obtain ⟨_, starts, notBlank⟩ := visible
        obtain rfl := Option.some.inj starts
        cases notBlank
    | cons first rest => exact .indented visible
  · rintro @⟨depth, content, visible⟩
    obtain ⟨first, starts, notBlank⟩ := visible
    obtain ⟨rest, rfl⟩ := List.head?_eq_some_iff.mp starts
    rw [List.append_assoc, ← Text.trimEnd_concat_blank blank]
    exact .indented ⟨first, rfl, notBlank⟩

theorem Line.lies_dropReturn {width : Nat} {raw : List Char} {line : Line} :
    Line.Lies width (Text.dropReturn raw) line ↔ Line.Lies width raw line := by
  unfold Text.dropReturn
  split
  · next ends =>
    obtain ⟨before, rfl⟩ := List.getLast?_eq_some_iff.mp ends
    rw [List.dropLast_concat, Line.lies_concat_return]
  · exact Iff.rfl

theorem isAllBlank_dropReturn (raw : List Char) :
    Text.isAllBlank (Text.dropReturn raw) = Text.isAllBlank raw := by
  have blank : Text.isBlank '\r' = true := by decide
  unfold Text.dropReturn
  split
  · next ends =>
    obtain ⟨before, rfl⟩ := List.getLast?_eq_some_iff.mp ends
    simp [Text.isAllBlank, blank]
  · rfl

/-! ## Texts one after the other -/

/-- The lines of a text may be found between its line feeds: neither the carriage returns there nor
an empty piece at the end make a difference. -/
theorem laidOut_iff_pieces {width : Nat} {source : List Char} {lines : List Line} :
    LaidOut width source lines ↔
      List.Forall₂ (Line.Lies width)
        ((source.splitOnP (· == '\n')).filter fun piece => !Text.isAllBlank piece) lines := by
  rw [LaidOut, Text.lines]
  induction source.splitOnP (· == '\n') generalizing lines with
  | nil => exact Iff.rfl
  | cons piece pieces ih =>
      cases pieces with
      | nil =>
          rw [Text.linesOfPieces]
          split
          · next empty =>
            obtain rfl := List.isEmpty_iff.mp empty
            exact Iff.rfl
          · exact Iff.rfl
      | cons next pieces =>
          rw [Text.linesOfPieces, List.filter_cons, List.filter_cons, isAllBlank_dropReturn]
          split
          · simp only [List.forall₂_cons_left_iff, Line.lies_dropReturn, ih]
          · exact ih

/-- **The lines of two texts with a line feed between them** are those of the one and then those of
the other. -/
theorem LaidOut.append {width : Nat} {first second : List Char} {lines more : List Line}
    (laidOut : LaidOut width first lines) (laidOutMore : LaidOut width second more) :
    LaidOut width (first ++ '\n' :: second) (lines ++ more) := by
  rw [laidOut_iff_pieces] at laidOut laidOutMore ⊢
  rw [List.splitOnP_append_cons first second (by simp), List.filter_append]
  exact List.rel_append laidOut laidOutMore

/-! ## The first header -/

/-- The first line of a script that does not consist of blanks starts with `DEFINE` and a space. -/
def OpensPlainly (script : String) : Prop :=
  ∀ raw ∈ (Text.lines script.toList).find? fun raw => !Text.isAllBlank raw,
    "DEFINE ".toList <+: raw

/-- A header is more than its first word. -/
theorem Header.not_prefix_of_read {text : List Char} {header : Header}
    (read : Header.read text = .ok header) : ¬ text <+: "DEFINE ".toList := by
  intro short
  have refused : ∀ start ∈ "DEFINE ".toList.inits, (Header.read start).toOption = none := by
    decide
  have none := refused text ((List.mem_inits _ _).mpr short)
  rw [read] at none
  cases none

/-- Whether a script opens plainly shows in the first of its lines. -/
theorem opensPlainly_iff {width : Nat} {script : String} {text : List Char} {header : Header}
    {rest : List Line} (laidOut : LaidOut width script.toList (⟨0, text⟩ :: rest))
    (read : Header.read text = .ok header) :
    OpensPlainly script ↔ startsDefine text = true := by
  obtain ⟨raw, raws, lies, -, nonblank⟩ := List.forall₂_cons_right_iff.mp laidOut
  have first : (Text.lines script.toList).find? (fun raw => !Text.isAllBlank raw) = some raw := by
    rw [← List.head?_filter, nonblank]
    rfl
  have starts : text <+: raw := by
    generalize own : (⟨0, text⟩ : Line) = line at lies
    obtain @⟨depth, content, -⟩ := lies
    obtain ⟨rfl, rfl⟩ := Line.mk.inj own
    rw [Nat.zero_mul]
    exact List.rdropWhile_prefix Text.isBlank content
  rw [OpensPlainly, first, startsDefine, List.isPrefixOf_iff_prefix]
  constructor
  · intro plain
    exact (List.prefix_or_prefix_of_prefix (plain raw rfl) starts).resolve_right
      (Header.not_prefix_of_read read)
  · rintro opens _ ⟨⟩
    exact opens.trans starts

/-- Inside an action a header is no statement. -/
theorem Sentence.read_of_header {text : List Char} {header : Header}
    (read : Header.read text = .ok header) :
    Sentence.read text = .error (.unexpected .statement "DEFINE") := by
  obtain ⟨interval, -, words⟩ := (Header.read_eq_ok_iff.mp read).words
  have noIf : "IF ".toList.isPrefixOf? text = none := by
    rw [← Option.not_isSome_iff_eq_none, Option.isSome_iff_exists]
    rintro ⟨rest, opens⟩
    obtain rfl := List.isPrefixOf?_eq_some_iff_append_eq.mp opens
    have other : Text.words ("IF ".toList ++ rest) = Keyword.IF.chars :: Text.words rest :=
      Keyword.IF.words_append rest
    rw [other] at words
    cases (List.cons.inj words).1
  have noPublish : "PUBLISH TOPIC".toList.isPrefixOf? text = none := by
    rw [← Option.not_isSome_iff_eq_none, Option.isSome_iff_exists]
    rintro ⟨rest, opens⟩
    obtain rfl := List.isPrefixOf?_eq_some_iff_append_eq.mp opens
    have other : Text.words ("PUBLISH TOPIC".toList ++ rest) =
        Keyword.PUBLISH.chars :: Text.words ("TOPIC".toList ++ rest) :=
      Keyword.PUBLISH.words_append _
    rw [other] at words
    cases (List.cons.inj words).1
  simp only [Sentence.read, noIf, noPublish, words, List.headD_cons]
  rfl

/-! ## Scripts one after the other -/

/-- A header that does not open plainly is refused where an action comes before it. -/
theorem Progress.step_header {finished : List Action} {action : OpenAction}
    {body : List Statement} (settles : action.Settles [] body) {line : NumberedLine}
    (depth : line.depth = 0) {header : Header} (read : Header.read line.text = .ok header)
    (otherwise : startsDefine line.text = false) :
    Progress.step ⟨finished, some action⟩ line =
      .error ⟨line.number, .unexpected .statement "DEFINE"⟩ := by
  have noElse : isElse line = false :=
    Bool.eq_false_iff.mpr fun isElse =>
      Header.ne_else_of_read read (isElse_eq_true_iff.mp isElse)
  have noHeader : startsHeader line = false := otherwise
  have flat : ¬ 0 < line.depth := by omega
  have places : action.place line = .error ⟨line.number, .unexpected .statement "DEFINE"⟩ := by
    rw [settles.place_eq depth.le (by simp [noElse])]
    simp only [OpenAction.placeFrom, noElse, flat, noHeader, OpenAction.say,
      Sentence.read_of_header read, Bool.false_eq_true, ↓reduceIte]
    rfl
  simp only [Progress.step, places]

section

variable {width : Nat} {first second : String} {lines more : List Line}

/-- The lines of two scripts one after the other. -/
theorem LaidOut.joined (laidOut : LaidOut width first.toList lines)
    (laidOutMore : LaidOut width second.toList more) :
    LaidOut width (first ++ "\n" ++ second).toList (lines ++ more) := by
  have whole : (first ++ "\n" ++ second).toList = first.toList ++ '\n' :: second.toList := by
    simp
  rw [whole]
  exact laidOut.append laidOutMore

/-- A script without lines opens plainly. -/
theorem opensPlainly_of_no_lines (laidOut : LaidOut width second.toList []) :
    OpensPlainly second := by
  have blank := List.forall₂_nil_right_iff.mp laidOut
  rw [OpensPlainly, ← List.head?_filter, blank]
  exact nofun

variable {program further : Program}

/-- A script that opens plainly, or before which there is no action, goes on the script before
it. -/
theorem Program.parse_joined (reads : Program.parse width first = .ok program)
    (readsFurther : Program.parse width second = .ok further)
    (opens : program.actions = [] ∨ OpensPlainly second) :
    Program.parse width (first ++ "\n" ++ second) =
      .ok ⟨program.actions ++ further.actions⟩ := by
  obtain ⟨lines, laidOut, spells⟩ := parse_eq_ok_iff_spells.mp reads
  obtain ⟨more, laidOutMore, spellsMore⟩ := parse_eq_ok_iff_spells.mp readsFurther
  refine parse_eq_ok_iff_spells.mpr
    ⟨_, laidOut.joined laidOutMore, spells.append spellsMore ?_⟩
  intro something line starts
  obtain ⟨others⟩ := further
  cases spellsMore with
  | nil => cases starts
  | cons read own nonempty later opensNext =>
      obtain rfl := Option.some.inj starts
      refine (opensPlainly_iff laidOutMore read).mp (opens.resolve_left fun none => ?_)
      rw [none] at spells
      cases spells
      exact something rfl

/-- Any other script is refused at its first header. -/
theorem Program.parse_joined_eq_error (reads : Program.parse width first = .ok program)
    (readsFurther : Program.parse width second = .ok further) (nonempty : program.actions ≠ [])
    (notPlain : ¬ OpensPlainly second) :
    ∃ number, Program.parse width (first ++ "\n" ++ second) =
      .error ⟨number, .unexpected .statement "DEFINE"⟩ := by
  obtain ⟨lines, laidOut, spells⟩ := parse_eq_ok_iff_spells.mp reads
  obtain ⟨more, laidOutMore, spellsMore⟩ := parse_eq_ok_iff_spells.mp readsFurther
  have positive : 0 < max 1 width := Nat.le_max_left 1 width
  obtain ⟨numbered, same, scanned⟩ :=
    (scanAll_eq_ok_iff positive).mpr (laidOut.joined laidOutMore)
  obtain ⟨before, after, rfl, rfl, sameAfter⟩ := List.map_eq_append_iff.mp same
  obtain ⟨finished, current, body, runs, settles, -⟩ :=
    exists_settles_of_ofLines (ofLines_eq_ok_iff.mpr spells) nonempty
  obtain ⟨others⟩ := further
  cases spellsMore with
  | nil => exact absurd (opensPlainly_of_no_lines laidOutMore) notPlain
  | @cons text action _ _ _ read own ownNonempty later opensNext =>
      have startsOtherwise : startsDefine text = false :=
        Bool.eq_false_iff.mpr fun starts =>
          notPlain ((opensPlainly_iff laidOutMore read).mpr starts)
      obtain ⟨line, _, rfl, ownLine, -⟩ := List.map_eq_cons_iff.mp sameAfter
      obtain ⟨depth, rfl⟩ := Line.mk.inj ownLine
      refine ⟨line.number, ?_⟩
      rw [Program.parse, scanned]
      simp only [Program.ofLines, List.foldlM_append, List.foldlM_cons, runs, ok_bind,
        Progress.step_header settles depth read startsOtherwise, error_bind]

end

/-- **Two scripts one after the other are one script** with the actions of both, exactly if the
second one opens with `DEFINE` and a space or nothing comes before it. Otherwise its first header is
refused as no statement of the action before it. -/
theorem Program.parse_append {width : Nat} {first second : String} {program further : Program}
    (reads : Program.parse width first = .ok program)
    (readsFurther : Program.parse width second = .ok further) :
    (Program.parse width (first ++ "\n" ++ second) = .ok ⟨program.actions ++ further.actions⟩ ↔
        program.actions = [] ∨ OpensPlainly second) ∧
      (¬ (program.actions = [] ∨ OpensPlainly second) →
        ∃ number, Program.parse width (first ++ "\n" ++ second) =
          .error ⟨number, .unexpected .statement "DEFINE"⟩) := by
  have refused (otherwise : ¬ (program.actions = [] ∨ OpensPlainly second)) :=
    parse_joined_eq_error reads readsFurther (not_or.mp otherwise).1 (not_or.mp otherwise).2
  refine ⟨⟨fun together => ?_, parse_joined reads readsFurther⟩, refused⟩
  by_contra otherwise
  obtain ⟨number, fails⟩ := refused otherwise
  rw [fails] at together
  cases together

/-- Two scripts of which the first ends inside a conditional and the second starts with an empty
line. -/
theorem Program.parse_append_plain :
    let first := "DEFINE\tACTION lamp ON EVERY 15 DO\nIF a THEN\n  PUBLISH TOPIC \"t\" \"1\""
    let second := "\nDEFINE \tACTION fan ON EVERY 5m DO\r\nPUBLISH TOPIC \"f\" \"\"\n"
    let lamp : Program := ⟨[⟨"lamp", .standard, [.conditional "a" [.publish "t" "1"] []]⟩]⟩
    let fan : Program := ⟨[⟨"fan", ⟨5, .minutes, by decide, by decide⟩, [.publish "f" ""]⟩]⟩
    Program.parse 2 first = .ok lamp ∧ Program.parse 2 second = .ok fan ∧
      Program.parse 2 (first ++ "\n" ++ second) = .ok ⟨lamp.actions ++ fan.actions⟩ := by
  intro first second lamp fan
  have reads : Program.parse 2 first = .ok lamp := by decide +kernel
  have readsFurther : Program.parse 2 second = .ok fan := by decide +kernel
  have opens : (Text.lines second.toList).find? (fun raw => !Text.isAllBlank raw) =
      some "DEFINE \tACTION fan ON EVERY 5m DO".toList := by
    decide +kernel
  refine ⟨reads, readsFurther, (parse_append reads readsFurther).1.mpr (.inr ?_)⟩
  rw [OpensPlainly, opens]
  rintro _ ⟨⟩
  exact ⟨_, rfl⟩

/-- A header with a tab after its first word is read at the start of a script, but not after an
action. -/
theorem Program.parse_append_tab :
    let first := "DEFINE ACTION a ON EVERY 1s DO\nPUBLISH TOPIC \"t\" \"\""
    let second := "DEFINE\tACTION b ON EVERY 1s DO\nPUBLISH TOPIC \"t\" \"\""
    let action (name : String) : Action :=
      ⟨name, ⟨1, .seconds, by decide, by decide⟩, [.publish "t" ""]⟩
    Program.parse 2 first = .ok ⟨[action "a"]⟩ ∧ Program.parse 2 second = .ok ⟨[action "b"]⟩ ∧
      Program.parse 2 (first ++ "\n" ++ second) =
        .error ⟨3, .unexpected .statement "DEFINE"⟩ := by
  decide +kernel

end BlockScript.Script
