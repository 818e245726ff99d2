import BlockScript.Proofs.Script.Layout
import BlockScript.Proofs.Script.Reading

/-!
# Scripts written and read

A script is read as the actions that its lines spell (`Program.parse_eq_ok_iff_spells`). The script
of a program is read back as that program when the program is well formed, and only then
(`Program.parse_render_iff`): whatever text the conditions and names of another program print, the
reader makes nothing of it or something else. The reason is that no text at all is read as a program
that is not well formed (`Program.wellFormed_of_parse`).

A script that somebody wrote by hand can therefore be laid out anew: whatever its width, its blanks
and its line ends, the standard layout of what it says is read as the same program, and is its own
standard layout (`Program.parse_reformatted`).
-/

set_option autoImplicit false

namespace BlockScript.Script

/-- A script is read as the actions that its lines spell. -/
theorem Program.parse_eq_ok_iff_spells {width : Nat} {source : String} {program : Program} :
    Program.parse width source = .ok program ↔
      ∃ lines, LaidOut (max 1 width) source.toList lines ∧
        SpellsActions lines program.actions := by
  have positive : 0 < max 1 width := Nat.le_max_left 1 width
  constructor
  · intro reads
    unfold Program.parse at reads
    split at reads
    · cases reads
    · next numbered scanned =>
      exact ⟨_, (scanAll_eq_ok_iff positive).mp ⟨numbered, rfl, scanned⟩,
        ofLines_eq_ok_iff.mp reads⟩
  · rintro ⟨lines, laidOut, spells⟩
    obtain ⟨numbered, rfl, scanned⟩ := (scanAll_eq_ok_iff positive).mpr laidOut
    rw [Program.parse, scanned]
    exact ofLines_eq_ok_iff.mpr spells

/-- **Whatever is read is well formed.** -/
theorem Program.wellFormed_of_parse {width : Nat} {source : String} {program : Program}
    (reads : Program.parse width source = .ok program) : program.WellFormed := by
  unfold Program.parse at reads
  split at reads
  · cases reads
  · next lines scanned =>
    refine (ofLines_eq_ok_iff.mp reads).wellFormed fun line member => ?_
    obtain ⟨numbered, found, rfl⟩ := List.mem_map.mp member
    exact newline_notMem_of_mem_scanAll scanned numbered found

/-- The text of a well-formed program is read back, also when a level of nesting is wider than any
that is written. -/
theorem Program.WellFormed.parse_write {program : Program} (wellFormed : program.WellFormed)
    {width : Nat} (positive : 1 ≤ width) :
    Program.parse width (String.ofList (program.write width)) = .ok program := by
  have laidOut := laidOut_write width wellFormed.unbroken
  refine parse_eq_ok_iff_spells.mpr ⟨_, ?_, SpellsActions.of_wellFormed wellFormed⟩
  rwa [String.toList_ofList, Nat.max_eq_right positive]

/-- **The script of a well-formed program is read back.** -/
theorem Program.WellFormed.parse_render {program : Program} (wellFormed : program.WellFormed)
    (width : IndentWidth) : Program.parse width.spaces (program.render width) = .ok program :=
  wellFormed.parse_write width.one_le

/-- **A program is read back from its script exactly if it is well formed**, at every width. -/
theorem Program.parse_render_iff (width : IndentWidth) (program : Program) :
    Program.parse width.spaces (program.render width) = .ok program ↔ program.WellFormed :=
  ⟨Program.wellFormed_of_parse, fun wellFormed => wellFormed.parse_render width⟩

/-- **Laying a script out anew keeps what it says, and doing so again changes nothing.** -/
theorem Program.parse_reformatted {width : Nat} {source : String} {program : Program}
    (reads : Program.parse width source = .ok program) :
    Program.parse IndentWidth.standard.spaces (program.render .standard) = .ok program ∧
      (Program.parse IndentWidth.standard.spaces (program.render .standard)).map
        (·.render .standard) = .ok (program.render .standard) := by
  have wellFormed := Program.wellFormed_of_parse reads
  have again := wellFormed.parse_render .standard
  refine ⟨again, ?_⟩
  rw [again]
  rfl

/-- A script with line ends of two kinds, blanks of several, a bare number for an interval, an
empty topic, a raw tab in a payload, and a condition with a `THEN` and a carriage return in it. -/
theorem Program.parse_reformatted_handwritten :
    let source := "\r\nDEFINE\tACTION  lamp ON EVERY  15 DO\r\n \t\nIF  a THEN\rb  THEN \n" ++
      "   PUBLISH TOPIC\t\"\"  \"x\ty\"\nELSE\n   PUBLISH TOPIC \"t\" \"\""
    let lamp : Program := ⟨[⟨"lamp", .standard, [.conditional "a THEN\rb"
      [.publish "" "x\ty"] [.publish "t" ""]]⟩]⟩
    Program.parse 3 source = .ok lamp ∧ Program.parse 2 (lamp.render .standard) = .ok lamp ∧
      (Program.parse 2 (lamp.render .standard)).map (·.render .standard) =
        .ok (lamp.render .standard) := by
  intro source lamp
  have reads : Program.parse 3 source = .ok lamp := by decide +kernel
  exact ⟨reads, parse_reformatted reads⟩

end BlockScript.Script
