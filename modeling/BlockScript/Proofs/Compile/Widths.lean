import BlockScript.Proofs.Compile.RoundTrip
import BlockScript.Proofs.Script.Widths

/-!
# Compiled scripts at another width

A compiled script does not say how wide a level of nesting is, so its reader has to know. Told
another width, the reader never takes the script for another program: it reads the same one if
nothing is nested, and refuses the first nested line otherwise
(`Compiler.parse_render_other_width`).

Writer and reader do not put the same limits on a width. Both make at least one space of it, but
only the writer stops at `IndentWidth.widest`. Asked for the same width they understand each other
up to that one, and beyond it only about programs without nesting (`Compiler.parse_render_clamp`).
-/

set_option autoImplicit false

namespace BlockScript

open Script (IndentWidth Program firstIf?)

/-! ## Limits on a width -/

/-- The reader makes at least one space of a width. -/
theorem Script.Program.parse_max_one (width : Nat) (source : String) :
    Program.parse (max 1 width) source = Program.parse width source := by
  rw [Program.parse, Program.parse, Nat.max_eq_right (Nat.le_max_left 1 width)]

/-- Up to the widest width the writer does the same. -/
theorem Script.IndentWidth.spaces_clamp_of_le {spaces : Nat} (narrow : spaces ≤ widest) :
    (clamp spaces).spaces = max 1 spaces :=
  congrArg (max 1) (Nat.min_eq_left narrow)

/-- Beyond it the writer stays at the widest one. -/
theorem Script.IndentWidth.spaces_clamp_of_lt {spaces : Nat} (wide : widest < spaces) :
    (clamp spaces).spaces = widest :=
  congrArg (max 1) (Nat.min_eq_right wide.le)

namespace Compiler

variable {compiler : Compiler} {workspace : Workspace} {program : Program}

/-! ## Another width -/

/-- **A compiled script is not read as another program at another width.** If there is no
conditional in it, it is read as its own program. Otherwise the line after that of the first
conditional is refused for its indentation: it has no whole number of levels, or it lies too deep. -/
theorem parse_render_other_width (lowered : compiler.lower workspace = .ok program)
    (width : IndentWidth) {other : Nat} (positive : 1 ≤ other) (differs : other ≠ width.spaces) :
    (program.branches = false → Program.parse other (program.render width) = .ok program) ∧
      (program.branches = true → ∃ line, firstIf? (program.render width) = some line ∧
        Program.parse other (program.render width) = .error ⟨line + 1,
          if other ∣ width.spaces then .tooDeep 1
          else .indent (.notMultiple width.spaces other)⟩) := by
  have wellFormed := wellFormed_of_lower lowered
  constructor
  · intro plain
    exact wellFormed.parse_render_of_not_branches plain width positive
  · intro branches
    exact wellFormed.parse_render_of_branches branches width positive differs

/-- A script of width four, read at widths two and three: the fourth line is the first that is
indented. -/
theorem parse_render_other_width_fan :
    let lamp := ((Block.ofType "publish").withField "topic" "lamp").withField "payload" "on"
    let fan := ((Block.ofType "if").withField "condition" "warm").withSlot "then" [lamp]
    let flat : Program := ⟨[⟨"MyAction", .standard, [.publish "lamp" "on"]⟩]⟩
    let nested : Program := ⟨[⟨"MyAction", .standard,
      [.publish "lamp" "on", .conditional "warm" [.publish "lamp" "on"] []]⟩]⟩
    let four : IndentWidth := ⟨4, by decide, by decide⟩
    (standard.lower ⟨[lamp]⟩ = .ok flat ∧ flat.branches = false ∧
      Program.parse 2 (flat.render four) = .ok flat) ∧
    standard.lower ⟨[lamp, fan]⟩ = .ok nested ∧ nested.branches = true ∧
      firstIf? (nested.render four) = some 3 ∧
      Program.parse 2 (nested.render four) = .error ⟨4, .tooDeep 1⟩ ∧
      Program.parse 3 (nested.render four) = .error ⟨4, .indent (.notMultiple 4 3)⟩ := by
  intro lamp fan flat nested four
  have loweredFlat : standard.lower ⟨[lamp]⟩ = .ok flat := rfl
  have lowered : standard.lower ⟨[lamp, fan]⟩ = .ok nested := rfl
  have readsFlat := (@parse_render_other_width standard _ flat loweredFlat four 2 (by decide)
    (by decide)).1 rfl
  obtain ⟨line, found, halves⟩ :=
    (@parse_render_other_width standard _ nested lowered four 2 (by decide) (by decide)).2 rfl
  obtain ⟨_, foundToo, thirds⟩ :=
    (@parse_render_other_width standard _ nested lowered four 3 (by decide) (by decide)).2 rfl
  have third : firstIf? (nested.render four) = some 3 := by decide +kernel
  obtain rfl := Option.some.inj (found.symm.trans third)
  obtain rfl := Option.some.inj (foundToo.symm.trans third)
  rw [if_pos (by decide)] at halves
  rw [if_neg (by decide)] at thirds
  exact ⟨⟨loweredFlat, rfl, readsFlat⟩, lowered, rfl, third, halves, thirds⟩

/-! ## The same width for writer and reader -/

/-- **Writer and reader of the same width understand each other exactly up to the widest one, or
when nothing is nested.** Beyond it the line after that of the first conditional is refused: the
writer puts `IndentWidth.widest` spaces there, and the reader looks for more. -/
theorem parse_render_clamp (lowered : compiler.lower workspace = .ok program) (spaces : Nat) :
    (Program.parse spaces (program.render (.clamp spaces)) = .ok program ↔
        spaces ≤ IndentWidth.widest ∨ program.branches = false) ∧
      (IndentWidth.widest < spaces → program.branches = true →
        ∃ line, firstIf? (program.render (.clamp spaces)) = some line ∧
          Program.parse spaces (program.render (.clamp spaces)) =
            .error ⟨line + 1, .indent (.notMultiple IndentWidth.widest spaces)⟩) := by
  have wellFormed := wellFormed_of_lower lowered
  have refused (wide : IndentWidth.widest < spaces) (branches : program.branches = true) :
      ∃ line, firstIf? (program.render (.clamp spaces)) = some line ∧
        Program.parse spaces (program.render (.clamp spaces)) =
          .error ⟨line + 1, .indent (.notMultiple IndentWidth.widest spaces)⟩ := by
    have written := IndentWidth.spaces_clamp_of_lt wide
    have noDivisor : ¬ spaces ∣ IndentWidth.widest := Nat.not_dvd_of_pos_of_lt (by decide) wide
    obtain ⟨line, found, refuses⟩ := wellFormed.parse_render_of_branches branches (.clamp spaces)
      (Nat.one_le_of_lt wide) (written ▸ wide.ne')
    rw [written, if_neg noDivisor] at refuses
    exact ⟨line, found, refuses⟩
  refine ⟨⟨fun reads => ?_, ?_⟩, refused⟩
  · by_contra neither
    obtain ⟨wide, nested⟩ := not_or.mp neither
    obtain ⟨line, -, refuses⟩ := refused (not_le.mp wide) (eq_true_of_ne_false nested)
    cases refuses.symm.trans reads
  · rintro (narrow | plain)
    · have reads := wellFormed.parse_render (.clamp spaces)
      rwa [IndentWidth.spaces_clamp_of_le narrow, Program.parse_max_one] at reads
    · have reads := wellFormed.parse_render_of_not_branches plain (.clamp spaces)
        (Nat.le_max_left 1 spaces)
      rwa [Program.parse_max_one] at reads

/-- A conditional at width zero, where both take one space, and at width twenty. -/
theorem parse_render_clamp_fan :
    let lamp := ((Block.ofType "publish").withField "topic" "lamp").withField "payload" "on"
    let fan := ((Block.ofType "if").withField "condition" "warm").withSlot "then" [lamp]
    let program : Program := ⟨[⟨"MyAction", .standard,
      [.conditional "warm" [.publish "lamp" "on"] []]⟩]⟩
    standard.lower ⟨[fan]⟩ = .ok program ∧
      Program.parse 0 (program.render (.clamp 0)) = .ok program ∧
      ∃ line, firstIf? (program.render (.clamp 20)) = some line ∧
        Program.parse 20 (program.render (.clamp 20)) =
          .error ⟨line + 1, .indent (.notMultiple 16 20)⟩ := by
  intro lamp fan program
  have lowered : standard.lower ⟨[fan]⟩ = .ok program := rfl
  exact ⟨lowered, (parse_render_clamp lowered 0).1.mpr (.inl (by decide)),
    (parse_render_clamp lowered 20).2 (by decide) rfl⟩

/-- One space beyond the widest width a conditional is not read back. -/
theorem parse_render_clamp_too_wide :
    let lamp := ((Block.ofType "publish").withField "topic" "lamp").withField "payload" "on"
    let fan := ((Block.ofType "if").withField "condition" "warm").withSlot "then" [lamp]
    let program : Program := ⟨[⟨"MyAction", .standard,
      [.conditional "warm" [.publish "lamp" "on"] []]⟩]⟩
    standard.lower ⟨[fan]⟩ = .ok program ∧
      Program.parse 17 (program.render (.clamp 17)) ≠ .ok program := by
  exact ⟨rfl, by decide +kernel⟩

end Compiler

end BlockScript
