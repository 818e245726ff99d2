import BlockScript.Proofs.Compile.Acceptance
import Mathlib.Data.List.Perm.Subperm

/-!
# Blocks of the workspace do not depend on each other

What a block of the workspace declares or contributes depends on that block alone: neither its place
nor the blocks around it matter. Nothing that is wrong with a block comes from its place either
(`Block.faults_eq_nil_anywhere`), and the names of the actions of fewer blocks are fewer names. So
any of the blocks of a workspace that can be lowered, in any order, can be lowered as well, and they
make up a program of the same actions and the same statements (`Compiler.lower_rearranged`).
-/

set_option autoImplicit false

namespace BlockScript

open Script (Program Statement isIdentifier)

/-! ## Single blocks -/

/-- **A block with which nothing is wrong at one place is right at any other.** -/
theorem Block.faults_eq_nil_anywhere {vocabulary : Vocabulary} {block : Block} :
    ∀ {path : Block.Path} (elsewhere : Block.Path) {nested : Bool},
      block.faults vocabulary path nested = [] → block.faults vocabulary elsewhere nested = [] := by
  induction block using Block.induction with
  | step block ih =>
      intro path elsewhere nested clean
      obtain ⟨kind, faultless⟩ := Block.faults_eq_nil_iff.mp clean
      refine Block.faults_eq_nil_iff.mpr ⟨kind, { faultless with inside := ?_ }⟩
      intro slot member index child there
      have cleanChild := faultless.inside slot member index child there
      exact ih slot.name child (List.mem_of_getElem? there) _ cleanChild

theorem Block.flattenAll_eq_flatMap (vocabulary : Vocabulary) (blocks : List Block) :
    Block.flattenAll vocabulary blocks = blocks.flatMap (·.flatten vocabulary) := by
  induction blocks with
  | nil => rfl
  | cons block blocks ih => rw [Block.flattenAll, ih, List.flatMap_cons]

/-! ## Some of the blocks, in some order -/

section

variable {vocabulary : Vocabulary} {kept workspace : Workspace}

/-- The statements outside every action come from blocks, so fewer blocks have no others. -/
theorem Workspace.loose_ne_nil_of_subset (part : kept.blocks ⊆ workspace.blocks)
    (some : kept.loose vocabulary ≠ []) : workspace.loose vocabulary ≠ [] := by
  unfold Workspace.loose at some ⊢
  rw [Block.flattenAll_eq_flatMap, Ne, List.flatMap_eq_nil_iff] at some ⊢
  exact fun silent => some fun block member => silent block (part member)

/-- The names of the actions of fewer blocks. -/
theorem Workspace.actionNames_subperm (part : kept.blocks.Subperm workspace.blocks) :
    (kept.actionNames vocabulary).Subperm (workspace.actionNames vocabulary) := by
  obtain ⟨blocks, sameBlocks, inside⟩ := part
  exact ⟨Workspace.actionNames vocabulary ⟨blocks⟩, (sameBlocks.filter _).map _,
    (inside.filter _).map _⟩

/-- **Nothing is wrong with fewer blocks where nothing is wrong with all of them.** -/
theorem Compiler.faults_eq_nil_of_subperm {compiler : Compiler}
    (part : kept.blocks.Subperm workspace.blocks) (clean : compiler.faults workspace = []) :
    compiler.faults kept = [] := by
  obtain ⟨each, distinct, default⟩ := Compiler.faults_eq_nil_iff.mp clean
  have names : (kept.actionNames compiler.vocabulary).Subperm
      (workspace.actionNames compiler.vocabulary) := Workspace.actionNames_subperm part
  refine Compiler.faults_eq_nil_iff.mpr ⟨fun index block there => ?_, ?_, fun some => ?_⟩
  · have inside := part.subset (List.mem_of_getElem? there)
    obtain ⟨place, found⟩ := List.mem_iff_getElem?.mp inside
    exact Block.faults_eq_nil_anywhere _ (each place block found)
  · obtain ⟨others, sameNames, inside⟩ := names
    exact sameNames.nodup_iff.mp (distinct.sublist inside)
  · obtain ⟨identifier, free⟩ := default (Workspace.loose_ne_nil_of_subset part.subset some)
    exact ⟨identifier, fun taken => free (names.subset taken)⟩

end

/-! ## What blocks make up together -/

/-- The actions that the action blocks of a workspace declare, in order. -/
def Workspace.declared (vocabulary : Vocabulary) (workspace : Workspace) : List Script.Action :=
  (Block.actionsOf vocabulary workspace.blocks).map (·.declared vocabulary)

/-- A program has the actions that the action blocks of a workspace declare, in order, and somewhere
among them the default action if the other blocks contribute statements: all of these, in order. -/
def Compiler.Gathers (compiler : Compiler) (workspace : Workspace) (program : Program) : Prop :=
  ∃ before after, before ++ after = workspace.declared compiler.vocabulary ∧
    program.actions = before ++ (compiler.looseAction? workspace).toList ++ after

/-- What a workspace that can be lowered is lowered to. -/
theorem Compiler.lower_eq_ok_iff {compiler : Compiler} {workspace : Workspace}
    {program : Program} :
    compiler.lower workspace = .ok program ↔
      compiler.faults workspace = [] ∧ compiler.programOf workspace = program := by
  rw [lower_eq, report_eq_ok_iff]

theorem Compiler.gathers_programOf (compiler : Compiler) (workspace : Workspace) :
    compiler.Gathers workspace (compiler.programOf workspace) := by
  obtain ⟨before, after, whole, -, made⟩ := assemble_pieces compiler.vocabulary
    (compiler.looseAction? workspace) 0 workspace.blocks exists_of_looseAction?
  exact ⟨before, after, whole, made⟩

/-- **Blocks of the workspace are independent of each other.** Some of the blocks of a workspace that
can be lowered, in any order, can be lowered too. The programs of both have for each action block
the very action that it declares, and for the statements outside every action, where there are any,
the default action with what each block contributes, all in the order of the blocks. So blocks that
cannot be lowered cannot be lowered together with others either. -/
theorem Compiler.lower_rearranged (compiler : Compiler) (workspace : Workspace) :
    (∀ program, compiler.lower workspace = .ok program →
      compiler.Gathers workspace program ∧
        ∀ kept : Workspace, kept.blocks.Subperm workspace.blocks →
          ∃ rest, compiler.lower kept = .ok rest ∧ compiler.Gathers kept rest) ∧
    ∀ error, compiler.lower workspace = .error error →
      ∀ larger : Workspace, workspace.blocks.Subperm larger.blocks →
        ∃ other, compiler.lower larger = .error other := by
  constructor
  · intro program lowered
    obtain ⟨clean, rfl⟩ := lower_eq_ok_iff.mp lowered
    refine ⟨compiler.gathers_programOf workspace, fun kept part => ?_⟩
    have cleanKept := faults_eq_nil_of_subperm part clean
    exact ⟨_, lower_eq_ok_iff.mpr ⟨cleanKept, rfl⟩, compiler.gathers_programOf kept⟩
  · intro error fails larger part
    cases together : compiler.lower larger with
    | error other => exact ⟨other, rfl⟩
    | ok program =>
        have clean := faults_eq_nil_of_subperm part (lower_eq_ok_iff.mp together).1
        rw [lower_eq, clean] at fails
        cases fails

/-- Two statements around an action: the second statement and the action, in the other order. And an
action twice, with a statement between the two. -/
theorem Compiler.lower_rearranged_lamp :
    let lamp := ((Block.ofType "publish").withField "topic" "lamp").withField "payload" "on"
    let fan := ((Block.ofType "if").withField "condition" "warm").withSlot "then" [lamp]
    let blink := (((Block.ofType "action").withField "name" "Blink").withField "every"
      "5s").withSlot "do" [lamp]
    (∃ program, Compiler.standard.lower ⟨[lamp, blink, fan]⟩ = .ok program ∧
      Compiler.standard.Gathers ⟨[lamp, blink, fan]⟩ program) ∧
    (∃ rest, Compiler.standard.lower ⟨[fan, blink]⟩ = .ok rest ∧
      Compiler.standard.Gathers ⟨[fan, blink]⟩ rest) ∧
    ∃ error other, Compiler.standard.lower ⟨[blink, blink]⟩ = .error error ∧
      Compiler.standard.lower ⟨[blink, lamp, blink]⟩ = .error other := by
  intro lamp fan blink
  have lowered : ∃ program, Compiler.standard.lower ⟨[lamp, blink, fan]⟩ = .ok program := ⟨_, rfl⟩
  have fails : ∃ error, Compiler.standard.lower ⟨[blink, blink]⟩ = .error error := ⟨_, rfl⟩
  obtain ⟨program, lowered⟩ := lowered
  obtain ⟨error, fails⟩ := fails
  have swapped : List.Subperm [fan, blink] [lamp, blink, fan] :=
    (List.Perm.swap blink fan []).subperm.trans (List.sublist_cons_self lamp _).subperm
  have between : List.Subperm [blink, blink] [blink, lamp, blink] :=
    ((List.sublist_cons_self lamp [blink]).cons_cons blink).subperm
  obtain ⟨gathers, others⟩ := (lower_rearranged .standard _).1 program lowered
  obtain ⟨other, failsToo⟩ := (lower_rearranged .standard _).2 error fails ⟨_⟩ between
  exact ⟨⟨program, lowered, gathers⟩, others ⟨[fan, blink]⟩ swapped, error, other, fails, failsToo⟩

end BlockScript
