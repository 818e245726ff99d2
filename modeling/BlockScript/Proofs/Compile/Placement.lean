import BlockScript.Proofs.Compile.Independence
import Mathlib.Data.List.TakeWhile

/-!
# The place of the default action

The default action stands after the actions that come before the first block that is no action, even
if that block is a group without a statement in it. Where an action lies between such a group and
the first block that contributes a statement, this is not the place of the first loose statement.

`Compiler.lower_defaultAction_place` says by how much an empty group matters. Apart from the place
of the default action it does not: without its empty groups a workspace is lowered to the same
actions, with the default action where the first loose statement stands. The two places are the same
exactly if every action before the first loose statement comes before every empty group there
(`Workspace.actionsBeforeLoose_eq_iff`).
-/

set_option autoImplicit false

namespace BlockScript

open Lowering
open Script (Program isIdentifier)

/-! ## Blocks that contribute no statement -/

namespace Block

/-- Holds of an action. -/
def isAction (vocabulary : Vocabulary) (block : Block) : Bool :=
  vocabulary.kind? block.type = some .action

/-- Holds of a block that contributes no statement to the default action. -/
def isSilent (vocabulary : Vocabulary) (block : Block) : Bool := (block.flatten vocabulary).isEmpty

/-- Holds of a group without a statement in it. -/
def isEmptyGroup (vocabulary : Vocabulary) (block : Block) : Bool :=
  vocabulary.kind? block.type = some .sequence && block.isSilent vocabulary

variable {vocabulary : Vocabulary} {block : Block}

theorem isSilent_of_isAction (action : block.isAction vocabulary = true) :
    block.isSilent vocabulary = true := by
  rw [isSilent, flatten_eq_nil_of_action (of_decide_eq_true action), List.isEmpty_nil]

theorem isSilent_of_isEmptyGroup (group : block.isEmptyGroup vocabulary = true) :
    block.isSilent vocabulary = true :=
  (Bool.and_eq_true_iff.mp group).2

theorem isEmptyGroup_of_isAction (action : block.isAction vocabulary = true) :
    block.isEmptyGroup vocabulary = false := by
  have kind : vocabulary.kind? block.type = some .action := of_decide_eq_true action
  simp [isEmptyGroup, kind]

/-- Among the blocks of known types only actions and empty groups contribute no statement. -/
theorem isEmptyGroup_of_isSilent {kind : Kind} (known : vocabulary.kind? block.type = some kind)
    (silent : block.isSilent vocabulary = true) (other : block.isAction vocabulary = false) :
    block.isEmptyGroup vocabulary = true := by
  cases kind with
  | action => simp [isAction, known] at other
  | sequence => simp [isEmptyGroup, known, silent]
  | conditional =>
      rw [isSilent, flatten_eq, known] at silent
      cases silent
  | publish =>
      rw [isSilent, flatten_eq, known] at silent
      cases silent

end Block

/-! ## Two places -/

/-- The elements at the start of a list that have a property are all that have it, exactly if they
come before the others. -/
theorem length_takeWhile_eq_countP_iff {α : Type} {p : α → Bool} {xs : List α} :
    (xs.takeWhile p).length = xs.countP p ↔
      xs.Pairwise fun earlier later => p later = true → p earlier = true := by
  induction xs with
  | nil => simp
  | cons x xs ih =>
      rw [List.pairwise_cons]
      by_cases holds : p x = true
      · rw [List.takeWhile_cons_of_pos holds, List.countP_cons_of_pos holds, List.length_cons,
          Nat.add_right_cancel_iff, ih]
        exact ⟨fun rest => ⟨fun _ _ _ => holds, rest⟩, And.right⟩
      · rw [List.takeWhile_cons_of_neg holds, List.countP_cons_of_neg holds, List.length_nil,
          eq_comm, List.countP_eq_zero]
        constructor
        · intro none
          refine ⟨fun y member holdsLater => absurd holdsLater (none y member), ?_⟩
          refine List.pairwise_iff_forall_sublist.mpr fun {_ y} inside holdsLater => ?_
          exact absurd holdsLater (none y (inside.subset (by simp)))
        · rintro ⟨first, -⟩ y member holdsLater
          exact holds (first y member holdsLater)

namespace Workspace

/-- The number of actions before the first block that is no action. -/
def actionsBeforeLoose (vocabulary : Vocabulary) (workspace : Workspace) : Nat :=
  (workspace.blocks.takeWhile (·.isAction vocabulary)).length

/-- The number of actions before the first block that contributes a loose statement. -/
def actionsBeforeStatement (vocabulary : Vocabulary) (workspace : Workspace) : Nat :=
  (workspace.blocks.takeWhile (·.isSilent vocabulary)).countP (·.isAction vocabulary)

/-- The workspace without its empty groups. -/
def withoutEmptyGroups (vocabulary : Vocabulary) (workspace : Workspace) : Workspace :=
  ⟨workspace.blocks.filter fun block => !block.isEmptyGroup vocabulary⟩

variable {vocabulary : Vocabulary} {workspace : Workspace}

/-- **When no empty group comes between**: the two places are the same exactly if, before the first
loose statement, actions come before empty groups. -/
theorem actionsBeforeLoose_eq_iff :
    workspace.actionsBeforeLoose vocabulary = workspace.actionsBeforeStatement vocabulary ↔
      (workspace.blocks.takeWhile (·.isSilent vocabulary)).Pairwise fun earlier later =>
        later.isAction vocabulary = true → earlier.isAction vocabulary = true := by
  have inside : workspace.blocks.takeWhile (·.isAction vocabulary) =
      (workspace.blocks.takeWhile (·.isSilent vocabulary)).takeWhile (·.isAction vocabulary) := by
    have both (block : Block) : (block.isAction vocabulary = true ∧
        block.isSilent vocabulary = true) ↔ block.isAction vocabulary = true :=
      and_iff_left_of_imp Block.isSilent_of_isAction
    simp only [List.takeWhile_takeWhile, both, Bool.decide_eq_true]
  rw [actionsBeforeLoose, actionsBeforeStatement, inside, length_takeWhile_eq_countP_iff]

/-- Without the empty groups the first block that is no action contributes a statement. -/
theorem actionsBeforeLoose_withoutEmptyGroups
    (known : ∀ block ∈ workspace.blocks, ∃ kind, vocabulary.kind? block.type = some kind) :
    (workspace.withoutEmptyGroups vocabulary).actionsBeforeLoose vocabulary =
      workspace.actionsBeforeStatement vocabulary := by
  obtain ⟨blocks⟩ := workspace
  unfold withoutEmptyGroups actionsBeforeLoose actionsBeforeStatement
  induction blocks with
  | nil => rfl
  | cons block blocks ih =>
      obtain ⟨⟨kind, own⟩, others⟩ := List.forall_mem_cons.mp known
      by_cases action : block.isAction vocabulary = true
      · have silent := Block.isSilent_of_isAction action
        have stays := Block.isEmptyGroup_of_isAction action
        rw [List.filter_cons_of_pos (by simp [stays]), List.takeWhile_cons_of_pos action,
          List.takeWhile_cons_of_pos silent, List.length_cons, List.countP_cons_of_pos action,
          ih others]
      · by_cases silent : block.isSilent vocabulary = true
        · have goes := Block.isEmptyGroup_of_isSilent own silent (Bool.eq_false_iff.mpr action)
          rw [List.filter_cons_of_neg (by simp [goes]), List.takeWhile_cons_of_pos silent,
            List.countP_cons_of_neg action, ih others]
        · have stays : block.isEmptyGroup vocabulary = false :=
            Bool.eq_false_iff.mpr fun group => silent (Block.isSilent_of_isEmptyGroup group)
          rw [List.filter_cons_of_pos (by simp [stays]), List.takeWhile_cons_of_neg action,
            List.takeWhile_cons_of_neg silent]
          rfl

/-- Empty groups declare nothing. -/
theorem declared_withoutEmptyGroups (vocabulary : Vocabulary) (workspace : Workspace) :
    (workspace.withoutEmptyGroups vocabulary).declared vocabulary =
      workspace.declared vocabulary := by
  rw [declared, declared, withoutEmptyGroups, Block.actionsOf, Block.actionsOf,
    List.filter_filter]
  congr 1
  refine List.filter_congr fun block _ => ?_
  by_cases action : vocabulary.kind? block.type = some .action
  · simp [action, Block.isEmptyGroup]
  · simp [action]

/-- Empty groups contribute nothing. -/
theorem loose_withoutEmptyGroups (vocabulary : Vocabulary) (workspace : Workspace) :
    (workspace.withoutEmptyGroups vocabulary).loose vocabulary = workspace.loose vocabulary := by
  unfold withoutEmptyGroups loose
  induction workspace.blocks with
  | nil => rfl
  | cons block blocks ih =>
      by_cases group : block.isEmptyGroup vocabulary = true
      · have silent := List.isEmpty_iff.mp (Block.isSilent_of_isEmptyGroup group)
        rw [List.filter_cons_of_neg (by simp [group]), ih, Block.flattenAll, silent,
          List.nil_append]
      · rw [List.filter_cons_of_pos (by simp [group]), Block.flattenAll, ih, Block.flattenAll]

end Workspace

/-! ## Programs -/

/-- A program has an action at a place, and apart from it the given ones. -/
structure Script.Program.StandsAt (program : Program) (place : Nat) (action : Script.Action)
    (others : List Script.Action) : Prop where
  /-- The action is there. -/
  there : program.actions[place]? = some action
  /-- Without it the other actions are left. -/
  others : program.actions.eraseIdx place = others

namespace Compiler

variable {compiler : Compiler} {workspace : Workspace}

/-- The default action of a workspace, with all statements outside its actions. -/
def gathered (compiler : Compiler) (workspace : Workspace) : Script.Action :=
  ⟨compiler.defaultAction.name, compiler.defaultAction.every, workspace.loose compiler.vocabulary⟩

/-- Without loose statements a program has the declared actions only. -/
theorem actions_programOf (silent : workspace.loose compiler.vocabulary = []) :
    (compiler.programOf workspace).actions = workspace.declared compiler.vocabulary := by
  rw [programOf, looseAction?, if_pos silent]
  exact assemble_none_pieces compiler.vocabulary 0 workspace.blocks

/-- With loose statements the default action stands where the first block does that is no action. -/
theorem standsAt_programOf (some : workspace.loose compiler.vocabulary ≠ []) :
    (compiler.programOf workspace).StandsAt (workspace.actionsBeforeLoose compiler.vocabulary)
      (compiler.gathered workspace) (workspace.declared compiler.vocabulary) := by
  obtain ⟨before, after, whole, place, made⟩ := assemble_pieces compiler.vocabulary
    (compiler.looseAction? workspace) 0 workspace.blocks exists_of_looseAction?
  have actions : (compiler.programOf workspace).actions =
      before ++ compiler.gathered workspace :: after := by
    rw [programOf, made, looseAction?, if_neg some, Option.toList_some, List.append_assoc,
      List.singleton_append]
    rfl
  have length : workspace.actionsBeforeLoose compiler.vocabulary = before.length := place.symm
  constructor
  · rw [actions, length, List.getElem?_append_right (Nat.le_refl _), Nat.sub_self,
      List.getElem?_cons_zero]
  · rw [actions, length, List.eraseIdx_append_of_length_le (Nat.le_refl _), Nat.sub_self,
      List.eraseIdx_cons_zero]
    exact whole

/-- The blocks of a workspace with which nothing is wrong are of known types. -/
theorem exists_kind_of_faults_eq_nil (clean : compiler.faults workspace = []) :
    ∀ block ∈ workspace.blocks, ∃ kind, compiler.vocabulary.kind? block.type = some kind := by
  intro block member
  obtain ⟨index, there⟩ := List.mem_iff_getElem?.mp member
  obtain ⟨kind, faultless⟩ := Block.faults_eq_nil_iff.mp
    ((faults_eq_nil_iff.mp clean).1 index block there)
  exact ⟨kind, faultless.known⟩

/-- **The place of the default action, and how empty groups move it.** Where there are no loose
statements, empty groups make no difference. Where there are, the default action is the only one of
its name and stands after the actions before the first block that is no action; without the empty
groups it stands after the actions before the first loose statement, and all else is the same. These
are two different places exactly if an empty group comes before an action before the first loose
statement. -/
theorem lower_defaultAction_place {program : Program}
    (lowered : compiler.lower workspace = .ok program) :
    ∃ rest, compiler.lower (workspace.withoutEmptyGroups compiler.vocabulary) = .ok rest ∧
      (workspace.loose compiler.vocabulary = [] → rest = program) ∧
      (workspace.loose compiler.vocabulary ≠ [] →
        (∀ action ∈ workspace.declared compiler.vocabulary,
          action.name ≠ compiler.defaultAction.name) ∧
        program.StandsAt (workspace.actionsBeforeLoose compiler.vocabulary)
          (compiler.gathered workspace) (workspace.declared compiler.vocabulary) ∧
        rest.StandsAt (workspace.actionsBeforeStatement compiler.vocabulary)
          (compiler.gathered workspace) (workspace.declared compiler.vocabulary) ∧
        (workspace.actionsBeforeLoose compiler.vocabulary =
            workspace.actionsBeforeStatement compiler.vocabulary ↔
          (workspace.blocks.takeWhile (·.isSilent compiler.vocabulary)).Pairwise
            fun earlier later => later.isAction compiler.vocabulary = true →
              earlier.isAction compiler.vocabulary = true)) := by
  obtain ⟨clean, rfl⟩ := lower_eq_ok_iff.mp lowered
  have part : (workspace.withoutEmptyGroups compiler.vocabulary).blocks.Subperm workspace.blocks :=
    List.filter_sublist.subperm
  have sameLoose := workspace.loose_withoutEmptyGroups compiler.vocabulary
  have sameDeclared := workspace.declared_withoutEmptyGroups compiler.vocabulary
  refine ⟨_, lower_eq_ok_iff.mpr ⟨faults_eq_nil_of_subperm part clean, rfl⟩,
    fun silent => ?_, fun some => ⟨fun action member taken => ?_, standsAt_programOf some, ?_,
      Workspace.actionsBeforeLoose_eq_iff⟩⟩
  · have actions := actions_programOf silent
    rw [← sameDeclared, ← actions_programOf (sameLoose.trans silent)] at actions
    exact congrArg Program.mk actions.symm
  · obtain ⟨block, declares, rfl⟩ := List.mem_map.mp member
    have free := ((faults_eq_nil_iff.mp clean).2.2 some).2
    rw [← taken] at free
    exact free (List.mem_map.mpr ⟨block, declares, rfl⟩)
  · have known := exists_kind_of_faults_eq_nil clean
    have stands := @standsAt_programOf compiler _ (sameLoose.trans_ne some)
    rwa [gathered, sameLoose, sameDeclared,
      Workspace.actionsBeforeLoose_withoutEmptyGroups known] at stands

/-- An action, an empty group and a statement: the empty group comes after the action. -/
theorem lower_defaultAction_place_lamp :
    let group := Block.ofType "statementSequence"
    let lamp := ((Block.ofType "publish").withField "topic" "lamp").withField "payload" "on"
    let blink := (((Block.ofType "action").withField "name" "Blink").withField "every"
      "5s").withSlot "do" [lamp]
    let loose : Script.Action := ⟨"MyAction", .standard, [.publish "lamp" "on"]⟩
    let declared : Script.Action :=
      ⟨"Blink", ⟨5, .seconds, by decide, by decide⟩, [.publish "lamp" "on"]⟩
    standard.lower ⟨[blink, group, lamp]⟩ = .ok ⟨[declared, loose]⟩ ∧
      Program.StandsAt ⟨[declared, loose]⟩ 1 loose [declared] ∧
      ∃ rest, standard.lower ⟨[blink, lamp]⟩ = .ok rest ∧ rest.StandsAt 1 loose [declared] := by
  intro group lamp blink loose declared
  have lowered : standard.lower ⟨[blink, group, lamp]⟩ = .ok ⟨[declared, loose]⟩ := rfl
  have some : Workspace.loose standard.vocabulary ⟨[blink, group, lamp]⟩ ≠ [] :=
    List.cons_ne_nil _ _
  have left : Workspace.withoutEmptyGroups standard.vocabulary ⟨[blink, group, lamp]⟩ =
      ⟨[blink, lamp]⟩ := rfl
  have gathers : standard.gathered ⟨[blink, group, lamp]⟩ = loose := rfl
  have declares : Workspace.declared standard.vocabulary ⟨[blink, group, lamp]⟩ = [declared] := by
    decide +kernel
  have first : Workspace.actionsBeforeLoose standard.vocabulary ⟨[blink, group, lamp]⟩ = 1 := rfl
  have firstStatement :
      Workspace.actionsBeforeStatement standard.vocabulary ⟨[blink, group, lamp]⟩ = 1 := rfl
  obtain ⟨rest, loweredRest, -, places⟩ := lower_defaultAction_place lowered
  obtain ⟨-, stands, standsRest, -⟩ := places some
  rw [gathers, declares, first] at stands
  rw [gathers, declares, firstStatement] at standsRest
  rw [left] at loweredRest
  exact ⟨lowered, stands, rest, loweredRest, standsRest⟩

/-- An empty group before an action moves the default action in front of it, although the first
loose statement comes after one action. -/
theorem lower_defaultAction_place_empty_group :
    let group := Block.ofType "statementSequence"
    let lamp := ((Block.ofType "publish").withField "topic" "lamp").withField "payload" "on"
    let blink := (((Block.ofType "action").withField "name" "Blink").withField "every"
      "5s").withSlot "do" [lamp]
    let loose : Script.Action := ⟨"MyAction", .standard, [.publish "lamp" "on"]⟩
    let declared : Script.Action :=
      ⟨"Blink", ⟨5, .seconds, by decide, by decide⟩, [.publish "lamp" "on"]⟩
    Workspace.actionsBeforeStatement .standard ⟨[group, blink, lamp]⟩ = 1 ∧
      standard.lower ⟨[group, blink, lamp]⟩ = .ok ⟨[loose, declared]⟩ ∧
      standard.lower ⟨[blink, lamp]⟩ = .ok ⟨[declared, loose]⟩ := by
  exact ⟨rfl, rfl, rfl⟩

end Compiler

end BlockScript
