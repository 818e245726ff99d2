import BlockScript.Proofs.Compile.Placement
import Mathlib.Data.List.InsertIdx

/-!
# Groups

A group stands for the statements in it, wherever it lies. `Block.Surroundings` is what lies around
a run of blocks of a workspace, at any depth, and `Block.Surroundings.workspace` puts a run there.
Every block that a path reaches lies in surroundings (`Workspace.Reaches.exists_surroundings`).

A program does not change when a group gives way to the blocks in it, or when a run of statements
is put into a new group (`Compiler.lower_grouping`). Among the blocks of the workspace itself this
needs that the run contributes a statement, for an empty group has a say in the place of the
default action. In a slot a group without statements is as good as none: what is asked of a slot is
asked of its statements.

Both are cases of one rule: a run of statements gives way to another one that says the same
(`Compiler.lower_of_same_statements`). It does so in its slot first (`Block.RunReplaces.replaces`);
the block that has the slot then gives way to itself as changed, and so on outwards
(`Compiler.lower_of_replaces`).
-/

set_option autoImplicit false

namespace BlockScript

open Lowering
open Script (Program isIdentifier)

/-! ## Sound blocks -/

namespace Block

/-- Nothing is wrong with a block, nor with any block in it, wherever it lies. -/
def Sound (vocabulary : Vocabulary) (nested : Bool) (block : Block) : Prop :=
  ∀ path, block.faults vocabulary path nested = []

variable {vocabulary : Vocabulary} {nested : Bool} {block : Block} {run : List Block}

/-- One path tells whether a block is sound. -/
theorem sound_iff_faults (path : Block.Path) :
    block.Sound vocabulary nested ↔ block.faults vocabulary path nested = [] :=
  ⟨fun sound => sound path, fun clean elsewhere => faults_eq_nil_anywhere elsewhere clean⟩

/-- What makes a block of a kind sound. -/
structure SoundFor (vocabulary : Vocabulary) (nested : Bool) (kind : Kind) (block : Block) :
    Prop where
  /-- The type is a name for the kind. -/
  known : vocabulary.kind? block.type = some kind
  /-- The fields and slots are those of the kind. -/
  conforms : block.Conforms kind
  /-- The texts follow the rules of the kind. -/
  texts : block.ProperTexts kind
  /-- No action lies in a slot. -/
  placed : kind = .action → nested = false
  /-- The blocks in the slots are sound. -/
  inside : ∀ slot ∈ kind.schema.slots, ∀ child ∈ block.inSlot slot.name,
    child.Sound vocabulary true
  /-- The required slots hold statements. -/
  filled : ∀ slot ∈ kind.schema.slots, slot.required = true →
    block.flattenSlot vocabulary slot.name ≠ []

theorem sound_iff :
    block.Sound vocabulary nested ↔ ∃ kind, block.SoundFor vocabulary nested kind := by
  rw [sound_iff_faults .root, faults_eq_nil_iff]
  refine exists_congr fun kind => ⟨fun faultless => ?_, fun sound => ?_⟩
  · refine { faultless with inside := fun slot member child there => ?_ }
    obtain ⟨index, found⟩ := List.mem_iff_getElem?.mp there
    exact (sound_iff_faults _).mpr (faultless.inside slot member index child found)
  · refine { sound with inside := fun slot member index child found => ?_ }
    exact sound.inside slot member child (List.mem_of_getElem? found) _

/-- What is sound in a slot is sound among the blocks of the workspace. -/
theorem Sound.outside (sound : block.Sound vocabulary true) : block.Sound vocabulary false := by
  obtain ⟨kind, soundFor⟩ := sound_iff.mp sound
  exact sound_iff.mpr ⟨kind, { soundFor with placed := fun _ => rfl }⟩

/-- No action is sound in a slot. -/
theorem Sound.not_action (sound : block.Sound vocabulary true) :
    vocabulary.kind? block.type ≠ some .action := by
  obtain ⟨kind, soundFor⟩ := sound_iff.mp sound
  rw [soundFor.known]
  rintro ⟨⟩
  cases soundFor.placed rfl

/-- What is sound among the blocks of the workspace and no action is sound in a slot. -/
theorem Sound.within (sound : block.Sound vocabulary false)
    (other : vocabulary.kind? block.type ≠ some .action) : block.Sound vocabulary true := by
  obtain ⟨kind, soundFor⟩ := sound_iff.mp sound
  refine sound_iff.mpr ⟨kind, { soundFor with placed := ?_ }⟩
  rintro rfl
  exact absurd soundFor.known other

/-! ### Groups -/

/-- A new group of blocks, without fields. -/
def group (type : String) (id? : Option String) (run : List Block) : Block :=
  ⟨type, id?, [], [("statements", run)]⟩

/-- A group contributes what the blocks in it contribute. -/
theorem flatten_of_sequence (sequence : vocabulary.kind? block.type = some .sequence) :
    block.flatten vocabulary = flattenAll vocabulary (block.inSlot "statements") := by
  rw [flatten_eq, sequence]
  rfl

/-- The blocks in a sound group are sound. -/
theorem Sound.of_mem_group (sound : block.Sound vocabulary nested)
    (sequence : vocabulary.kind? block.type = some .sequence) :
    ∀ child ∈ block.inSlot "statements", child.Sound vocabulary true := by
  obtain ⟨kind, soundFor⟩ := sound_iff.mp sound
  obtain rfl := Option.some.inj (sequence.symm.trans soundFor.known)
  exact soundFor.inside ⟨"statements", false⟩ (List.mem_singleton_self _)

theorem inSlot_group (type : String) (id? : Option String) (run : List Block) :
    (group type id? run).inSlot "statements" = run :=
  rfl

/-- A new group of sound blocks is sound. -/
theorem sound_group {type : String} (sequence : vocabulary.kind? type = some .sequence)
    (id? : Option String) (each : ∀ block ∈ run, block.Sound vocabulary true) :
    (group type id? run).Sound vocabulary nested := by
  refine sound_iff.mpr ⟨.sequence, sequence, ⟨nofun, fun slot blocks found => ?_, nofun⟩, trivial,
    nofun, fun slot member => ?_, fun slot member required => ?_⟩
  · rw [group, slot?, Table.lookup_cons] at found
    split at found
    · next same => exact ⟨⟨"statements", false⟩, List.mem_singleton_self _, same.symm⟩
    · cases found
  · obtain rfl := List.mem_singleton.mp member
    exact each
  · obtain rfl := List.mem_singleton.mp member
    cases required

end Block

/-! ## Surroundings -/

/-- A block of which one slot is left open. -/
structure Block.OpenSlot where
  /-- The type of the block. -/
  type : String
  /-- The name by which the editor knows the block. -/
  id? : Option String
  /-- The fields of the block. -/
  fields : List (String × String)
  /-- The slots before the open one. -/
  slotsBefore : List (String × List Block)
  /-- The name of the open slot. -/
  slot : String
  /-- The slots after the open one. -/
  slotsAfter : List (String × List Block)

/-- The block with a run of blocks in the open slot. -/
def Block.OpenSlot.block (opened : OpenSlot) (run : List Block) : Block :=
  ⟨opened.type, opened.id?, opened.fields,
    opened.slotsBefore ++ (opened.slot, run) :: opened.slotsAfter⟩

/-- What lies around a run of blocks of a workspace. -/
inductive Block.Surroundings where
  /-- The run lies among the blocks of the workspace, between others. -/
  | top (before after : List Block)
  /-- The run lies in a slot, between others, and the block that has the slot lies in surroundings
  itself. -/
  | inside (outer : Surroundings) (opened : OpenSlot) (before after : List Block)

namespace Block.Surroundings

/-- The blocks of the workspace when a run lies in these surroundings. -/
def fill : Surroundings → List Block → List Block
  | top before after, run => before ++ run ++ after
  | inside outer opened before after, run =>
    outer.fill [opened.block (before ++ run ++ after)]

/-- The workspace in which a run lies in these surroundings. -/
def workspace (around : Surroundings) (run : List Block) : Workspace := ⟨around.fill run⟩

/-- The run lies in no slot. -/
def IsTop : Surroundings → Prop
  | top .. => True
  | inside .. => False

end Block.Surroundings

/-- A slot of a block that holds a block is an open slot of it. -/
theorem Block.exists_openSlot {block child : Block} {slot : String}
    (inside : child ∈ block.inSlot slot) :
    ∃ opened : OpenSlot, opened.block (block.inSlot slot) = block := by
  obtain ⟨slotsBefore, slotsAfter, table⟩ :=
    List.append_of_mem (Table.mem_of_lookup (slot?_eq_some_of_mem_inSlot inside))
  refine ⟨⟨block.type, block.id?, block.fields, slotsBefore, slot, slotsAfter⟩, ?_⟩
  obtain ⟨type, id?, fields, slots⟩ := block
  exact congrArg (Block.mk type id? fields) table.symm

/-- **Every block that a path reaches lies in surroundings**, and in no slot exactly if the path has
one step. -/
theorem Workspace.Reaches.exists_surroundings {vocabulary : Vocabulary} {workspace : Workspace}
    {path : Block.Path} {block : Block} (reached : workspace.Reaches vocabulary path block) :
    ∃ around : Block.Surroundings, around.workspace [block] = workspace ∧
      (around.IsTop ↔ path.depth = 1) := by
  induction reached with
  | @top index block there =>
      obtain ⟨before, after, whole⟩ := List.append_of_mem (List.mem_of_getElem? there)
      refine ⟨.top before after, ?_, iff_of_true trivial rfl⟩
      rw [Block.Surroundings.workspace, Block.Surroundings.fill, List.append_assoc,
        List.singleton_append, ← whole]
  | @inside path parent kind slot index block outer _ _ there ih =>
      obtain ⟨around, filled, -⟩ := ih
      have member := List.mem_of_getElem? there
      obtain ⟨before, after, whole⟩ := List.append_of_mem member
      obtain ⟨opened, same⟩ := Block.exists_openSlot member
      have deep := outer.one_lt_depth_child slot index
      refine ⟨.inside around opened before after, ?_, iff_of_false not_false (by omega)⟩
      rw [← filled, Block.Surroundings.workspace, Block.Surroundings.fill, List.append_assoc,
        List.singleton_append, ← whole, same]
      rfl

/-! ## Blocks in place of others -/

namespace Block

/-- A run of blocks in a slot may give way to another one. -/
structure RunReplaces (vocabulary : Vocabulary) (run other : List Block) : Prop where
  /-- Both contribute the same statements. -/
  statements : flattenAll vocabulary other = flattenAll vocabulary run
  /-- Nothing is wrong with the new one where nothing is with the old one. -/
  sound : (∀ block ∈ run, block.Sound vocabulary true) →
    ∀ block ∈ other, block.Sound vocabulary true

/-- A block may give way to another one of the same type, with the same fields. -/
structure Replaces (vocabulary : Vocabulary) (block other : Block) : Prop where
  /-- The types are the same. -/
  type : other.type = block.type
  /-- The fields are the same. -/
  fields : other.fields = block.fields
  /-- Every slot contributes the same statements. -/
  statements : ∀ slot, other.flattenSlot vocabulary slot = block.flattenSlot vocabulary slot
  /-- Nothing is wrong with the new one where nothing is with the old one. -/
  sound : ∀ nested, block.Sound vocabulary nested → other.Sound vocabulary nested

section

variable {vocabulary : Vocabulary} {block other : Block} {run instead : List Block}

theorem flattenAll_append (vocabulary : Vocabulary) (blocks more : List Block) :
    flattenAll vocabulary (blocks ++ more) =
      flattenAll vocabulary blocks ++ flattenAll vocabulary more := by
  simp only [flattenAll_eq_flatMap, List.flatMap_append]

theorem flattenAll_singleton (vocabulary : Vocabulary) (block : Block) :
    flattenAll vocabulary [block] = block.flatten vocabulary :=
  List.append_nil _

theorem Replaces.text (replaces : block.Replaces vocabulary other) (field : String) :
    other.text field = block.text field := by
  rw [Block.text, Block.text, field?, field?, replaces.fields]

theorem Replaces.flatten (replaces : block.Replaces vocabulary other) :
    other.flatten vocabulary = block.flatten vocabulary := by
  have contents : other.flattenSlot vocabulary = block.flattenSlot vocabulary :=
    funext replaces.statements
  rw [flatten_eq, flatten_eq, replaces.type, contents]
  cases vocabulary.kind? block.type with
  | none => rfl
  | some kind => cases kind <;> simp only [Kind.flatten, replaces.text]

theorem Replaces.declared (replaces : block.Replaces vocabulary other) :
    other.declared vocabulary = block.declared vocabulary := by
  rw [Block.declared, Block.declared, replaces.text, replaces.text, replaces.statements]

/-- A block that may give way to another one is a run that may. -/
theorem Replaces.asRun (replaces : block.Replaces vocabulary other) :
    RunReplaces vocabulary [block] [other] where
  statements := by rw [flattenAll_singleton, flattenAll_singleton, replaces.flatten]
  sound each := by
    rw [List.forall_mem_singleton] at each ⊢
    exact replaces.sound true each

/-- A run gives way to another one between the same blocks. -/
theorem RunReplaces.between (replaces : RunReplaces vocabulary run instead)
    (before after : List Block) :
    RunReplaces vocabulary (before ++ run ++ after) (before ++ instead ++ after) where
  statements := by simp only [flattenAll_append, replaces.statements]
  sound each := by
    simp only [List.forall_mem_append] at each ⊢
    exact ⟨⟨each.1.1, replaces.sound each.1.2⟩, each.2⟩

/-- An open slot is what a lookup finds, or it is hidden by one of the same name before it. -/
theorem OpenSlot.inSlot_block (opened : OpenSlot) (run : List Block) (slot : String) :
    (opened.block run).inSlot slot =
      ((opened.slotsBefore.lookup slot).or
        (if slot = opened.slot then some run else opened.slotsAfter.lookup slot)).getD [] := by
  rw [inSlot, slot?, block, List.lookup_append, Table.lookup_cons]

/-- What another run changes in the slots of a block. -/
theorem OpenSlot.inSlot_block_cases (opened : OpenSlot) (slot : String) :
    (∀ run, (opened.block run).inSlot slot = run) ∨
      ∃ blocks, ∀ run, (opened.block run).inSlot slot = blocks := by
  simp only [inSlot_block]
  cases opened.slotsBefore.lookup slot with
  | some blocks => exact .inr ⟨blocks, fun _ => rfl⟩
  | none =>
      by_cases here : slot = opened.slot
      · exact .inl fun run => by rw [if_pos here]; rfl
      · exact .inr ⟨_, fun run => by rw [if_neg here]⟩

/-- **A run in a slot gives way to another one**, and to the outside the block that has the slot
does not change. -/
theorem RunReplaces.replaces (replaces : RunReplaces vocabulary run instead)
    (opened : OpenSlot) : (opened.block run).Replaces vocabulary (opened.block instead) := by
  have statements (slot : String) : (opened.block instead).flattenSlot vocabulary slot =
      (opened.block run).flattenSlot vocabulary slot := by
    rw [flattenSlot, flattenSlot]
    rcases opened.inSlot_block_cases slot with own | ⟨blocks, fixed⟩
    · rw [own, own, replaces.statements]
    · rw [fixed, fixed]
  refine ⟨rfl, rfl, statements, fun nested sound => ?_⟩
  obtain ⟨kind, soundFor⟩ := sound_iff.mp sound
  refine sound_iff.mpr ⟨kind, soundFor.known, ⟨soundFor.conforms.fields,
    fun slot blocks found => ?_, soundFor.conforms.required⟩, soundFor.texts, soundFor.placed,
    fun slot member => ?_, fun slot member required => ?_⟩
  · have names : (opened.block instead).slots.map (·.1) = (opened.block run).slots.map (·.1) := by
      simp only [OpenSlot.block, List.map_append, List.map_cons]
    have key := Table.mem_keys_iff.mpr ⟨blocks, found⟩
    rw [names] at key
    obtain ⟨old, foundOld⟩ := Table.mem_keys_iff.mp key
    exact soundFor.conforms.slots slot old foundOld
  · have old := soundFor.inside slot member
    rcases opened.inSlot_block_cases slot.name with own | ⟨blocks, fixed⟩
    · rw [own] at old ⊢
      exact replaces.sound old
    · rw [fixed] at old ⊢
      exact old
  · rw [statements]
    exact soundFor.filled slot member required

end

end Block

/-! ## Workspaces with the same program -/

/-- A program with an action at a place is known by that action and the others. -/
theorem Script.Program.StandsAt.unique {program other : Program} {place : Nat}
    {action : Script.Action} {others : List Script.Action}
    (stands : program.StandsAt place action others)
    (standsToo : other.StandsAt place action others) : program = other := by
  have actions {program : Program} (stands : program.StandsAt place action others) :
      program.actions = others.insertIdx place action := by
    obtain ⟨inside, same⟩ := List.getElem?_eq_some_iff.mp stands.there
    rw [← stands.others, ← same, List.insertIdx_eraseIdx_getElem]
  exact congrArg Program.mk ((actions stands).trans (actions standsToo).symm)

namespace Compiler

variable {compiler : Compiler} {workspace other : Workspace} {program : Program}

/-- A workspace is lowered when its blocks are sound and their names do not clash. -/
theorem lower_eq_ok_iff_sound :
    compiler.lower workspace = .ok program ↔
      (∀ block ∈ workspace.blocks, block.Sound compiler.vocabulary false) ∧
      (workspace.actionNames compiler.vocabulary).Nodup ∧
      (workspace.loose compiler.vocabulary ≠ [] →
        isIdentifier compiler.defaultAction.name = true ∧
          compiler.defaultAction.name ∉ workspace.actionNames compiler.vocabulary) ∧
      compiler.programOf workspace = program := by
  have each : (∀ (index : Nat) (block : Block), workspace.blocks[index]? = some block →
      block.faults compiler.vocabulary (.topLevel index) false = []) ↔
        ∀ block ∈ workspace.blocks, block.Sound compiler.vocabulary false := by
    constructor
    · intro clean block member
      obtain ⟨index, there⟩ := List.mem_iff_getElem?.mp member
      exact (Block.sound_iff_faults _).mpr (clean index block there)
    · exact fun sound index block there => sound block (List.mem_of_getElem? there) _
  rw [lower_eq_ok_iff, faults_eq_nil_iff, each, and_assoc, and_assoc]

/-- A program is known by the declared actions, the loose statements and the place of the default
action. -/
theorem programOf_eq
    (declared : other.declared compiler.vocabulary = workspace.declared compiler.vocabulary)
    (loose : other.loose compiler.vocabulary = workspace.loose compiler.vocabulary)
    (place : other.actionsBeforeLoose compiler.vocabulary =
      workspace.actionsBeforeLoose compiler.vocabulary) :
    compiler.programOf other = compiler.programOf workspace := by
  by_cases silent : workspace.loose compiler.vocabulary = []
  · have actions := actions_programOf (loose.trans silent)
    rw [declared, ← actions_programOf silent] at actions
    exact congrArg Program.mk actions
  · have stands := standsAt_programOf (loose.trans_ne silent)
    rw [place, gathered, loose, declared] at stands
    exact stands.unique (standsAt_programOf silent)

/-- **Another workspace of sound blocks is lowered to the same program** when it declares the same
actions and has the same loose statements, with the same number of actions before them. -/
theorem lower_of_same (lowered : compiler.lower workspace = .ok program)
    (sound : ∀ block ∈ other.blocks, block.Sound compiler.vocabulary false)
    (declared : other.declared compiler.vocabulary = workspace.declared compiler.vocabulary)
    (loose : other.loose compiler.vocabulary = workspace.loose compiler.vocabulary)
    (place : other.actionsBeforeLoose compiler.vocabulary =
      workspace.actionsBeforeLoose compiler.vocabulary) :
    compiler.lower other = .ok program := by
  obtain ⟨-, distinct, default, rfl⟩ := lower_eq_ok_iff_sound.mp lowered
  have names : other.actionNames compiler.vocabulary =
      workspace.actionNames compiler.vocabulary := by
    have same := congrArg (List.map fun action : Script.Action => action.name) declared
    rwa [Workspace.declared, Workspace.declared, List.map_map, List.map_map] at same
  refine lower_eq_ok_iff_sound.mpr ⟨sound, ?_, ?_, programOf_eq declared loose place⟩
  · rwa [names]
  · rwa [loose, names]

end Compiler

/-! ## Runs among the blocks of the workspace -/

/-- How many elements at the start of a list have a property is decided from any place on. -/
theorem length_takeWhile_append_congr {α : Type} {p : α → Bool} {xs ys : List α}
    (same : (xs.takeWhile p).length = (ys.takeWhile p).length) (before : List α) :
    ((before ++ xs).takeWhile p).length = ((before ++ ys).takeWhile p).length := by
  rw [List.takeWhile_append, List.takeWhile_append]
  split
  · rw [List.length_append, List.length_append, same]
  · rfl

/-- A run of blocks of the workspace may give way to another one. -/
structure Block.TopReplaces (vocabulary : Vocabulary) (run instead : List Block) : Prop where
  /-- Both declare the same actions. -/
  declared : (actionsOf vocabulary instead).map (·.declared vocabulary) =
    (actionsOf vocabulary run).map (·.declared vocabulary)
  /-- Both contribute the same statements. -/
  statements : flattenAll vocabulary instead = flattenAll vocabulary run
  /-- Before any blocks, both start with the same number of actions. -/
  place : ∀ after, ((instead ++ after).takeWhile (·.isAction vocabulary)).length =
    ((run ++ after).takeWhile (·.isAction vocabulary)).length
  /-- Nothing is wrong with the new one where nothing is with the old one. -/
  sound : (∀ block ∈ run, block.Sound vocabulary false) →
    ∀ block ∈ instead, block.Sound vocabulary false

namespace Block

variable {vocabulary : Vocabulary} {block other : Block} {run instead : List Block}

/-- A block that may give way to another one may do so anywhere. -/
theorem Replaces.atTop (replaces : block.Replaces vocabulary other) :
    TopReplaces vocabulary [block] [other] where
  declared := by
    simp only [actionsOf, List.filter_cons, List.filter_nil, replaces.type]
    split
    · simp only [List.map_cons, List.map_nil, replaces.declared]
    · rfl
  statements := replaces.asRun.statements
  place after := by
    have same : other.isAction vocabulary = block.isAction vocabulary := by
      rw [isAction, isAction, replaces.type]
    simp only [List.singleton_append, List.takeWhile_cons, same]
    split <;> rfl
  sound each := by
    rw [List.forall_mem_singleton] at each ⊢
    exact replaces.sound false each

/-- Blocks that are no actions declare nothing. -/
theorem actionsOf_eq_nil (other : ∀ block ∈ run, vocabulary.kind? block.type ≠ some .action) :
    actionsOf vocabulary run = [] := by
  refine List.filter_eq_nil_iff.mpr fun block member => ?_
  simpa using other block member

/-- No action comes before blocks that are no actions, of which there are some. -/
theorem takeWhile_isAction_append (nonempty : run ≠ [])
    (other : ∀ block ∈ run, vocabulary.kind? block.type ≠ some .action) (after : List Block) :
    (run ++ after).takeWhile (·.isAction vocabulary) = [] := by
  obtain ⟨first, rest, rfl⟩ := List.exists_cons_of_ne_nil nonempty
  have noAction : ¬ first.isAction vocabulary = true := by
    simpa [isAction] using other first List.mem_cons_self
  rw [List.cons_append, List.takeWhile_cons_of_neg noAction]

/-- A run of statements gives way to another one that says the same, if there are any. -/
theorem TopReplaces.of_statements
    (statements : flattenAll vocabulary instead = flattenAll vocabulary run)
    (some : flattenAll vocabulary run ≠ [])
    (sound : ∀ block ∈ run, block.Sound vocabulary true)
    (soundToo : ∀ block ∈ instead, block.Sound vocabulary true) :
    TopReplaces vocabulary run instead := by
  have nonempty {blocks : List Block} (some : flattenAll vocabulary blocks ≠ []) :
      blocks ≠ [] := by
    rintro rfl
    exact some rfl
  have other (block : Block) (member : block ∈ run) := (sound block member).not_action
  have otherToo (block : Block) (member : block ∈ instead) := (soundToo block member).not_action
  refine ⟨?_, statements, fun after => ?_, fun _ block member => (soundToo block member).outside⟩
  · rw [actionsOf_eq_nil other, actionsOf_eq_nil otherToo]
  · rw [takeWhile_isAction_append (nonempty some) other,
      takeWhile_isAction_append (nonempty (statements.trans_ne some)) otherToo]

end Block

namespace Compiler

variable {compiler : Compiler} {block other : Block} {run instead : List Block} {program : Program}

/-- The program is the same when a run of blocks of the workspace gives way to another one. -/
theorem lower_of_topReplaces (replaces : Block.TopReplaces compiler.vocabulary run instead)
    {before after : List Block}
    (lowered : compiler.lower ⟨before ++ run ++ after⟩ = .ok program) :
    compiler.lower ⟨before ++ instead ++ after⟩ = .ok program := by
  have sound := (lower_eq_ok_iff_sound.mp lowered).1
  simp only [List.forall_mem_append] at sound
  refine lower_of_same lowered ?_ ?_ ?_ ?_
  · simp only [List.forall_mem_append]
    exact ⟨⟨sound.1.1, replaces.sound sound.1.2⟩, sound.2⟩
  · have declared := replaces.declared
    simp only [Workspace.declared, Block.actionsOf, List.filter_append, List.map_append]
      at declared ⊢
    rw [declared]
  · simp only [Workspace.loose, Block.flattenAll_append, replaces.statements]
  · simp only [Workspace.actionsBeforeLoose, List.append_assoc]
    exact length_takeWhile_append_congr (replaces.place after) before

/-- **The program is the same when a block gives way to another one**, at any depth. -/
theorem lower_of_replaces (around : Block.Surroundings)
    (replaces : block.Replaces compiler.vocabulary other)
    (lowered : compiler.lower (around.workspace [block]) = .ok program) :
    compiler.lower (around.workspace [other]) = .ok program := by
  induction around generalizing block other with
  | top before after => exact lower_of_topReplaces replaces.atTop lowered
  | inside outer opened before after ih =>
      exact ih ((replaces.asRun.between before after).replaces opened) lowered

/-- **The program is the same when a run of statements gives way to another one that says the
same**, at any depth. Among the blocks of the workspace it has to say something. -/
theorem lower_of_same_statements (around : Block.Surroundings)
    (replaces : Block.RunReplaces compiler.vocabulary run instead)
    (noAction : ∀ block ∈ run, compiler.vocabulary.kind? block.type ≠ some .action)
    (some : around.IsTop → Block.flattenAll compiler.vocabulary run ≠ [])
    (lowered : compiler.lower (around.workspace run) = .ok program) :
    compiler.lower (around.workspace instead) = .ok program := by
  cases around with
  | top before after =>
      have each := (lower_eq_ok_iff_sound.mp lowered).1
      have sound (block : Block) (member : block ∈ run) : block.Sound compiler.vocabulary true :=
        (each block (List.mem_append_left _ (List.mem_append_right _ member))).within
          (noAction block member)
      have soundToo := replaces.sound sound
      exact lower_of_topReplaces
        (.of_statements replaces.statements (some trivial) sound soundToo) lowered
  | inside outer opened before after =>
      exact lower_of_replaces outer ((replaces.between before after).replaces opened) lowered

/-- **Groups are transparent.** A group that lies in a slot, or among the blocks of the workspace
with a statement in it, may give way to the blocks in it, and a run of statements may be put into a
new group there: the workspace is lowered to the same program. -/
theorem lower_grouping (compiler : Compiler) (around : Block.Surroundings) :
    (∀ block program, compiler.vocabulary.kind? block.type = some .sequence →
      (around.IsTop → block.flatten compiler.vocabulary ≠ []) →
      compiler.lower (around.workspace [block]) = .ok program →
        compiler.lower (around.workspace (block.inSlot "statements")) = .ok program) ∧
    ∀ run type id? program, compiler.vocabulary.kind? type = some .sequence →
      (∀ block ∈ run, compiler.vocabulary.kind? block.type ≠ some .action) →
      (around.IsTop → Block.flattenAll compiler.vocabulary run ≠ []) →
      compiler.lower (around.workspace run) = .ok program →
        compiler.lower (around.workspace [.group type id? run]) = .ok program := by
  constructor
  · intro block program sequence some lowered
    have own : Block.flattenAll compiler.vocabulary [block] = block.flatten compiler.vocabulary :=
      Block.flattenAll_singleton _ _
    refine lower_of_same_statements around ⟨?_, fun each => ?_⟩ ?_ ?_ lowered
    · rw [own, Block.flatten_of_sequence sequence]
    · exact (List.forall_mem_singleton.mp each).of_mem_group sequence
    · rw [List.forall_mem_singleton, sequence]
      nofun
    · rwa [own]
  · intro run type id? program sequence noAction some lowered
    refine lower_of_same_statements around ⟨?_, fun each => ?_⟩ noAction some lowered
    · rw [Block.flattenAll_singleton, Block.flatten_of_sequence sequence, Block.inSlot_group]
    · exact List.forall_mem_singleton.mpr (Block.sound_group sequence id? each)

/-- A group in a group in the first branch of a conditional gives way to the two statements in it,
and these two are put into a group again. -/
theorem lower_grouping_warm :
    let lamp := ((Block.ofType "publish").withField "topic" "lamp").withField "payload" "on"
    let fan := ((Block.ofType "publish").withField "topic" "fan").withField "payload" "on"
    let around : Block.Surroundings :=
      .inside (.inside (.top [] [lamp]) ⟨"if", none, [("condition", "warm")], [], "then", []⟩
        [fan] []) ⟨"statementSequence", none, [], [], "statements", []⟩ [] [lamp]
    let program : Program := ⟨[⟨"MyAction", .standard, [.conditional "warm" [.publish "fan" "on",
      .publish "lamp" "on", .publish "fan" "on", .publish "lamp" "on"] [],
      .publish "lamp" "on"]⟩]⟩
    standard.lower (around.workspace [.group "statementSequence" none [lamp, fan]]) = .ok program ∧
      standard.lower (around.workspace [lamp, fan]) = .ok program ∧
      standard.lower (around.workspace [.group "statementSequence" (some "g") [lamp, fan]]) =
        .ok program := by
  intro lamp fan around program
  have sequence : standard.vocabulary.kind? "statementSequence" = some .sequence := rfl
  have noAction : ∀ block ∈ [lamp, fan], standard.vocabulary.kind? block.type ≠ some .action := by
    decide
  have grouped : standard.lower (around.workspace [.group "statementSequence" none [lamp, fan]]) =
      .ok program := rfl
  have apart : standard.lower (around.workspace [lamp, fan]) = .ok program :=
    (lower_grouping standard around).1 (.group "statementSequence" none [lamp, fan]) program
      sequence (fun top => absurd top not_false) grouped
  exact ⟨grouped, apart, (lower_grouping standard around).2 _ "statementSequence" (some "g") program
    sequence noAction (fun top => absurd top not_false) apart⟩

end Compiler

end BlockScript
