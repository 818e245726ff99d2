import BlockScript.Proofs.Compile.Faults
import Mathlib.Data.List.Nodup

/-!
# Blocks with which nothing is wrong

What it means that the list of faults of a block is empty: the block conforms to its kind
(`Block.Conforms`), its texts are proper (`Block.ProperTexts`), it is no action in a slot, its
required slots hold statements, and nothing is wrong with the blocks in its slots
(`Block.faults_eq_nil_iff`).
-/

set_option autoImplicit false

namespace BlockScript

open Lowering
open Script (isIdentifier)

/-- The names in a table are those to which something is bound. -/
theorem Table.mem_keys_iff {α : Type} {name : String} {table : List (String × α)} :
    name ∈ table.map (·.1) ↔ ∃ value, table.lookup name = some value := by
  constructor
  · intro member
    obtain ⟨entry, found, same⟩ := List.mem_map.mp member
    induction table with
    | nil => cases found
    | cons first table ih =>
        obtain ⟨key, value⟩ := first
        rw [Table.lookup_cons]
        by_cases here : name = key
        · exact ⟨value, if_pos here⟩
        · rw [if_neg here]
          rcases List.mem_cons.mp found with rfl | later
          · exact absurd same.symm here
          · exact ih (List.mem_map.mpr ⟨entry, later, same⟩) later
  · rintro ⟨value, found⟩
    exact List.mem_map.mpr ⟨(name, value), Table.mem_of_lookup found, rfl⟩

namespace Block

/-! ## Fields and slots -/

/-- Holds of a name that a list of fields or slots has. -/
def Declares (members : List Member) (name : String) : Prop :=
  ∃ member ∈ members, member.name = name

/-- A block has only fields and slots that its kind has, and the fields that its kind requires. -/
structure Conforms (kind : Kind) (block : Block) : Prop where
  /-- Every field is one that the kind has. -/
  fields : ∀ field text, block.field? field = some text → Declares kind.schema.fields field
  /-- Every slot is one that the kind has. -/
  slots : ∀ slot blocks, block.slot? slot = some blocks → Declares kind.schema.slots slot
  /-- Every required field is there. -/
  required : ∀ member ∈ kind.schema.fields, member.required = true →
    ∃ text, block.field? member.name = some text

theorem any_name_iff {members : List Member} {name : String} :
    members.any (·.name == name) = true ↔ Declares members name := by
  simp [Declares]

/-- The four ways in which the fields and slots of a block violate its kind. -/
theorem Kind.mem_violations_iff {kind : Kind} {block : Block} {fault : BlockFault} :
    fault ∈ kind.violations block ↔
      (∃ field, ((∃ text, block.field? field = some text) ∧ ¬ Declares kind.schema.fields field) ∧
        BlockFault.unknownField block.type field = fault) ∨
      (∃ slot, ((∃ blocks, block.slot? slot = some blocks) ∧ ¬ Declares kind.schema.slots slot) ∧
        BlockFault.unknownSlot block.type slot = fault) ∨
      (∃ field, (field ∈ kind.schema.fields ∧ field.required = true ∧
          block.field? field.name = none) ∧
        BlockFault.missingField block.type field.name = fault) ∨
      (∃ slot, (slot ∈ kind.schema.slots ∧ slot.required = true ∧
          block.inSlot slot.name = []) ∧
        BlockFault.missingSlot block.type slot.name = fault) := by
  simp only [violations, List.mem_append, List.mem_map, List.mem_filter, Bool.not_eq_true',
    ← Bool.not_eq_true, any_name_iff, Bool.and_eq_true, Option.isNone_iff_eq_none,
    List.isEmpty_iff, or_assoc]
  simp only [field?, slot?, inSlot, ← Table.mem_keys_iff, List.mem_map]

theorem Kind.violations_eq_nil_iff {kind : Kind} {block : Block} :
    kind.violations block = [] ↔
      block.Conforms kind ∧
        ∀ slot ∈ kind.schema.slots, slot.required = true → block.inSlot slot.name ≠ [] := by
  rw [List.eq_nil_iff_forall_not_mem]
  simp only [mem_violations_iff, not_or, not_exists, not_and]
  constructor
  · intro clean
    refine ⟨⟨fun field text found => ?_, fun slot blocks found => ?_,
      fun field member required => ?_⟩, fun slot member required empty => ?_⟩
    · by_contra unknown
      exact (clean _).1 field ⟨⟨text, found⟩, unknown⟩ rfl
    · by_contra unknown
      exact (clean _).2.1 slot ⟨⟨blocks, found⟩, unknown⟩ rfl
    · by_contra missing
      have absent : block.field? field.name = none := by
        simpa [Option.eq_none_iff_forall_ne_some] using missing
      exact (clean _).2.2.1 field ⟨member, required, absent⟩ rfl
    · exact (clean _).2.2.2 slot ⟨member, required, empty⟩ rfl
  · rintro ⟨conforms, filled⟩ fault
    refine ⟨fun field ⟨⟨text, found⟩, unknown⟩ _ => unknown (conforms.fields field text found),
      fun slot ⟨⟨blocks, found⟩, unknown⟩ _ => unknown (conforms.slots slot blocks found),
      fun field ⟨member, required, absent⟩ _ => ?_,
      fun slot ⟨member, required, empty⟩ _ => filled slot member required empty⟩
    obtain ⟨text, found⟩ := conforms.required field member required
    rw [absent] at found
    cases found

/-! ## Texts -/

/-- The texts of a block follow the rules of its kind: the trimmed name of an action is an
identifier and its trigger can be read, the trimmed condition of a conditional is neither empty nor
broken, and a topic does not consist of blanks. -/
def ProperTexts (kind : Kind) (block : Block) : Prop :=
  match kind with
  | .action =>
    (∃ text, block.field? "name" = some text ∧ isIdentifier (Text.trimmed text) = true) ∧
      ∃ text, block.field? "every" = some text ∧ ∃ every, Duration.parse text = .ok every
  | .conditional =>
    ∃ text, block.field? "condition" = some text ∧
      (Text.trimmed text ≠ "" ∧ '\n' ∉ (Text.trimmed text).toList ∧
        '\r' ∉ (Text.trimmed text).toList)
  | .publish =>
    (∃ text, block.field? "topic" = some text ∧ Text.isAllBlank text.toList = false) ∧
      ∃ text, block.field? "payload" = some text
  | .sequence => True

theorem Kind.textFaults_eq_nil_iff {kind : Kind} {block : Block} :
    kind.textFaults block = [] ↔ block.ProperTexts kind := by
  cases kind with
  | action =>
      simp only [textFaults, List.append_eq_nil_iff, failuresOf_eq_nil_iff,
        bind_requiredField_eq_ok_iff, actionName_eq_ok_iff, trigger_eq_ok_iff, ProperTexts]
      constructor
      · rintro ⟨⟨_, text, found, identifier, -⟩, every, other, foundOther, reads⟩
        exact ⟨⟨text, found, identifier⟩, other, foundOther, every, reads⟩
      · rintro ⟨⟨text, found, identifier⟩, other, foundOther, every, reads⟩
        exact ⟨⟨_, text, found, identifier, rfl⟩, every, other, foundOther, reads⟩
  | conditional =>
      simp only [textFaults, failuresOf_eq_nil_iff, bind_requiredField_eq_ok_iff,
        condition_eq_ok_iff, ProperTexts]
      constructor
      · rintro ⟨_, text, found, proper, -⟩
        exact ⟨text, found, proper⟩
      · rintro ⟨text, found, proper⟩
        exact ⟨_, text, found, proper, rfl⟩
  | publish =>
      simp only [textFaults, List.append_eq_nil_iff, failuresOf_eq_nil_iff,
        bind_requiredField_eq_ok_iff, requiredField_eq_ok_iff, topic_eq_ok_iff, ProperTexts]
      constructor
      · rintro ⟨⟨_, text, found, visible, -⟩, payload⟩
        exact ⟨⟨text, found, visible⟩, payload⟩
      · rintro ⟨⟨text, found, visible⟩, payload⟩
        exact ⟨⟨_, text, found, visible, rfl⟩, payload⟩
  | sequence => simp [textFaults, ProperTexts]

/-! ## Whole blocks -/

theorem Kind.placeFaults_eq_nil_iff {kind : Kind} {nested : Bool} {block : Block} :
    kind.placeFaults nested block = [] ↔ (kind = .action → nested = false) := by
  cases kind <;> cases nested <;> simp [placeFaults, isStatement]

theorem emptyFaults_eq_nil_iff {vocabulary : Vocabulary} {path : Block.Path} {block : Block}
    {slot : Member} :
    block.emptyFaults vocabulary path slot = [] ↔
      (slot.required = true → block.flattenSlot vocabulary slot.name ≠ []) := by
  simp [emptyFaults]

/-- What is wrong with the blocks in a slot is wrong with one of them. -/
theorem mem_faultsAll_iff {vocabulary : Vocabulary} {path : Block.Path} {slot : String}
    {index : Nat} {blocks : List Block} {error : Compile.Error} :
    error ∈ faultsAll vocabulary path slot index blocks ↔
      ∃ (place : Nat) (block : Block), blocks[place]? = some block ∧
        error ∈ block.faults vocabulary (path.child slot (index + place)) true := by
  induction blocks generalizing index with
  | nil => simp [faultsAll]
  | cons first blocks ih =>
      rw [faultsAll, List.mem_append, ih]
      constructor
      · rintro (own | ⟨place, block, found, inside⟩)
        · exact ⟨0, first, rfl, own⟩
        · rw [Nat.add_right_comm] at inside
          exact ⟨place + 1, block, found, inside⟩
      · rintro ⟨place, block, found, inside⟩
        cases place with
        | zero =>
            obtain rfl := Option.some.inj found
            exact .inl inside
        | succ place =>
            refine .inr ⟨place, block, found, ?_⟩
            rwa [Nat.add_right_comm]

/-- What is first wrong with the blocks in a slot is first wrong with one of them, after blocks with
which nothing is wrong. -/
theorem exists_of_head?_faultsAll {vocabulary : Vocabulary} {path : Block.Path} {slot : String}
    {index : Nat} {blocks : List Block} {error : Compile.Error}
    (first : (faultsAll vocabulary path slot index blocks).head? = some error) :
    ∃ (place : Nat) (block : Block), blocks[place]? = some block ∧
      (∀ (earlier : Nat) (other : Block), earlier < place → blocks[earlier]? = some other →
        other.faults vocabulary (path.child slot (index + earlier)) true = []) ∧
      (block.faults vocabulary (path.child slot (index + place)) true).head? = some error := by
  induction blocks generalizing index with
  | nil => cases first
  | cons block blocks ih =>
      rcases head?_append_eq_some_iff.mp first with own | ⟨clean, later⟩
      · exact ⟨0, block, rfl, fun _ _ earlier => absurd earlier (Nat.not_lt_zero _), own⟩
      · obtain ⟨place, child, found, before, wrong⟩ := ih later
        rw [Nat.add_right_comm] at wrong
        refine ⟨place + 1, child, found, fun earlier other shallow there => ?_, wrong⟩
        cases earlier with
        | zero =>
            obtain rfl := Option.some.inj there
            exact clean
        | succ earlier =>
            have cleanLater := before earlier other (Nat.lt_of_succ_lt_succ shallow) there
            rwa [Nat.add_right_comm] at cleanLater

theorem faultsAll_eq_nil_iff {vocabulary : Vocabulary} {path : Block.Path} {slot : String}
    {index : Nat} {blocks : List Block} :
    faultsAll vocabulary path slot index blocks = [] ↔
      ∀ (place : Nat) (block : Block), blocks[place]? = some block →
        block.faults vocabulary (path.child slot (index + place)) true = [] := by
  simp only [List.eq_nil_iff_forall_not_mem, mem_faultsAll_iff, not_exists, not_and]
  exact ⟨fun all place block found error => all error place block found,
    fun all error place block found => all place block found error⟩

/-- A block with which nothing is wrong. -/
structure Faultless (vocabulary : Vocabulary) (path : Block.Path) (nested : Bool) (kind : Kind)
    (block : Block) : Prop where
  /-- The type is a name for the kind. -/
  known : vocabulary.kind? block.type = some kind
  /-- The fields and slots are those of the kind. -/
  conforms : block.Conforms kind
  /-- The texts follow the rules of the kind. -/
  texts : block.ProperTexts kind
  /-- No action lies in a slot. -/
  placed : kind = .action → nested = false
  /-- Nothing is wrong with the blocks in the slots of the kind. -/
  inside : ∀ slot ∈ kind.schema.slots, ∀ (index : Nat) (child : Block),
    (block.inSlot slot.name)[index]? = some child →
      child.faults vocabulary (path.child slot.name index) true = []
  /-- The required slots hold statements. -/
  filled : ∀ slot ∈ kind.schema.slots, slot.required = true →
    block.flattenSlot vocabulary slot.name ≠ []

/-- **Nothing is wrong with a block when it is faultless for its kind.** -/
theorem faults_eq_nil_iff {vocabulary : Vocabulary} {path : Block.Path} {nested : Bool}
    {block : Block} :
    block.faults vocabulary path nested = [] ↔
      ∃ kind, block.Faultless vocabulary path nested kind := by
  rw [faults_eq]
  cases known : vocabulary.kind? block.type with
  | none =>
      refine ⟨nofun, fun ⟨kind, faultless⟩ => ?_⟩
      have differs := faultless.known
      rw [known] at differs
      cases differs
  | some kind =>
      simp only [List.append_eq_nil_iff, List.map_eq_nil_iff, Kind.ownFaults,
        Kind.violations_eq_nil_iff, Kind.placeFaults_eq_nil_iff, Kind.textFaults_eq_nil_iff,
        slotFaults, List.flatMap_eq_nil_iff, emptyFaults_eq_nil_iff, faultsAll_eq_nil_iff,
        Nat.zero_add]
      constructor
      · rintro ⟨⟨⟨conforms, -⟩, placed, texts⟩, slots⟩
        exact ⟨kind, known, conforms, texts, placed, fun slot member => (slots slot member).1,
          fun slot member => (slots slot member).2⟩
      · rintro ⟨other, faultless⟩
        obtain rfl := Option.some.inj (known.symm.trans faultless.known)
        refine ⟨⟨⟨faultless.conforms, fun slot member required empty => ?_⟩, faultless.placed,
          faultless.texts⟩, fun slot member => ⟨faultless.inside slot member,
            faultless.filled slot member⟩⟩
        refine faultless.filled slot member required ?_
        rw [flattenSlot, empty]
        rfl

end Block

/-! ## Workspaces -/

/-- The names of the actions among pieces, in order. -/
def pieceNames (pieces : List Piece) : List String :=
  pieces.filterMap fun
    | .action _ action => some action.name
    | .loose _ => none

theorem pieceNames_action (path : Block.Path) (action : Script.Action) (pieces : List Piece) :
    pieceNames (.action path action :: pieces) = action.name :: pieceNames pieces := rfl

theorem pieceNames_loose (statements : List Script.Statement) (pieces : List Piece) :
    pieceNames (.loose statements :: pieces) = pieceNames pieces := rfl

theorem pieceNames_append (pieces others : List Piece) :
    pieceNames (pieces ++ others) = pieceNames pieces ++ pieceNames others :=
  List.filterMap_append

theorem pieceNames_reverse (pieces : List Piece) :
    pieceNames pieces.reverse = (pieceNames pieces).reverse :=
  List.filterMap_reverse

/-- The trimmed names of the actions of a workspace, in order. -/
def Workspace.actionNames (vocabulary : Vocabulary) (workspace : Workspace) : List String :=
  (Block.actionsOf vocabulary workspace.blocks).map fun block => Text.trimmed (block.text "name")

theorem pieceNames_pieces (vocabulary : Vocabulary) (index : Nat) (blocks : List Block) :
    pieceNames (Block.pieces vocabulary index blocks) =
      Workspace.actionNames vocabulary ⟨blocks⟩ := by
  induction blocks generalizing index with
  | nil => rfl
  | cons block blocks ih =>
      unfold Workspace.actionNames at ih ⊢
      by_cases action : vocabulary.kind? block.type = some .action
      · rw [Block.pieces_cons_of_action action, pieceNames_action, ih,
          Block.actionsOf_cons_of_action action, List.map_cons]
        rfl
      · rw [Block.pieces_cons_of_not_action action, pieceNames_loose, ih,
          Block.actionsOf_cons_of_not_action action]

/-- A name is declared nowhere when it is not among the names. -/
theorem declaredAt?_eq_none_iff {name : String} {pieces : List Piece} :
    declaredAt? name pieces = none ↔ name ∉ pieceNames pieces := by
  simp only [declaredAt?, pieceNames, List.findSome?_eq_none_iff, List.mem_filterMap, not_exists,
    not_and]
  refine forall_congr' fun piece => forall_congr' fun _ => ?_
  cases piece with
  | action path action => simp
  | loose statements => simp

/-- A piece is added where the names stay distinct. -/
theorem failuresOf_addPiece_eq_nil_iff {earlier : List Piece} {piece : Piece}
    (distinct : (pieceNames earlier).Nodup) :
    failuresOf (addPiece earlier piece) = [] ↔ (pieceNames (piece :: earlier)).Nodup := by
  cases piece with
  | loose statements =>
      rw [addPiece, pieceNames_loose]
      exact ⟨fun _ => distinct, fun _ => rfl⟩
  | action path action =>
      rw [pieceNames_action, List.nodup_cons, ← declaredAt?_eq_none_iff, addPiece]
      cases declaredAt? action.name earlier with
      | none => exact ⟨fun _ => ⟨rfl, distinct⟩, fun _ => rfl⟩
      | some first => simp [failuresOf]

/-- Nothing is wrong with blocks of a workspace when nothing is wrong with any of them and their
names differ from each other and from those before. -/
theorem pieceFaults_eq_nil_iff {vocabulary : Vocabulary} {earlier : List Piece} {index : Nat}
    {blocks : List Block} (distinct : (pieceNames earlier).Nodup) :
    Block.pieceFaults vocabulary earlier index blocks = [] ↔
      (∀ (place : Nat) (block : Block), blocks[place]? = some block →
        block.faults vocabulary (.topLevel (index + place)) false = []) ∧
      (pieceNames ((Block.pieces vocabulary index blocks).reverse ++ earlier)).Nodup := by
  induction blocks generalizing earlier index with
  | nil => simpa [Block.pieceFaults, Block.pieces] using distinct
  | cons first blocks ih =>
      have whole : (Block.pieces vocabulary index (first :: blocks)).reverse ++ earlier =
          (Block.pieces vocabulary (index + 1) blocks).reverse ++
            first.piece vocabulary (.topLevel index) :: earlier := by
        rw [Block.pieces, List.reverse_cons, List.append_assoc, List.singleton_append]
      rw [Block.pieceFaults, List.append_eq_nil_iff, List.append_eq_nil_iff,
        failuresOf_addPiece_eq_nil_iff distinct, whole]
      constructor
      · rintro ⟨own, added, rest⟩
        obtain ⟨others, names⟩ := (ih added).mp rest
        refine ⟨fun place block found => ?_, names⟩
        cases place with
        | zero =>
            obtain rfl := Option.some.inj found
            exact own
        | succ place =>
            have later := others place block found
            rwa [Nat.add_right_comm] at later
      · rintro ⟨all, names⟩
        have added : (pieceNames (first.piece vocabulary (.topLevel index) :: earlier)).Nodup := by
          rw [pieceNames_append] at names
          exact names.of_append_right
        refine ⟨all 0 first rfl, added, (ih added).mpr ⟨fun place block found => ?_, names⟩⟩
        rw [Nat.add_right_comm]
        exact all (place + 1) block found

namespace Compiler

/-- Nothing is wrong with the default action when there is none or its name is free. -/
theorem defaultFaults_eq_nil_iff {compiler : Compiler} {workspace : Workspace} :
    compiler.defaultFaults workspace = [] ↔
      (workspace.loose compiler.vocabulary ≠ [] →
        isIdentifier compiler.defaultAction.name = true ∧
          compiler.defaultAction.name ∉ workspace.actionNames compiler.vocabulary) := by
  rw [defaultFaults, ← pieceNames_pieces compiler.vocabulary 0, ← declaredAt?_eq_none_iff]
  split
  · next silent => simp [silent]
  · next some =>
    unfold Lowering.defaultAction
    split
    · next identifier =>
      split <;> simp_all [failuresOf]
    · next other => simp_all [failuresOf]

/-- **Nothing is wrong with a workspace** when nothing is wrong with any of its blocks, the names
of its actions are distinct, and the name of the default action is free where one is made. -/
theorem faults_eq_nil_iff {compiler : Compiler} {workspace : Workspace} :
    compiler.faults workspace = [] ↔
      (∀ (index : Nat) (block : Block), workspace.blocks[index]? = some block →
        block.faults compiler.vocabulary (.topLevel index) false = []) ∧
      (workspace.actionNames compiler.vocabulary).Nodup ∧
      (workspace.loose compiler.vocabulary ≠ [] →
        isIdentifier compiler.defaultAction.name = true ∧
          compiler.defaultAction.name ∉ workspace.actionNames compiler.vocabulary) := by
  have names : (pieceNames ((Block.pieces compiler.vocabulary 0 workspace.blocks).reverse ++
      [])).Nodup ↔ (workspace.actionNames compiler.vocabulary).Nodup := by
    rw [List.append_nil, pieceNames_reverse, List.nodup_reverse, pieceNames_pieces]
  have distinct : (pieceNames []).Nodup := List.nodup_nil
  rw [faults, List.append_eq_nil_iff, pieceFaults_eq_nil_iff distinct, names,
    defaultFaults_eq_nil_iff, and_assoc]
  simp only [Nat.zero_add]

end Compiler

end BlockScript
