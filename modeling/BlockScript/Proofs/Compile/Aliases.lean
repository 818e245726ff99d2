import BlockScript.Proofs.Compile.Faults

/-!
# Names for kinds are only names

A vocabulary with further names for kinds differs from the standard one in nothing but the names.
A workspace is lowered with it to the same program as the workspace in which every block has the
type name of its kind is with the standard one, or it is refused for the same reason, in which the
types of blocks are replaced in the same way (`Compiler.lower_withAliases`).

The two runs are compared problem by problem: everything that is wrong with a block of a renamed
workspace is what is wrong with the block itself, in the same order (`Block.faults_mapTypes`), and
both stand for the same statements (`Block.flatten_mapTypes`). All that is needed is that the one
vocabulary understands the new types as the other does the old ones (`Vocabulary.Renamed`).
-/

set_option autoImplicit false

namespace BlockScript

open Lowering

/-! ## Renamed types -/

mutual
/-- A block with other types, its own and those of all blocks in it. -/
def Block.mapTypes (rename : String → String) : Block → Block
  | ⟨type, id?, fields, slots⟩ => ⟨rename type, id?, fields, Block.mapTypesTable rename slots⟩

/-- A table of slots with other types. -/
def Block.mapTypesTable (rename : String → String) :
    List (String × List Block) → List (String × List Block)
  | [] => []
  | (name, blocks) :: rest =>
    (name, Block.mapTypesAll rename blocks) :: Block.mapTypesTable rename rest

/-- A sequence of blocks with other types. -/
def Block.mapTypesAll (rename : String → String) : List Block → List Block
  | [] => []
  | block :: rest => block.mapTypes rename :: Block.mapTypesAll rename rest
end

/-- A workspace with other types. -/
def Workspace.mapTypes (rename : String → String) (workspace : Workspace) : Workspace :=
  ⟨Block.mapTypesAll rename workspace.blocks⟩

/-- A reason with another type of its block. A type that is not known is not the type of a kind
under another name, so it stays. -/
def BlockFault.mapType (rename : String → String) : BlockFault → BlockFault
  | unknownType type => unknownType type
  | missingField type field => missingField (rename type) field
  | missingSlot type slot => missingSlot (rename type) slot
  | unknownField type field => unknownField (rename type) field
  | unknownSlot type slot => unknownSlot (rename type) slot
  | invalidField field fault => invalidField field fault
  | misplaced type => misplaced (rename type)

/-- An error with another type of the block that it is about. -/
def Compile.Error.mapType (rename : String → String) : Compile.Error → Compile.Error
  | malformed reason => malformed reason
  | misconfigured reason => misconfigured reason
  | block path fault => block path (fault.mapType rename)

/-- One vocabulary understands renamed types as another one understands the types, and types that
are not understood are not renamed. -/
structure Vocabulary.Renamed (vocabulary other : Vocabulary) (rename : String → String) : Prop where
  /-- The types of kinds. -/
  known : ∀ type, other.kind? (rename type) = vocabulary.kind? type
  /-- The types of no kind. -/
  unknown : ∀ type, vocabulary.kind? type = none → rename type = type

/-! ## Renamed blocks -/

namespace Block

variable {rename : String → String}

theorem mapTypesTable_eq_map (slots : List (String × List Block)) :
    mapTypesTable rename slots = slots.map fun entry => (entry.1, mapTypesAll rename entry.2) := by
  induction slots with
  | nil => rfl
  | cons entry slots ih => rw [mapTypesTable, ih, List.map_cons]

theorem mapTypesAll_eq_map (blocks : List Block) :
    mapTypesAll rename blocks = blocks.map (mapTypes rename) := by
  induction blocks with
  | nil => rfl
  | cons block blocks ih => rw [mapTypesAll, ih, List.map_cons]

@[simp] theorem type_mapTypes (block : Block) :
    (block.mapTypes rename).type = rename block.type := by
  obtain ⟨_, _, _, _⟩ := block
  rfl

@[simp] theorem fields_mapTypes (block : Block) :
    (block.mapTypes rename).fields = block.fields := by
  obtain ⟨_, _, _, _⟩ := block
  rfl

@[simp] theorem field?_mapTypes (block : Block) (name : String) :
    (block.mapTypes rename).field? name = block.field? name := by
  rw [field?, field?, fields_mapTypes]

@[simp] theorem text_mapTypes (block : Block) (field : String) :
    (block.mapTypes rename).text field = block.text field := by
  rw [text, text, field?_mapTypes]

@[simp] theorem slot?_mapTypes (block : Block) (name : String) :
    (block.mapTypes rename).slot? name = (block.slot? name).map (List.map (mapTypes rename)) := by
  obtain ⟨type, id?, fields, slots⟩ := block
  rw [mapTypes, slot?, mapTypesTable_eq_map, Table.lookup_map fun _ => mapTypesAll rename, slot?]
  cases slots.lookup name with
  | none => rfl
  | some blocks => exact congrArg some (mapTypesAll_eq_map blocks)

@[simp] theorem slotNames_mapTypes (block : Block) :
    (block.mapTypes rename).slots.map (·.1) = block.slots.map (·.1) := by
  obtain ⟨type, id?, fields, slots⟩ := block
  rw [mapTypes, mapTypesTable_eq_map, List.map_map]
  rfl

@[simp] theorem inSlot_mapTypes (block : Block) (slot : String) :
    (block.mapTypes rename).inSlot slot = (block.inSlot slot).map (mapTypes rename) := by
  rw [inSlot, slot?_mapTypes, inSlot]
  cases block.slot? slot <;> rfl

end Block

/-! ## The same statements -/

section

variable {vocabulary other : Vocabulary} {rename : String → String}

theorem Block.flattenAll_map {blocks : List Block}
    (each : ∀ block ∈ blocks, (block.mapTypes rename).flatten other = block.flatten vocabulary) :
    flattenAll other (blocks.map (mapTypes rename)) = flattenAll vocabulary blocks := by
  induction blocks with
  | nil => rfl
  | cons block blocks ih =>
      obtain ⟨own, others⟩ := List.forall_mem_cons.mp each
      rw [List.map_cons, flattenAll, flattenAll, own, ih others]

theorem Block.flattenSlot_of_forall {block : Block} {slot : String}
    (each : ∀ child ∈ block.inSlot slot,
      (child.mapTypes rename).flatten other = child.flatten vocabulary) :
    (block.mapTypes rename).flattenSlot other slot = block.flattenSlot vocabulary slot := by
  rw [flattenSlot, inSlot_mapTypes, flattenSlot, flattenAll_map each]

theorem Block.Kind.flatten_mapTypes (kind : Kind) (block : Block)
    (slots : String → List Script.Statement) :
    kind.flatten (block.mapTypes rename) slots = kind.flatten block slots := by
  cases kind <;> simp [flatten]

/-- **A renamed block stands for the same statements.** -/
theorem Block.flatten_mapTypes (renamed : vocabulary.Renamed other rename) (block : Block) :
    (block.mapTypes rename).flatten other = block.flatten vocabulary := by
  induction block using Block.induction with
  | step block ih =>
      have slots : (block.mapTypes rename).flattenSlot other = block.flattenSlot vocabulary :=
        funext fun slot => flattenSlot_of_forall (ih slot)
      rw [flatten_eq, flatten_eq, type_mapTypes, renamed.known, slots]
      cases vocabulary.kind? block.type with
      | none => rfl
      | some kind => exact kind.flatten_mapTypes block _

theorem Block.flattenSlot_mapTypes (renamed : vocabulary.Renamed other rename) (block : Block) :
    (block.mapTypes rename).flattenSlot other = block.flattenSlot vocabulary :=
  funext fun _ => flattenSlot_of_forall fun child _ => flatten_mapTypes renamed child

/-! ## The same problems -/

theorem Block.Kind.violations_mapTypes (kind : Kind) (block : Block) :
    kind.violations (block.mapTypes rename) =
      (kind.violations block).map (.mapType rename) := by
  have missing (slot : String) :
      (((block.mapTypes rename).slot? slot).getD []).isEmpty =
        ((block.slot? slot).getD []).isEmpty := by
    rw [slot?_mapTypes]
    cases block.slot? slot with
    | none => rfl
    | some blocks => exact List.isEmpty_map
  simp only [violations, missing, type_mapTypes, fields_mapTypes, slotNames_mapTypes,
    field?_mapTypes, List.map_append, List.map_map]
  rfl

/-- What is made of a field fails in the same way, if what is made of its text fails with reasons
that do not mention the type of the block. -/
theorem failuresOf_requiredField_mapTypes {α : Type} {read : String → Except BlockFault α}
    (silent : ∀ value fault, read value = .error fault → fault.mapType rename = fault)
    (block : Block) (name : String) :
    failuresOf (do read (← requiredField (block.mapTypes rename) name)) =
      (failuresOf (do read (← requiredField block name))).map (.mapType rename) := by
  rw [requiredField, requiredField, Block.field?_mapTypes, Block.type_mapTypes]
  cases block.field? name with
  | none => rfl
  | some value =>
      simp only [ok_bind]
      cases reads : read value with
      | ok result => rfl
      | error fault => rw [failuresOf, List.map_singleton, silent value fault reads]

theorem Block.Kind.textFaults_mapTypes (kind : Kind) (block : Block) :
    kind.textFaults (block.mapTypes rename) =
      (kind.textFaults block).map (.mapType rename) := by
  cases kind with
  | action =>
      rw [textFaults, textFaults, List.map_append]
      congr 1
      · refine failuresOf_requiredField_mapTypes (fun value fault fails => ?_) block "name"
        obtain ⟨-, rfl⟩ := actionName_eq_error_iff.mp fails
        rfl
      · refine failuresOf_requiredField_mapTypes (fun value fault fails => ?_) block "every"
        obtain ⟨_, -, rfl⟩ := trigger_eq_error_iff.mp fails
        rfl
  | conditional =>
      refine failuresOf_requiredField_mapTypes (fun value fault fails => ?_) block "condition"
      rcases condition_eq_error_iff.mp fails with ⟨-, rfl⟩ | ⟨-, -, rfl⟩ <;> rfl
  | publish =>
      rw [textFaults, textFaults, List.map_append]
      congr 1
      · refine failuresOf_requiredField_mapTypes (fun value fault fails => ?_) block "topic"
        obtain ⟨-, rfl⟩ := topic_eq_error_iff.mp fails
        rfl
      · rw [requiredField, requiredField, field?_mapTypes, type_mapTypes]
        cases block.field? "payload" <;> rfl
  | sequence => rfl

theorem Block.Kind.ownFaults_mapTypes (kind : Kind) (nested : Bool) (block : Block) :
    kind.ownFaults nested (block.mapTypes rename) =
      (kind.ownFaults nested block).map (.mapType rename) := by
  have place : kind.placeFaults nested (block.mapTypes rename) =
      (kind.placeFaults nested block).map (.mapType rename) := by
    rw [placeFaults, placeFaults, type_mapTypes]
    split <;> rfl
  rw [ownFaults, ownFaults, violations_mapTypes, place, textFaults_mapTypes, List.map_append,
    List.map_append]

theorem Block.emptyFaults_mapTypes (renamed : vocabulary.Renamed other rename)
    (path : Block.Path) (block : Block) (slot : Member) :
    (block.mapTypes rename).emptyFaults other path slot =
      (block.emptyFaults vocabulary path slot).map (.mapType rename) := by
  rw [emptyFaults, emptyFaults, flattenSlot_mapTypes renamed, type_mapTypes]
  split <;> rfl

theorem Block.faultsAll_map (path : Block.Path) (slot : String) (index : Nat)
    {blocks : List Block}
    (each : ∀ block ∈ blocks, ∀ path, (block.mapTypes rename).faults other path true =
      (block.faults vocabulary path true).map (.mapType rename)) :
    faultsAll other path slot index (blocks.map (mapTypes rename)) =
      (faultsAll vocabulary path slot index blocks).map (.mapType rename) := by
  induction blocks generalizing index with
  | nil => rfl
  | cons block blocks ih =>
      obtain ⟨own, others⟩ := List.forall_mem_cons.mp each
      rw [List.map_cons, faultsAll, own, ih _ others, faultsAll, List.map_append]

/-- **With a renamed block the same things are wrong**, in the same order. -/
theorem Block.faults_mapTypes (renamed : vocabulary.Renamed other rename) (path : Block.Path)
    (nested : Bool) (block : Block) :
    (block.mapTypes rename).faults other path nested =
      (block.faults vocabulary path nested).map (.mapType rename) := by
  induction block using Block.induction generalizing path nested with
  | step block ih =>
      have slots (kind : Kind) : (block.mapTypes rename).slotFaults other path kind =
          (block.slotFaults vocabulary path kind).map (.mapType rename) := by
        rw [slotFaults, slotFaults, List.map_flatMap]
        refine List.flatMap_congr fun slot _ => ?_
        rw [inSlot_mapTypes, emptyFaults_mapTypes renamed, List.map_append]
        exact congrArg (· ++ _) (faultsAll_map path slot.name 0 fun child inside path =>
          ih slot.name child inside path true)
      rw [faults_eq, faults_eq, type_mapTypes, renamed.known]
      cases unknown : vocabulary.kind? block.type with
      | none => rw [renamed.unknown _ unknown]; rfl
      | some kind =>
          simp only [kind.ownFaults_mapTypes, slots, List.map_append, List.map_map]
          rfl

/-! ## Workspaces -/

theorem Block.piece_mapTypes (renamed : vocabulary.Renamed other rename) (path : Block.Path)
    (block : Block) : (block.mapTypes rename).piece other path = block.piece vocabulary path := by
  have declares : (block.mapTypes rename).declared other = block.declared vocabulary := by
    rw [declared, declared, text_mapTypes, text_mapTypes, flattenSlot_mapTypes renamed]
  rw [piece, piece, type_mapTypes, renamed.known, declares, flatten_mapTypes renamed]

theorem Block.pieces_map (renamed : vocabulary.Renamed other rename) (index : Nat)
    (blocks : List Block) :
    pieces other index (blocks.map (mapTypes rename)) = pieces vocabulary index blocks := by
  induction blocks generalizing index with
  | nil => rfl
  | cons block blocks ih => rw [List.map_cons, pieces, piece_mapTypes renamed, ih, pieces]

theorem failuresOf_addPiece_map (earlier : List Piece) (piece : Piece) :
    (failuresOf (addPiece earlier piece)).map (.mapType rename) =
      failuresOf (addPiece earlier piece) := by
  unfold addPiece
  split
  · rfl
  · split <;> rfl

theorem failuresOf_defaultAction_map (name : String) (every : Duration) (pieces : List Piece)
    (body : List Script.Statement) :
    (failuresOf (defaultAction name every pieces body)).map (.mapType rename) =
      failuresOf (defaultAction name every pieces body) := by
  unfold defaultAction
  split
  · split <;> rfl
  · rfl

theorem Block.pieceFaults_map (renamed : vocabulary.Renamed other rename) (earlier : List Piece)
    (index : Nat) (blocks : List Block) :
    pieceFaults other earlier index (blocks.map (mapTypes rename)) =
      (pieceFaults vocabulary earlier index blocks).map (.mapType rename) := by
  induction blocks generalizing earlier index with
  | nil => rfl
  | cons block blocks ih =>
      rw [List.map_cons, pieceFaults, faults_mapTypes renamed, piece_mapTypes renamed, ih,
        pieceFaults, List.map_append, List.map_append, failuresOf_addPiece_map]

theorem Workspace.loose_mapTypes (renamed : vocabulary.Renamed other rename)
    (workspace : Workspace) :
    (workspace.mapTypes rename).loose other = workspace.loose vocabulary := by
  rw [loose, mapTypes, Block.mapTypesAll_eq_map]
  exact Block.flattenAll_map fun block _ => Block.flatten_mapTypes renamed block

theorem Workspace.pieces_mapTypes (renamed : vocabulary.Renamed other rename)
    (workspace : Workspace) :
    Block.pieces other 0 (workspace.mapTypes rename).blocks =
      Block.pieces vocabulary 0 workspace.blocks := by
  rw [mapTypes, Block.mapTypesAll_eq_map, Block.pieces_map renamed]

namespace Compiler

variable (renamed : vocabulary.Renamed other rename) (defaultAction : DefaultAction)
  (indent : Script.IndentWidth) (workspace : Workspace)

include renamed

theorem defaultFaults_mapTypes :
    defaultFaults ⟨other, defaultAction, indent⟩ (workspace.mapTypes rename) =
      (defaultFaults ⟨vocabulary, defaultAction, indent⟩ workspace).map (.mapType rename) := by
  simp only [defaultFaults, workspace.loose_mapTypes renamed, workspace.pieces_mapTypes renamed]
  split
  · rfl
  · exact (failuresOf_defaultAction_map ..).symm

/-- **With a renamed workspace the same things are wrong**, in the same order. -/
theorem faults_mapTypes :
    faults ⟨other, defaultAction, indent⟩ (workspace.mapTypes rename) =
      (faults ⟨vocabulary, defaultAction, indent⟩ workspace).map (.mapType rename) := by
  rw [faults, faults, defaultFaults_mapTypes renamed, List.map_append, Workspace.mapTypes,
    Block.mapTypesAll_eq_map, Block.pieceFaults_map renamed]

theorem programOf_mapTypes :
    programOf ⟨other, defaultAction, indent⟩ (workspace.mapTypes rename) =
      programOf ⟨vocabulary, defaultAction, indent⟩ workspace := by
  simp only [programOf, looseAction?, workspace.loose_mapTypes renamed,
    workspace.pieces_mapTypes renamed]

/-- **A renamed workspace is lowered as the workspace itself**, with a vocabulary that understands
the new types as the other one does the old ones. -/
theorem lower_mapTypes :
    lower ⟨other, defaultAction, indent⟩ (workspace.mapTypes rename) =
      (lower ⟨vocabulary, defaultAction, indent⟩ workspace).mapError (.mapType rename) := by
  rw [lower_eq, lower_eq, faults_mapTypes renamed, programOf_mapTypes renamed, report_mapError]

end Compiler

end

/-! ## Sequences of names -/

/-- The kind that a type has after names for kinds have been added to the standard ones, by the
names of the kinds: the last name decides that is one of a kind, and where there is none the type
may be the name of a kind itself. -/
def kindAfter (mappings : List (String × String)) (type : String) : Option Block.Kind :=
  (mappings.reverse.findSome? fun (name, kindName) =>
    if name = type then Block.Kind.ofTypeName? kindName else none).or
      (Block.Kind.ofTypeName? type)

/-- The name of the kind of a type; a type of no kind stays as it is. -/
def canonicalType (mappings : List (String × String)) (type : String) : String :=
  ((kindAfter mappings type).map Block.Kind.typeName).getD type

/-- A name for another name is passed over, and the name of a kind can be given to another kind. -/
example : ["a", "b", "if"].map (canonicalType [("a", "if"), ("b", "a"), ("if", "publish")]) =
    ["if", "b", "publish"] := by
  decide

/-- A compiler to which names for kinds have been added one after the other. -/
def Compiler.withAliases (compiler : Compiler) (mappings : List (String × String)) : Compiler :=
  mappings.foldl (fun compiler (name, kindName) => compiler.withAlias name kindName) compiler

theorem Vocabulary.kind?_addAlias (vocabulary : Vocabulary) (name kindName type : String) :
    (vocabulary.addAlias name kindName).kind? type =
      (if name = type then Block.Kind.ofTypeName? kindName else none).or
        (vocabulary.kind? type) := by
  unfold addAlias
  cases Block.Kind.ofTypeName? kindName with
  | none => simp
  | some kind =>
      rw [kind?, kind?, Table.lookup_cons]
      by_cases same : name = type
      · rw [if_pos same, if_pos same.symm]
        rfl
      · rw [if_neg same, if_neg (Ne.symm same)]
        rfl

/-- What a vocabulary understands, name by name. -/
theorem Compiler.kind?_withAliases (compiler : Compiler) (mappings : List (String × String))
    (type : String) :
    (compiler.withAliases mappings).vocabulary.kind? type =
      (mappings.reverse.findSome? fun (name, kindName) =>
        if name = type then Block.Kind.ofTypeName? kindName else none).or
          (compiler.vocabulary.kind? type) := by
  induction mappings generalizing compiler with
  | nil => rfl
  | cons mapping mappings ih =>
      obtain ⟨name, kindName⟩ := mapping
      have added : (compiler.withAlias name kindName).vocabulary =
          compiler.vocabulary.addAlias name kindName := rfl
      rw [withAliases, List.foldl_cons, ← withAliases, ih, List.reverse_cons,
        List.findSome?_append, Option.or_assoc, added, Vocabulary.kind?_addAlias]
      simp

theorem Compiler.withAliases_eq (compiler : Compiler) (mappings : List (String × String)) :
    compiler.withAliases mappings =
      ⟨(compiler.withAliases mappings).vocabulary, compiler.defaultAction, compiler.indent⟩ := by
  induction mappings generalizing compiler with
  | nil => rfl
  | cons mapping mappings ih =>
      rw [withAliases, List.foldl_cons, ← withAliases]
      exact ih _

/-- The standard vocabulary understands the names of the kinds. -/
theorem renamed_canonicalType {vocabulary : Vocabulary} {mappings : List (String × String)}
    (understands : ∀ type, vocabulary.kind? type = kindAfter mappings type) :
    vocabulary.Renamed .standard (canonicalType mappings) := by
  refine ⟨fun type => ?_, fun type unknown => ?_⟩
  · rw [understands, canonicalType]
    cases known : kindAfter mappings type with
    | none => exact (Option.or_eq_none_iff.mp known).2
    | some kind => exact Block.Kind.ofTypeName?_typeName kind
  · rw [canonicalType, ← understands, unknown]
    rfl

/-- **Further names for kinds are a renaming and nothing else.** After any sequence of names has
been added, a type has the kind for which it was added last, or its own. A workspace is then lowered
as the workspace in which every type is the name of its kind is without any of these names: to the
same program, or with the same error about the renamed type. -/
theorem Compiler.lower_withAliases (mappings : List (String × String))
    (defaultAction : DefaultAction) (indent : Script.IndentWidth) (workspace : Workspace) :
    let plain : Compiler := ⟨.standard, defaultAction, indent⟩
    (∀ type, (plain.withAliases mappings).vocabulary.kind? type = kindAfter mappings type) ∧
      plain.lower (workspace.mapTypes (canonicalType mappings)) =
        ((plain.withAliases mappings).lower workspace).mapError
          (.mapType (canonicalType mappings)) := by
  intro plain
  have understands (type : String) :
      (plain.withAliases mappings).vocabulary.kind? type = kindAfter mappings type :=
    plain.kind?_withAliases mappings type
  refine ⟨understands, ?_⟩
  rw [plain.withAliases_eq mappings]
  exact lower_mapTypes (renamed_canonicalType understands) defaultAction indent workspace

end BlockScript
