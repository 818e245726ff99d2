import BlockScript.Compile.Compiler
import BlockScript.Proofs.Compile.Fields
import BlockScript.Proofs.Compile.Flatten

/-!
# Everything that is wrong with a workspace

The compiler stops at the first problem that it meets. `Compiler.faults` goes on: it lists all
problems in the order in which the compiler would come to them, block by block. Beside each block
stand what is wrong with its fields and slots, with its place and with its texts; then follows what
is wrong inside its slots, and last that a slot holds no statement.

Lowering a workspace reports the first entry of that list, and where there is none it gives the
program that the blocks stand for (`Compiler.lower_eq`). The same is said of the statements of a
block (`statements_eq`) and of the blocks of a workspace one by one (`piece_eq`).
-/

set_option autoImplicit false

namespace BlockScript

open Lowering
open Script (Statement isIdentifier)

/-! ## One block -/

namespace Block

/-- What is wrong with the texts in the fields of a block of a kind, in the order of the fields. -/
def Kind.textFaults (kind : Kind) (block : Block) : List BlockFault :=
  match kind with
  | .action =>
    failuresOf (do actionName (← requiredField block "name")) ++
      failuresOf (do trigger (← requiredField block "every"))
  | .conditional => failuresOf (do condition (← requiredField block "condition"))
  | .publish =>
    failuresOf (do topic (← requiredField block "topic")) ++
      failuresOf (requiredField block "payload")
  | .sequence => []

/-- An action that lies in a slot is out of place. -/
def Kind.placeFaults (kind : Kind) (nested : Bool) (block : Block) : List BlockFault :=
  if nested && !kind.isStatement then [.misplaced block.type] else []

/-- What is wrong with a block of a kind, apart from what its slots hold. -/
def Kind.ownFaults (kind : Kind) (nested : Bool) (block : Block) : List BlockFault :=
  kind.violations block ++ (kind.placeFaults nested block ++ kind.textFaults block)

/-- A slot that must hold a statement and holds none. -/
def emptyFaults (vocabulary : Vocabulary) (path : Block.Path) (block : Block) (slot : Member) :
    List Compile.Error :=
  if slot.required && (block.flattenSlot vocabulary slot.name).isEmpty then
    [.block path (.missingSlot block.type slot.name)]
  else []

/-! ## Blocks in blocks -/

mutual
/-- What is wrong with the block at a path and with every block in it. -/
def faults (vocabulary : Vocabulary) (path : Block.Path) (nested : Bool) :
    Block → List Compile.Error
  | block@⟨type, _, _, slots⟩ =>
    match vocabulary.kind? type with
    | none => [.block path (.unknownType type)]
    | some kind =>
      (kind.ownFaults nested block).map (.block path) ++ kind.schema.slots.flatMap fun slot =>
        ((faultsTable vocabulary path slots).lookup slot.name).getD [] ++
          emptyFaults vocabulary path block slot

/-- What is wrong inside each slot of a table. -/
def faultsTable (vocabulary : Vocabulary) (path : Block.Path) :
    List (String × List Block) → List (String × List Compile.Error)
  | [] => []
  | (name, blocks) :: rest =>
    (name, faultsAll vocabulary path name 0 blocks) :: faultsTable vocabulary path rest

/-- What is wrong with the blocks in a slot, the first of them at place `index`. -/
def faultsAll (vocabulary : Vocabulary) (path : Block.Path) (slot : String) (index : Nat) :
    List Block → List Compile.Error
  | [] => []
  | block :: rest =>
    block.faults vocabulary (path.child slot index) true ++
      faultsAll vocabulary path slot (index + 1) rest
end

/-- What is wrong inside the slots of a block of a kind. -/
def slotFaults (vocabulary : Vocabulary) (path : Block.Path) (kind : Kind) (block : Block) :
    List Compile.Error :=
  kind.schema.slots.flatMap fun slot =>
    faultsAll vocabulary path slot.name 0 (block.inSlot slot.name) ++
      emptyFaults vocabulary path block slot

theorem faultsTable_eq_map (vocabulary : Vocabulary) (path : Block.Path)
    (slots : List (String × List Block)) :
    faultsTable vocabulary path slots =
      slots.map fun entry => (entry.1, faultsAll vocabulary path entry.1 0 entry.2) := by
  induction slots with
  | nil => rfl
  | cons entry slots ih => rw [faultsTable, ih, List.map_cons]

/-- What is wrong with a block: its own faults, and those in its slots. -/
theorem faults_eq (vocabulary : Vocabulary) (path : Block.Path) (nested : Bool) (block : Block) :
    block.faults vocabulary path nested =
      match vocabulary.kind? block.type with
      | none => [.block path (.unknownType block.type)]
      | some kind =>
        (kind.ownFaults nested block).map (.block path) ++
          block.slotFaults vocabulary path kind := by
  obtain ⟨type, id?, fields, slots⟩ := block
  have contents (name : String) : ((faultsTable vocabulary path slots).lookup name).getD [] =
      faultsAll vocabulary path name 0 (Block.inSlot ⟨type, id?, fields, slots⟩ name) := by
    rw [faultsTable_eq_map, Table.lookup_map fun slot => faultsAll vocabulary path slot 0, inSlot,
      slot?]
    cases slots.lookup name <;> rfl
  simp only [faults, contents, slotFaults]

end Block

/-! ## Checks -/

namespace Lowering

theorem checkedKind_of_none {vocabulary : Vocabulary} {block : Block}
    (unknown : vocabulary.kind? block.type = none) (path : Block.Path) :
    checkedKind vocabulary path block = .error (.block path (.unknownType block.type)) := by
  rw [checkedKind, unknown]
  rfl

/-- Checking a block of a known type reports the first violation. -/
theorem checkedKind_of_some {vocabulary : Vocabulary} {block : Block} {kind : Block.Kind}
    (known : vocabulary.kind? block.type = some kind) (path : Block.Path) :
    checkedKind vocabulary path block =
      report ((kind.violations block).map (.block path)) kind := by
  have check : kind.check block = report (kind.violations block) () := by
    unfold Block.Kind.check
    cases kind.violations block <;> rfl
  rw [checkedKind, known]
  simp only [check, report_map, atBlock, report_mapError]

/-- The text of a field that is there. -/
theorem text_eq_of_field? {block : Block} {field value : String}
    (found : block.field? field = some value) : block.text field = value := by
  rw [Block.text, found]
  rfl

/-- What is made of a field reports why nothing can be made of it. -/
theorem atBlock_eq_report {α : Type} {result : Except BlockFault α} (value : α)
    (path : Block.Path) (only : ∀ other, result = .ok other → other = value) :
    atBlock path result = report ((failuresOf result).map (.block path)) value := by
  conv_lhs => rw [atBlock, eq_report_failuresOf only, report_mapError]

/-- A required slot reports what is wrong inside it, and then whether it holds no statement. -/
theorem requiredSlot_eq {vocabulary : Vocabulary} {block : Block} {path : Block.Path}
    {slots : Contributions} {slot : String} {inside : List Compile.Error}
    (contributes : slots slot = report inside (block.flattenSlot vocabulary slot)) :
    requiredSlot block path slots slot =
      report (inside ++ block.emptyFaults vocabulary path ⟨slot, true⟩)
        (block.flattenSlot vocabulary slot) := by
  rw [requiredSlot, contributes]
  refine report_bind ?_
  rw [Block.emptyFaults, Bool.true_and]
  by_cases empty : (block.flattenSlot vocabulary slot).isEmpty = true
  · simp only [empty, ↓reduceIte]
    rfl
  · simp only [empty, Bool.false_eq_true, ↓reduceIte]
    rfl

end Lowering

/-! ## What each kind reports -/

namespace Block.Kind

section

variable {vocabulary : Vocabulary} {path : Block.Path} {block : Block} {slots : Contributions}

theorem placeFaults_of_isStatement {kind : Kind} (statement : kind.isStatement = true)
    (nested : Bool) : kind.placeFaults nested block = [] := by
  rw [placeFaults, statement, Bool.not_true, Bool.and_false, if_neg Bool.false_ne_true]

theorem emptyFaults_optional (slot : String) :
    block.emptyFaults vocabulary path ⟨slot, false⟩ = [] :=
  rfl

/-- A conditional checks its condition, then its first branch, then its second one. -/
theorem statements_conditional
    (inside : ∀ slot, slots slot =
      report (faultsAll vocabulary path slot 0 (block.inSlot slot))
        (block.flattenSlot vocabulary slot)) :
    statements .conditional block path slots =
      report ((textFaults .conditional block).map (.block path) ++
          block.slotFaults vocabulary path .conditional)
        (flatten .conditional block (block.flattenSlot vocabulary)) := by
  have only (other : String) (read : (requiredField block "condition" >>= condition) = .ok other) :
      other = Text.trimmed (block.text "condition") := by
    obtain ⟨value, found, accepted⟩ := bind_requiredField_eq_ok_iff.mp read
    rw [text_eq_of_field? found, (condition_eq_ok_iff.mp accepted).2]
  rw [statements, atBlock_eq_report _ path only]
  refine report_bind ?_
  simp only [slotFaults, schema, List.flatMap_cons, List.flatMap_nil, emptyFaults_optional,
    List.append_nil]
  rw [requiredSlot_eq (inside "then")]
  refine report_bind ?_
  rw [inside "else"]
  exact report_map _ _ _

/-- A publishing statement checks its topic; its payload may be any text. -/
theorem statements_publish :
    statements .publish block path slots =
      report ((textFaults .publish block).map (.block path))
        (flatten .publish block (block.flattenSlot vocabulary)) := by
  have topicOnly (other : String) (read : (requiredField block "topic" >>= topic) = .ok other) :
      other = block.text "topic" := by
    obtain ⟨value, found, accepted⟩ := bind_requiredField_eq_ok_iff.mp read
    rw [← (topic_eq_ok_iff.mp accepted).2, text_eq_of_field? found]
  have payloadOnly (other : String) (read : requiredField block "payload" = .ok other) :
      other = block.text "payload" :=
    (text_eq_of_field? (requiredField_eq_ok_iff.mp read)).symm
  have reads : ((requiredField block "topic" >>= topic) >>= fun sent =>
      requiredField block "payload" >>= fun payload => pure [Statement.publish sent payload]) =
        report (textFaults .publish block)
          [.publish (block.text "topic") (block.text "payload")] := by
    refine bind_eq_report topicOnly ?_
    rw [← List.append_nil (failuresOf _)]
    exact bind_eq_report payloadOnly rfl
  rw [bind_assoc] at reads
  rw [statements, atBlock]
  exact (congrArg _ reads).trans (report_mapError _ _ _)

/-- The statements of a block that is no action, or an action in a slot. -/
theorem statements_eq (kind : Kind) {nested : Bool} (placed : kind = .action → nested = true)
    (inside : ∀ slot, slots slot =
      report (faultsAll vocabulary path slot 0 (block.inSlot slot))
        (block.flattenSlot vocabulary slot)) :
    kind.statements block path slots =
      report ((kind.placeFaults nested block ++ kind.textFaults block).map (.block path) ++
          block.slotFaults vocabulary path kind)
        (kind.flatten block (block.flattenSlot vocabulary)) := by
  cases kind with
  | action =>
      obtain rfl := placed rfl
      rfl
  | conditional =>
      rw [placeFaults_of_isStatement rfl, List.nil_append]
      exact statements_conditional inside
  | publish =>
      have noSlot : block.slotFaults vocabulary path .publish = [] := rfl
      rw [placeFaults_of_isStatement rfl, List.nil_append, noSlot, List.append_nil]
      exact statements_publish
  | sequence =>
      rw [placeFaults_of_isStatement rfl, statements, inside "statements"]
      simp only [textFaults, slotFaults, schema, List.flatMap_cons, List.flatMap_nil,
        emptyFaults_optional, List.append_nil, List.map_nil, List.nil_append]
      rfl

end

end Block.Kind

/-! ## Blocks in blocks, reported -/

section

variable (vocabulary : Vocabulary) (path : Block.Path)

theorem slotStatements_eq_map (slots : List (String × List Block)) :
    slotStatements vocabulary path slots =
      slots.map fun entry => (entry.1, listStatements vocabulary path entry.1 0 entry.2) := by
  induction slots with
  | nil => rfl
  | cons entry slots ih => rw [slotStatements, ih, List.map_cons]

/-- What a slot contributes is what the blocks in it stand for. -/
theorem contributions_eq (block : Block) (slot : String) :
    contributions vocabulary path block slot =
      listStatements vocabulary path slot 0 (block.inSlot slot) := by
  rw [contributions, contributionsOf, slotStatements_eq_map,
    Table.lookup_map fun slot => listStatements vocabulary path slot 0, Block.inSlot, Block.slot?]
  cases block.slots.lookup slot <;> rfl

theorem statements_eq_bind (block : Block) :
    statements vocabulary path block =
      checkedKind vocabulary path block >>= fun kind =>
        kind.statements block path (contributions vocabulary path block) := by
  obtain ⟨type, id?, fields, slots⟩ := block
  rw [statements]
  rfl

theorem listStatements_eq_of_forall (slot : String) (index : Nat) {blocks : List Block}
    (each : ∀ block ∈ blocks, ∀ path, statements vocabulary path block =
      report (block.faults vocabulary path true) (block.flatten vocabulary)) :
    listStatements vocabulary path slot index blocks =
      report (Block.faultsAll vocabulary path slot index blocks)
        (Block.flattenAll vocabulary blocks) := by
  induction blocks generalizing index with
  | nil => rfl
  | cons block blocks ih =>
      obtain ⟨own, others⟩ := List.forall_mem_cons.mp each
      rw [listStatements, own, Block.faultsAll, Block.flattenAll]
      refine report_bind ?_
      rw [ih (index + 1) others]
      exact report_map _ _ _

/-- **A block in a slot reports the first thing that is wrong with it or inside it.** -/
theorem statements_eq (block : Block) :
    statements vocabulary path block =
      report (block.faults vocabulary path true) (block.flatten vocabulary) := by
  induction block using Block.induction generalizing path with
  | step block ih =>
      have inside (slot : String) : contributions vocabulary path block slot =
          report (Block.faultsAll vocabulary path slot 0 (block.inSlot slot))
            (block.flattenSlot vocabulary slot) := by
        rw [contributions_eq]
        exact listStatements_eq_of_forall vocabulary path slot 0 fun child member path =>
          ih slot child member path
      rw [statements_eq_bind, Block.faults_eq, Block.flatten_eq]
      cases known : vocabulary.kind? block.type with
      | none =>
          rw [checkedKind_of_none known]
          rfl
      | some kind =>
          simp only [checkedKind_of_some known, Block.Kind.ownFaults, List.map_append,
            List.append_assoc]
          refine report_bind ?_
          rw [kind.statements_eq (fun _ => rfl) inside, List.map_append, List.append_assoc]

/-- A slot reports the first thing that is wrong inside it. -/
theorem contributions_eq_report (block : Block) (slot : String) :
    contributions vocabulary path block slot =
      report (Block.faultsAll vocabulary path slot 0 (block.inSlot slot))
        (block.flattenSlot vocabulary slot) := by
  rw [contributions_eq]
  exact listStatements_eq_of_forall vocabulary path slot 0 fun child _ path =>
    statements_eq vocabulary path child

/-- An action reports the first thing that is wrong with its texts or its body. -/
theorem action_eq (block : Block) :
    action vocabulary path block =
      report ((Block.Kind.textFaults .action block).map (.block path) ++
          block.slotFaults vocabulary path .action)
        (block.declared vocabulary) := by
  have nameOnly (other : String) (read : (requiredField block "name" >>= actionName) = .ok other) :
      other = Text.trimmed (block.text "name") := by
    obtain ⟨value, found, accepted⟩ := bind_requiredField_eq_ok_iff.mp read
    rw [text_eq_of_field? found, (actionName_eq_ok_iff.mp accepted).2]
  have everyOnly (other : Duration) (read : (requiredField block "every" >>= trigger) = .ok other) :
      other = (block.declared vocabulary).every := by
    obtain ⟨value, found, accepted⟩ := bind_requiredField_eq_ok_iff.mp read
    rw [Block.declared, text_eq_of_field? found, trigger_eq_ok_iff.mp accepted]
    rfl
  rw [action, atBlock_eq_report _ path nameOnly, Block.Kind.textFaults, List.map_append,
    List.append_assoc]
  refine report_bind ?_
  rw [atBlock_eq_report _ path everyOnly]
  refine report_bind ?_
  rw [requiredSlot_eq (contributions_eq_report vocabulary path block "do")]
  simp only [Block.slotFaults, Block.Kind.schema, List.flatMap_cons, List.flatMap_nil,
    List.append_nil]
  exact report_map _ _ _

/-- **A block of the workspace reports the first thing that is wrong with it or inside it.** -/
theorem piece_eq (block : Block) :
    piece vocabulary path block =
      report (block.faults vocabulary path false) (block.piece vocabulary path) := by
  rw [piece, Block.faults_eq, Block.piece]
  cases known : vocabulary.kind? block.type with
  | none =>
      rw [checkedKind_of_none known]
      rfl
  | some kind =>
      simp only [checkedKind_of_some known, Block.Kind.ownFaults, List.map_append,
        List.append_assoc]
      refine report_bind ?_
      by_cases declares : kind = .action
      · subst declares
        rw [action_eq]
        exact report_map _ _ _
      · have statement : kind.isStatement = true := by simpa [Block.Kind.isStatement] using declares
        rw [if_pos statement, if_neg (by simpa using declares), Block.flatten_eq, known,
          kind.statements_eq (fun same => absurd same declares)
            (contributions_eq_report vocabulary path block), List.map_append, List.append_assoc]
        exact report_map _ _ _

end

/-! ## Workspaces -/

/-- What is wrong with blocks of a workspace, the first of them at place `index`, after what the
blocks before them contribute; the last of that comes first. -/
def Block.pieceFaults (vocabulary : Vocabulary) (earlier : List Piece) (index : Nat) :
    List Block → List Compile.Error
  | [] => []
  | block :: rest =>
    block.faults vocabulary (.topLevel index) false ++
      (failuresOf (addPiece earlier (block.piece vocabulary (.topLevel index))) ++
        pieceFaults vocabulary (block.piece vocabulary (.topLevel index) :: earlier) (index + 1)
          rest)

namespace Compiler

/-- What is wrong with the action for statements outside every action, where there are any. -/
def defaultFaults (compiler : Compiler) (workspace : Workspace) : List Compile.Error :=
  if workspace.loose compiler.vocabulary = [] then []
  else failuresOf (Lowering.defaultAction compiler.defaultAction.name compiler.defaultAction.every
    (Block.pieces compiler.vocabulary 0 workspace.blocks) (workspace.loose compiler.vocabulary))

/-- Everything that is wrong with a workspace, in the order in which it is met. -/
def faults (compiler : Compiler) (workspace : Workspace) : List Compile.Error :=
  Block.pieceFaults compiler.vocabulary [] 0 workspace.blocks ++ compiler.defaultFaults workspace

/-- The action for statements outside every action, where there are any. -/
def looseAction? (compiler : Compiler) (workspace : Workspace) : Option Script.Action :=
  if workspace.loose compiler.vocabulary = [] then none
  else some ⟨compiler.defaultAction.name, compiler.defaultAction.every,
    workspace.loose compiler.vocabulary⟩

/-- The program for which a workspace stands. -/
def programOf (compiler : Compiler) (workspace : Workspace) : Script.Program :=
  ⟨assemble (compiler.looseAction? workspace)
    (Block.pieces compiler.vocabulary 0 workspace.blocks)⟩

end Compiler

theorem eq_cons_of_addPiece {earlier after : List Piece} {piece : Piece}
    (added : addPiece earlier piece = .ok after) : after = piece :: earlier := by
  unfold addPiece at added
  split at added
  · exact (Except.ok.inj added).symm
  · split at added
    · cases added
    · exact (Except.ok.inj added).symm

theorem eq_of_defaultAction {name : String} {every : Duration} {pieces : List Piece}
    {body : List Statement} {action : Script.Action}
    (made : Lowering.defaultAction name every pieces body = .ok action) :
    action = ⟨name, every, body⟩ := by
  unfold Lowering.defaultAction at made
  split at made
  · split at made
    · cases made
    · exact (Except.ok.inj made).symm
  · cases made

/-- Blocks of a workspace report the first thing that is wrong with them. -/
theorem pieces_eq (vocabulary : Vocabulary) (earlier : List Piece) (index : Nat)
    (blocks : List Block) :
    pieces vocabulary earlier index blocks =
      report (Block.pieceFaults vocabulary earlier index blocks)
        ((Block.pieces vocabulary index blocks).reverse ++ earlier) := by
  induction blocks generalizing earlier index with
  | nil => rfl
  | cons block blocks ih =>
      rw [pieces, piece_eq, Block.pieceFaults, Block.pieces, List.reverse_cons, List.append_assoc,
        List.singleton_append]
      refine report_bind ?_
      exact bind_eq_report (fun other added => eq_cons_of_addPiece added) (ih _ _)

/-- **A workspace reports the first thing that is wrong with it**, and where nothing is it gives
the program for which it stands. -/
theorem Compiler.lower_eq (compiler : Compiler) (workspace : Workspace) :
    compiler.lower workspace =
      report (compiler.faults workspace) (compiler.programOf workspace) := by
  rw [lower, Lowering.program, pieces_eq, List.append_nil, faults]
  refine report_bind ?_
  simp only [List.reverse_reverse, looseStatements_pieces]
  rw [defaultFaults, programOf, looseAction?, ← Workspace.loose]
  by_cases silent : workspace.loose compiler.vocabulary = []
  · simp only [silent, List.isEmpty_nil, ↓reduceIte]
    rfl
  · have some : (workspace.loose compiler.vocabulary).isEmpty = false :=
      List.isEmpty_eq_false_iff.mpr silent
    simp only [silent, some, Bool.false_eq_true, ↓reduceIte]
    rw [← List.append_nil (failuresOf _)]
    exact bind_eq_report (fun other made => eq_of_defaultAction made) rfl

end BlockScript
