import BlockScript.Compile.Lowering
import BlockScript.Proofs.Block.Slots

/-!
# What a workspace stands for

What the compiler makes of blocks when it checks nothing: the statements of a block
(`Block.flatten`), in which groups are spliced into the statements around them, and what each block
of a workspace contributes to the program (`Block.piece`). Neither can fail. Missing texts count as
empty and blocks of no kind stand for nothing, which matters nowhere since such blocks are refused.
-/

set_option autoImplicit false

namespace BlockScript

open Script (Statement)

/-! ## Statements -/

namespace Block

/-- The text of a field, empty where the field is missing. -/
def text (block : Block) (field : String) : String := (block.field? field).getD ""

/-- The statements for which a block of a kind stands when its slots hold the given statements. -/
def Kind.flatten (kind : Kind) (block : Block) (slots : String → List Statement) : List Statement :=
  match kind with
  | .action => []
  | .conditional =>
    [.conditional (Text.trimmed (block.text "condition")) (slots "then") (slots "else")]
  | .publish => [.publish (block.text "topic") (block.text "payload")]
  | .sequence => slots "statements"

mutual
/-- The statements for which a block stands. -/
def flatten (vocabulary : Vocabulary) : Block → List Statement
  | block@⟨type, _, _, slots⟩ =>
    match vocabulary.kind? type with
    | none => []
    | some kind =>
      kind.flatten block fun name => ((flattenTable vocabulary slots).lookup name).getD []

/-- The statements in each slot of a table. -/
def flattenTable (vocabulary : Vocabulary) :
    List (String × List Block) → List (String × List Statement)
  | [] => []
  | (name, blocks) :: rest => (name, flattenAll vocabulary blocks) :: flattenTable vocabulary rest

/-- The statements for which a sequence of blocks stands. -/
def flattenAll (vocabulary : Vocabulary) : List Block → List Statement
  | [] => []
  | block :: rest => block.flatten vocabulary ++ flattenAll vocabulary rest
end

/-- The statements in a slot. -/
def flattenSlot (vocabulary : Vocabulary) (block : Block) (slot : String) : List Statement :=
  flattenAll vocabulary (block.inSlot slot)

theorem flattenTable_eq_map (vocabulary : Vocabulary) (slots : List (String × List Block)) :
    flattenTable vocabulary slots =
      slots.map fun entry => (entry.1, flattenAll vocabulary entry.2) := by
  induction slots with
  | nil => rfl
  | cons entry slots ih => rw [flattenTable, ih, List.map_cons]

/-- The statements of a block, kind by kind. -/
theorem flatten_eq (vocabulary : Vocabulary) (block : Block) :
    block.flatten vocabulary =
      match vocabulary.kind? block.type with
      | none => []
      | some kind => kind.flatten block (block.flattenSlot vocabulary) := by
  obtain ⟨type, id?, fields, slots⟩ := block
  have contents : (fun name => ((flattenTable vocabulary slots).lookup name).getD []) =
      Block.flattenSlot vocabulary ⟨type, id?, fields, slots⟩ := by
    funext name
    rw [flattenTable_eq_map, Table.lookup_map fun _ => flattenAll vocabulary, flattenSlot, inSlot,
      slot?]
    cases slots.lookup name <;> rfl
  rw [flatten, contents]

/-! ## Actions -/

/-- The action for which a block stands: its name is trimmed, and its body is what its slot holds.
Where there is no trigger interval the standard one is put. -/
def declared (vocabulary : Vocabulary) (block : Block) : Script.Action where
  name := Text.trimmed (block.text "name")
  every := (Duration.parse (block.text "every")).toOption.getD .standard
  body := block.flattenSlot vocabulary "do"

/-- What the block at a path of the workspace contributes to the program. -/
def piece (vocabulary : Vocabulary) (path : Block.Path) (block : Block) : Lowering.Piece :=
  if vocabulary.kind? block.type = some .action then .action path (block.declared vocabulary)
  else .loose (block.flatten vocabulary)

/-- What blocks of the workspace contribute, the first of them at place `index`. -/
def pieces (vocabulary : Vocabulary) (index : Nat) : List Block → List Lowering.Piece
  | [] => []
  | block :: rest => block.piece vocabulary (.topLevel index) :: pieces vocabulary (index + 1) rest

/-- The blocks of a sequence that are actions. -/
def actionsOf (vocabulary : Vocabulary) (blocks : List Block) : List Block :=
  blocks.filter fun block => vocabulary.kind? block.type = some .action

section

variable {vocabulary : Vocabulary} {block : Block}

theorem pieces_cons_of_action (action : vocabulary.kind? block.type = some .action) (index : Nat)
    (rest : List Block) :
    pieces vocabulary index (block :: rest) =
      .action (.topLevel index) (block.declared vocabulary) ::
        pieces vocabulary (index + 1) rest := by
  rw [pieces, piece, if_pos action]

theorem pieces_cons_of_not_action (other : vocabulary.kind? block.type ≠ some .action)
    (index : Nat) (rest : List Block) :
    pieces vocabulary index (block :: rest) =
      .loose (block.flatten vocabulary) :: pieces vocabulary (index + 1) rest := by
  rw [pieces, piece, if_neg other]

theorem actionsOf_cons_of_action (action : vocabulary.kind? block.type = some .action)
    (rest : List Block) :
    actionsOf vocabulary (block :: rest) = block :: actionsOf vocabulary rest :=
  List.filter_cons_of_pos (decide_eq_true action)

theorem actionsOf_cons_of_not_action (other : vocabulary.kind? block.type ≠ some .action)
    (rest : List Block) : actionsOf vocabulary (block :: rest) = actionsOf vocabulary rest :=
  List.filter_cons_of_neg (by simpa using other)

end

/-- One further block contributes after the others. -/
theorem pieces_concat (vocabulary : Vocabulary) (index : Nat) (blocks : List Block)
    (block : Block) :
    pieces vocabulary index (blocks ++ [block]) =
      pieces vocabulary index blocks ++
        [block.piece vocabulary (.topLevel (index + blocks.length))] := by
  induction blocks generalizing index with
  | nil => rfl
  | cons first blocks ih =>
      rw [List.cons_append, pieces, ih, pieces, List.length_cons, Nat.add_right_comm, Nat.add_assoc]
      rfl

/-- An action among the pieces of blocks is declared by one of them. -/
theorem exists_of_action_mem_pieces {vocabulary : Vocabulary} {index : Nat} {blocks : List Block}
    {path : Block.Path} {action : Script.Action}
    (member : .action path action ∈ pieces vocabulary index blocks) :
    ∃ (place : Nat) (block : Block), blocks[place]? = some block ∧
      vocabulary.kind? block.type = some .action ∧ path = .topLevel (index + place) ∧
        action = block.declared vocabulary := by
  induction blocks generalizing index with
  | nil => cases member
  | cons block blocks ih =>
      rw [pieces] at member
      rcases List.mem_cons.mp member with here | later
      · rw [piece] at here
        split at here
        · next declares =>
          obtain ⟨rfl, rfl⟩ := Lowering.Piece.action.inj here
          exact ⟨0, block, rfl, declares, rfl, rfl⟩
        · cases here
      · obtain ⟨place, other, found, declares, rfl, rfl⟩ := ih later
        exact ⟨place + 1, other, found, declares, by rw [Nat.add_right_comm]; rfl, rfl⟩

/-- Actions stand for no statements. -/
theorem flatten_eq_nil_of_action {vocabulary : Vocabulary} {block : Block}
    (action : vocabulary.kind? block.type = some .action) : block.flatten vocabulary = [] := by
  rw [flatten_eq, action]
  rfl

end Block

/-- The statements outside every action. -/
def Workspace.loose (vocabulary : Vocabulary) (workspace : Workspace) : List Statement :=
  Block.flattenAll vocabulary workspace.blocks

/-- The statements outside every action come from the pieces that are no actions. -/
theorem looseStatements_pieces (vocabulary : Vocabulary) (index : Nat) (blocks : List Block) :
    Lowering.looseStatements (Block.pieces vocabulary index blocks) =
      Block.flattenAll vocabulary blocks := by
  induction blocks generalizing index with
  | nil => rfl
  | cons block blocks ih =>
      have later := ih (index + 1)
      unfold Lowering.looseStatements at later ⊢
      rw [Block.flattenAll]
      by_cases action : vocabulary.kind? block.type = some .action
      · rw [Block.pieces_cons_of_action action, List.flatMap_cons, later,
          Block.flatten_eq_nil_of_action action]
      · rw [Block.pieces_cons_of_not_action action, List.flatMap_cons, later]

end BlockScript
