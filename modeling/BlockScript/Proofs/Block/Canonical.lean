import BlockScript.Block.Canonical
import BlockScript.Proofs.Json.Written
import BlockScript.Proofs.Table

/-!
# The canonical text is read back

A workspace that is written and read again is the same workspace. Writing leaves out an id that is
not there and tables without entries, and reading puts them back; a slot without blocks is written,
so it is not lost. The one thing that can go wrong is that the text is nested too deeply for the
reader (`Workspace.ofJson_toJson`).

The members of a written block are read one after the other into a draft. `ReadsAs` says what the
rest of them comes to, in a draft that holds what came before; each member adds to it what it takes
to read it, and its own nesting.
-/

set_option autoImplicit false

namespace BlockScript

open Json (Fault Form Node Room enter_bind permit permit_bind permit_map permit_zero)

/-! ## Tables of strings -/

/-- The fields of a block as members of a table. -/
def Block.fieldForms (fields : List (String × String)) : List (String × Form) :=
  fields.map fun (name, value) => (name, .string value)

theorem Block.nesting_fieldForms (fields : List (String × String)) :
    Form.nestingMembers (Block.fieldForms fields) = 0 := by
  induction fields with
  | nil => rfl
  | cons entry fields ih =>
      rw [Block.fieldForms, List.map_cons, Form.nestingMembers]
      rw [show max (Form.string entry.2).nesting _ = _ from Nat.zero_max _]
      exact ih

theorem Block.readMembers_fieldForms (fields : List (String × String)) (table : Table String)
    (ordered : Table.Ordered (table.entries ++ fields)) :
    Json.readMembers Node.readString .closed table (Form.memberNodes (Block.fieldForms fields)) =
      .ok ⟨table.entries ++ fields, ordered⟩ := by
  induction fields generalizing table with
  | nil =>
      simp only [List.append_nil]
      rfl
  | cons entry fields ih =>
      obtain ⟨name, value⟩ := entry
      have inserted : (table.put name value).entries = table.entries ++ [(name, value)] :=
        Table.insert_eq_concat ordered.lt_of_append
      have whole : table.entries ++ (name, value) :: fields =
          (table.put name value).entries ++ fields := by
        rw [inserted, ← List.append_cons]
      simp only [whole] at ordered ⊢
      exact ih (table.put name value) ordered

theorem Block.readTable_fieldForms (room : Nat) {fields : List (String × String)}
    (ordered : Table.Ordered fields) :
    (Form.table (Block.fieldForms fields)).node.readTable (some room) (fun _ => Node.readString) =
      permit room (Form.table (Block.fieldForms fields)).nesting ⟨fields, ordered⟩ := by
  rw [Form.node, Node.readTable, Form.nesting, Block.nesting_fieldForms]
  refine enter_bind fun inner => ?_
  rw [Block.readMembers_fieldForms fields .empty ordered, permit_zero]
  rfl

/-! ## The members of a block -/

namespace Block

theorem key?_name (key : BlockKey) : Block.record.key? key.name = some key := by
  cases key <;> decide

/-- The members that are left are read into a draft as a block, where there is room for them. -/
def ReadsAs (room : Nat) (draft : BlockDraft) (members : List (String × Form)) (block : Block) :
    Prop :=
  Block.ofMembers (some room) .closed draft (Form.memberNodes members) =
    permit room (Form.nestingMembers members) block

variable {room : Nat} {draft : BlockDraft} {rest : List (String × Form)} {block : Block}

theorem ReadsAs.done (type : String) (id? : Option (Option String))
    (fields? : Option (List (String × String))) (slots? : Option (List (String × List Block))) :
    ReadsAs room ⟨some type, id?, fields?, slots?⟩ []
      ⟨type, id?.getD none, fields?.getD [], slots?.getD []⟩ :=
  (permit_zero _ _).symm

theorem ReadsAs.member (key : BlockKey) {form : Form} {filled : BlockDraft}
    (free : Block.record.has draft key = false)
    (sets : Block.setKey (some room) draft key form.node
      (fun _ => Block.slotsOfNode (some room) form.node) = permit room form.nesting filled)
    (later : ReadsAs room filled rest block) :
    ReadsAs room draft ((key.name, form) :: rest) block := by
  have fresh : Block.record.freshKey? draft key.name = .ok (some key) := by
    rw [Json.Record.freshKey?, key?_name]
    exact if_neg (by rw [free]; exact Bool.false_ne_true)
  rw [ReadsAs, Form.memberNodes, Block.ofMembers, Json.Quoted.whole, ok_bind, fresh, ok_bind,
    Form.nestingMembers]
  simp only [sets]
  exact permit_bind _ _ _ later

theorem ReadsAs.id {id? : Option String} (free : draft.id? = none)
    (later : ReadsAs room { draft with id? := id?.map some } rest block) :
    ReadsAs room draft ((id?.toList.map fun id => ("id", .string id)) ++ rest) block := by
  cases id? with
  | none =>
      obtain ⟨type?, _, fields?, slots?⟩ := draft
      cases free
      exact later
  | some id =>
      refine .member .id ?_ ?_ later
      · simp [Block.record, free]
      · exact (permit_zero _ _).symm

theorem ReadsAs.fields {fields : List (String × String)} (ordered : Table.Ordered fields)
    (free : draft.fields? = none)
    (later : ReadsAs room
      { draft with fields? := if fields.isEmpty then none else some fields } rest block) :
    ReadsAs room draft
      ((if fields.isEmpty then [] else [("fields", .table (fieldForms fields))]) ++ rest) block := by
  cases empty : fields.isEmpty with
  | true =>
      rw [empty] at later
      obtain ⟨type?, id?, _, slots?⟩ := draft
      cases free
      exact later
  | false =>
      rw [empty] at later
      refine .member .fields ?_ ?_ later
      · simp [Block.record, free]
      · rw [setKey, readTable_fieldForms room ordered, permit_map]
        rfl

theorem ReadsAs.slots {slots : List (String × List Block)} (free : draft.slots? = none)
    (reads : Block.slotsOfNode (some room) (Form.table (formSlots slots)).node =
      permit room (Form.table (formSlots slots)).nesting slots)
    (later : ReadsAs room
      { draft with slots? := if slots.isEmpty then none else some slots } [] block) :
    ReadsAs room draft
      (if slots.isEmpty then [] else [("slots", .table (formSlots slots))]) block := by
  cases empty : slots.isEmpty with
  | true =>
      rw [empty] at later
      obtain ⟨type?, id?, fields?, _⟩ := draft
      cases free
      exact later
  | false =>
      rw [empty] at later
      refine .member .slots ?_ ?_ later
      · simp [Block.record, free]
      · rw [setKey, reads, permit_map]
        rfl

/-! ## Blocks -/

theorem listOfNode_list (room : Nat) {blocks : List Block}
    (items : ∀ inner, listOfItems (some inner) .closed (Form.nodes (formList blocks)) =
      permit inner (Form.nestingItems (formList blocks)) blocks) :
    listOfNode (some room) (Form.list (formList blocks)).node =
      permit room (Form.list (formList blocks)).nesting blocks := by
  rw [Form.node, listOfNode, Form.nesting]
  exact enter_bind items

-- The induction is on the blocks, and the room is whatever is left where a block stands: a list or
-- a table hands one level less on to what is in it.
mutual
/-- **A written block is read back**, where there is room for it. -/
theorem ofNode_form (room : Nat) (block : Block) (ordered : block.Ordered) :
    Block.ofNode (some room) block.form.node = permit room block.form.nesting block := by
  match block, ordered with
  | ⟨type, id?, fields, slots⟩, ⟨orderedFields, orderedSlots, inside⟩ =>
      rw [form, Form.node, ofNode, Form.nesting]
      refine enter_bind fun inner => ?_
      have reads : Block.slotsOfNode (some inner) (Form.table (formSlots slots)).node =
          permit inner (Form.table (formSlots slots)).nesting slots := by
        rw [Form.node, slotsOfNode, Form.nesting]
        exact enter_bind fun room => slotsOfMembers_form room [] slots orderedSlots inside
      have whole : (⟨type, (id?.map some).getD none,
          (if fields.isEmpty then none else some fields).getD [],
          (if slots.isEmpty then none else some slots).getD []⟩ : Block) =
            ⟨type, id?, fields, slots⟩ := by
        cases id? <;> cases fields <;> cases slots <;> rfl
      rw [← whole, List.append_assoc, List.cons_append]
      refine ReadsAs.member .type rfl (permit_zero _ _).symm ?_
      exact .id rfl (.fields orderedFields rfl (.slots rfl reads (.done ..)))

theorem slotsOfMembers_form (room : Nat) (table slots : List (String × List Block))
    (ordered : Table.Ordered (table ++ slots)) (inside : OrderedSlots slots) :
    slotsOfMembers (some room) .closed table (Form.memberNodes (formSlots slots)) =
      permit room (Form.nestingMembers (formSlots slots)) (table ++ slots) := by
  match slots, inside with
  | [], _ =>
      rw [List.append_nil]
      exact (permit_zero _ _).symm
  | (name, blocks) :: rest, ⟨insideFirst, insideRest⟩ =>
      have inserted : Table.insert name blocks table = table ++ [(name, blocks)] :=
        Table.insert_eq_concat ordered.lt_of_append
      have reads := listOfNode_list room fun room => listOfItems_form room blocks insideFirst
      rw [List.append_cons] at ordered ⊢
      rw [formSlots, Form.memberNodes, slotsOfMembers, Json.Quoted.whole, ok_bind, reads,
        Form.nestingMembers]
      refine permit_bind _ _ _ ?_
      rw [inserted]
      exact slotsOfMembers_form room _ rest ordered insideRest

theorem listOfItems_form (room : Nat) (blocks : List Block) (inside : OrderedList blocks) :
    listOfItems (some room) .closed (Form.nodes (formList blocks)) =
      permit room (Form.nestingItems (formList blocks)) blocks := by
  match blocks, inside with
  | [], _ => exact (permit_zero _ _).symm
  | block :: rest, ⟨insideFirst, insideRest⟩ =>
      rw [formList, Form.nodes, listOfItems, ofNode_form room block insideFirst,
        listOfItems_form room rest insideRest, Form.nestingItems]
      exact permit_bind _ _ _ (permit_map _ _ _ _)
end

end Block

/-! ## Workspaces -/

theorem Workspace.ofNode_form {workspace : Workspace} (ordered : workspace.Ordered) :
    Workspace.ofNode workspace.form.node = permit 127 workspace.form.nesting workspace := by
  rw [form, Form.node, ofNode, Json.Record.read, Form.nesting]
  refine enter_bind fun inner => ?_
  have reads := Block.listOfNode_list inner fun room =>
    Block.listOfItems_form room workspace.blocks ordered
  have fresh : Workspace.record.freshKey? Workspace.record.blank "blocks" = .ok (some ()) := by
    decide
  rw [Form.memberNodes, Json.Record.readMembers, Json.Quoted.whole, ok_bind, fresh, ok_bind]
  simp only [reads, permit_map]
  exact permit_bind _ _ _ (permit_zero _ _).symm

/-- A written workspace is read back, where at most 127 lists and tables lie in each other. -/
theorem Workspace.ofJson_toJson_eq {workspace : Workspace} (ordered : workspace.Ordered) :
    Workspace.ofJson workspace.toJson = permit 127 workspace.form.nesting workspace := by
  rw [ofJson, Json.Document.read, toJson, Json.Document.ofText_pretty, ofNode_form ordered]
  unfold permit
  split <;> rfl

/-- **Reading inverts writing up to the limit on nesting.** A workspace that is written and read
again is the same workspace, if at most 127 of the written lists and tables lie in each other, and
is refused as nested too deeply if more of them do. It is never read as another workspace. -/
theorem Workspace.ofJson_toJson {workspace : Workspace} (ordered : workspace.Ordered) :
    (workspace.form.nesting ≤ 127 → Workspace.ofJson workspace.toJson = .ok workspace) ∧
      (127 < workspace.form.nesting → ∃ fault, Workspace.ofJson workspace.toJson = .error fault ∧
        fault.message = "recursion limit exceeded") ∧
      ∀ other, Workspace.ofJson workspace.toJson = .ok other → other = workspace := by
  rw [ofJson_toJson_eq ordered, permit]
  by_cases fits : workspace.form.nesting ≤ 127
  · rw [if_pos fits]
    refine ⟨fun _ => rfl, fun tooDeep => absurd fits (by omega), ?_⟩
    intro other same
    exact (Except.ok.inj same).symm
  · rw [if_neg fits]
    refine ⟨fun few => absurd few fits, fun _ => ⟨.tooDeep, rfl, rfl⟩, ?_⟩
    intro other same
    cases same

/-- Groups of statements that lie in each other, to the given depth. -/
def Block.nested : Nat → Block
  | 0 => .ofType "group"
  | depth + 1 => (Block.ofType "group").withSlot "statements" [Block.nested depth]

theorem Block.nested_ordered (depth : Nat) : (Block.nested depth).Ordered := by
  induction depth with
  | zero => exact ⟨.nil, .nil, trivial⟩
  | succ depth ih => exact ⟨.nil, List.pairwise_singleton _ _, ⟨ih, trivial⟩, trivial⟩

/-- Each block that lies in another takes three levels: the block itself, the slots in which it
lies, and the sequence in its slot. -/
theorem Block.nesting_nested (depth : Nat) : (Block.nested depth).form.nesting = 3 * depth + 1 := by
  induction depth with
  | zero => rfl
  | succ depth ih =>
      simp [nested, withSlot, ofType, Table.insert, form, formSlots, formList, Form.nesting,
        Form.nestingMembers, Form.nestingItems, ih]
      omega

theorem Workspace.nesting_singleton (block : Block) :
    (⟨[block]⟩ : Workspace).form.nesting = block.form.nesting + 2 := by
  simp [form, Block.formList, Form.nesting, Form.nestingMembers, Form.nestingItems]

/-- A workspace whose texts have to be escaped in every way, with a slot without blocks. -/
def Workspace.escaped : Workspace :=
  ⟨[⟨"\x00\"\\", some "\n\x1f", [("", "𝄞\x7f"), ("a", "\r\t\x08\x0c/")],
    [("do", []), ("else", [Block.ofType ""])]⟩]⟩

theorem Workspace.ofJson_toJson_extremes :
    (Workspace.escaped.Ordered ∧ Workspace.escaped.form.nesting ≤ 127 ∧
      Workspace.ofJson Workspace.escaped.toJson = .ok .escaped) ∧
    (⟨[Block.nested 42]⟩ : Workspace).Ordered ∧
      127 < (⟨[Block.nested 42]⟩ : Workspace).form.nesting ∧
      ∃ fault, Workspace.ofJson (⟨[Block.nested 42]⟩ : Workspace).toJson = .error fault ∧
        fault.message = "recursion limit exceeded" := by
  have fields : Table.Ordered [("", "𝄞\x7f"), ("a", "\r\t\x08\x0c/")] :=
    List.pairwise_pair.mpr (by decide)
  have slots : Table.Ordered [("do", []), ("else", [Block.ofType ""])] :=
    List.pairwise_pair.mpr (by decide)
  have inside : (Block.ofType "").Ordered := ⟨.nil, .nil, trivial⟩
  have ordered : Workspace.escaped.Ordered :=
    ⟨⟨fields, slots, trivial, ⟨inside, trivial⟩, trivial⟩, trivial⟩
  have few : Workspace.escaped.form.nesting ≤ 127 := by decide
  have orderedNested : (⟨[Block.nested 42]⟩ : Workspace).Ordered := ⟨Block.nested_ordered 42, trivial⟩
  have many : 127 < (⟨[Block.nested 42]⟩ : Workspace).form.nesting := by
    rw [Workspace.nesting_singleton, Block.nesting_nested]
    decide
  exact ⟨⟨ordered, few, (Workspace.ofJson_toJson ordered).1 few⟩, orderedNested, many,
    (Workspace.ofJson_toJson orderedNested).2.1 many⟩

end BlockScript
