import BlockScript.Proofs.Block.Canonical
import BlockScript.Proofs.Blockly.Representation
import BlockScript.Proofs.Json.Reading

/-!
# What is loaded can be saved

A workspace that was loaded is written and loaded again. Both formats give workspaces whose tables
are ordered, so the canonical text of one is never read as another; it is refused where it is nested
more deeply than its reader goes (`Workspace.load_toJson`).

The reader of the canonical text only gives workspaces that fit into its own room for nesting, so
what it has read it reads again. `Block.Fits` says this of a block, and follows the reader: what it
reads with some room fits into that room. The reader of saved documents has no such limit: groups
that are plugged into each other are loaded at any depth (`Workspace.load_nested`).
-/

set_option autoImplicit false

namespace BlockScript

open Json (Fault Form Node Room Quoted ListEnd ObjectEnd permit)

/-! ## The nesting of a block -/

namespace Block

/-- Texts take no room, and the fields and the slots are a table each, where there are any. -/
theorem nesting_form (type : String) (id? : Option String) (fields : List (String × String))
    (slots : List (String × List Block)) :
    (Block.form ⟨type, id?, fields, slots⟩).nesting =
      max (if fields.isEmpty then 0 else 1)
        (if slots.isEmpty then 0 else Form.nestingMembers (formSlots slots) + 1) + 1 := by
  have nestingId :
      Form.nestingMembers (id?.toList.map fun id => ("id", Form.string id)) = 0 := by
    cases id? <;> rfl
  have nestingFields : Form.nestingMembers (if fields.isEmpty then []
      else [("fields", Form.table (fieldForms fields))]) = if fields.isEmpty then 0 else 1 := by
    split
    · rfl
    · rw [Form.nestingMembers, Form.nesting, nesting_fieldForms]
      rfl
  have nestingSlots : Form.nestingMembers (if slots.isEmpty then []
      else [("slots", Form.table (formSlots slots))]) =
        if slots.isEmpty then 0 else Form.nestingMembers (formSlots slots) + 1 := by
    split
    · rfl
    · rw [Form.nestingMembers, Form.nesting]
      exact Nat.max_zero _
  rw [fieldForms] at nestingFields
  rw [form, Form.nesting, Form.nestingMembers_append, Form.nestingMembers_append,
    Form.nestingMembers, nestingId, nestingFields, nestingSlots, Form.nesting]
  simp

/-! ## What fits into a room -/

/-- The block is made of tables, and no more than `room` lists and tables lie in each other in its
written form. -/
def Fits (room : Nat) (block : Block) : Prop := block.Ordered ∧ block.form.nesting ≤ room

/-- Every block of a sequence fits. -/
def ListFits (room : Nat) (blocks : List Block) : Prop :=
  OrderedList blocks ∧ Form.nestingItems (formList blocks) ≤ room

/-- Every sequence in a table of slots fits. -/
def SlotsFit (room : Nat) (slots : List (String × List Block)) : Prop :=
  OrderedSlots slots ∧ Form.nestingMembers (formSlots slots) ≤ room

theorem listFits_nil (room : Nat) : ListFits room [] := ⟨trivial, Nat.zero_le room⟩

theorem ListFits.cons {room : Nat} {block : Block} {blocks : List Block} (fits : block.Fits room)
    (rest : ListFits room blocks) : ListFits room (block :: blocks) :=
  ⟨⟨fits.1, rest.1⟩, Nat.max_le.mpr ⟨fits.2, rest.2⟩⟩

theorem slotsFit_nil (room : Nat) : SlotsFit room [] := ⟨trivial, Nat.zero_le room⟩

theorem slotsFit_cons_iff {inner : Nat} {name : String} {blocks : List Block}
    {slots : List (String × List Block)} :
    SlotsFit (inner + 1) ((name, blocks) :: slots) ↔
      ListFits inner blocks ∧ SlotsFit (inner + 1) slots := by
  rw [SlotsFit, SlotsFit, ListFits, OrderedSlots, formSlots, Form.nestingMembers, Form.nesting,
    Nat.max_le, Nat.add_le_add_iff_right]
  exact and_and_and_comm

theorem SlotsFit.insert {inner : Nat} {name : String} {blocks : List Block}
    {slots : List (String × List Block)} (fits : ListFits inner blocks)
    (others : SlotsFit (inner + 1) slots) :
    SlotsFit (inner + 1) (Table.insert name blocks slots) := by
  induction slots with
  | nil => exact slotsFit_cons_iff.mpr ⟨fits, others⟩
  | cons slot slots ih =>
      obtain ⟨first, rest⟩ := slotsFit_cons_iff.mp others
      rw [Table.insert]
      split
      · exact slotsFit_cons_iff.mpr ⟨fits, rest⟩
      · split
        · exact slotsFit_cons_iff.mpr ⟨fits, others⟩
        · exact slotsFit_cons_iff.mpr ⟨first, ih rest⟩

/-! ## What is read fits -/

end Block

/-- What has been read of a block fits into the room that the block leaves to what is in it. -/
structure BlockDraft.Fits (room : Nat) (draft : BlockDraft) : Prop where
  /-- The fields are a table, for which there is room. -/
  fields : ∀ fields, draft.fields? = some fields → Table.Ordered fields ∧ 0 < room
  /-- The slots are a table, for which there is room, and each sequence in it fits. -/
  slots : ∀ slots, draft.slots? = some slots →
    Table.Ordered slots ∧ ∃ inner, room = inner + 1 ∧ Block.SlotsFit inner slots

namespace Block

theorem record_blank_fits (room : Nat) : Block.record.blank.Fits room := ⟨nofun, nofun⟩

theorem fits_of_complete {room : Nat} {draft : BlockDraft} {block : Block}
    (fits : draft.Fits room) (completes : Block.record.complete draft = .ok block) :
    block.Fits (room + 1) := by
  obtain ⟨_ | type, id?, fields?, slots?⟩ := draft
  · cases completes
  obtain rfl := Except.ok.inj completes
  have orderedFields : Table.Ordered (fields?.getD []) ∧
      (if (fields?.getD []).isEmpty then 0 else 1) ≤ room := by
    cases fields? with
    | none => exact ⟨.nil, Nat.zero_le room⟩
    | some fields =>
        obtain ⟨ordered, positive⟩ := fits.fields fields rfl
        refine ⟨ordered, ?_⟩
        split <;> omega
  have orderedSlots : Table.Ordered (slots?.getD []) ∧ OrderedSlots (slots?.getD []) ∧
      (if (slots?.getD []).isEmpty then 0
        else Form.nestingMembers (formSlots (slots?.getD [])) + 1) ≤ room := by
    cases slots? with
    | none => exact ⟨.nil, trivial, Nat.zero_le room⟩
    | some slots =>
        obtain ⟨ordered, inner, rfl, inside, few⟩ := fits.slots slots rfl
        refine ⟨ordered, inside, ?_⟩
        simp only [Option.getD_some]
        split <;> omega
  refine ⟨⟨orderedFields.1, orderedSlots.1, orderedSlots.2.1⟩, ?_⟩
  rw [nesting_form]
  exact Nat.succ_le_succ (Nat.max_le.mpr ⟨orderedFields.2, orderedSlots.2.2⟩)

theorem fits_of_setKey {room : Nat} {draft next : BlockDraft} {key : BlockKey} {value : Node}
    {slots : Unit → Except Fault (List (String × List Block))}
    (slotsFit : ∀ table, slots () = .ok table →
      Table.Ordered table ∧ ∃ inner, room = inner + 1 ∧ SlotsFit inner table)
    (fits : draft.Fits room) (sets : Block.setKey (some room) draft key value slots = .ok next) :
    next.Fits room := by
  cases key with
  | type =>
      obtain ⟨type, -, rfl⟩ := map_eq_ok_iff.mp sets
      exact ⟨fits.fields, fits.slots⟩
  | id =>
      obtain ⟨id, -, rfl⟩ := map_eq_ok_iff.mp sets
      exact ⟨fits.fields, fits.slots⟩
  | fields =>
      obtain ⟨fields, reads, rfl⟩ := map_eq_ok_iff.mp sets
      refine ⟨fun own same => ?_, fits.slots⟩
      obtain rfl := Option.some.inj same
      unfold Node.readTable at reads
      split at reads
      · obtain ⟨_, enters, -⟩ := bind_eq_ok_iff.mp reads
        obtain ⟨inner, rfl, -⟩ := Room.enter_eq_ok_iff.mp enters
        exact ⟨fields.ordered, Nat.succ_pos inner⟩
      · cases reads
  | slots =>
      obtain ⟨table, reads, rfl⟩ := map_eq_ok_iff.mp sets
      refine ⟨fits.fields, fun own same => ?_⟩
      obtain rfl := Option.some.inj same
      exact slotsFit table reads

-- The induction is on the tree, as the reader goes through it, and the room is what the reader has
-- left where it is.
mutual
/-- **A block that is read fits into the room that there was for it.** -/
theorem fits_of_ofNode {room : Nat} {node : Node} {block : Block}
    (reads : Block.ofNode (some room) node = .ok block) : block.Fits room := by
  match node with
  | .object members ending =>
      obtain ⟨_, enters, reads⟩ := bind_eq_ok_iff.mp reads
      obtain ⟨inner, rfl, rfl⟩ := Room.enter_eq_ok_iff.mp enters
      exact fits_of_ofMembers (record_blank_fits inner) reads
  | .list items ending =>
      obtain ⟨_, enters, reads⟩ := bind_eq_ok_iff.mp reads
      obtain ⟨inner, rfl, rfl⟩ := Room.enter_eq_ok_iff.mp enters
      exact fits_of_ofItems (record_blank_fits inner) reads
  | .null | .boolean _ | .number _ | .cutNumber | .string _ | .fault _ => cases reads

theorem fits_of_ofMembers {room : Nat} {ending : ObjectEnd} {draft : BlockDraft}
    {members : List (Quoted × Node)} {block : Block} (fits : draft.Fits room)
    (reads : Block.ofMembers (some room) ending draft members = .ok block) :
    block.Fits (room + 1) := by
  match members with
  | [] =>
      obtain ⟨_, -, made⟩ := bind_eq_ok_iff.mp reads
      exact fits_of_complete fits (Json.Record.complete_of_fromObject made)
  | (key, value) :: rest =>
      obtain ⟨name, -, reads⟩ := bind_eq_ok_iff.mp reads
      obtain ⟨key?, -, reads⟩ := bind_eq_ok_iff.mp reads
      cases key? with
      | none =>
          obtain ⟨_, -, reads⟩ := bind_eq_ok_iff.mp reads
          exact fits_of_ofMembers fits reads
      | some key =>
          obtain ⟨next, sets, reads⟩ := bind_eq_ok_iff.mp reads
          exact fits_of_ofMembers
            (fits_of_setKey (fun _ reads => slotsFit_of_slotsOfNode reads) fits sets) reads

theorem fits_of_ofItems {room : Nat} {ending : ListEnd} {draft : BlockDraft}
    {keys : List BlockKey} {items : List Node} {block : Block} (fits : draft.Fits room)
    (reads : Block.ofItems (some room) ending draft keys items = .ok block) :
    block.Fits (room + 1) := by
  match keys, items with
  | [], [] | _ :: _, [] =>
      exact fits_of_complete fits (Json.Record.complete_of_fromListEnd reads)
  | [], _ :: _ => cases reads
  | key :: keys, item :: rest =>
      obtain ⟨next, sets, reads⟩ := bind_eq_ok_iff.mp reads
      exact fits_of_ofItems
        (fits_of_setKey (fun _ reads => slotsFit_of_slotsOfNode reads) fits sets) reads

theorem slotsFit_of_slotsOfNode {room : Nat} {node : Node} {slots : List (String × List Block)}
    (reads : Block.slotsOfNode (some room) node = .ok slots) :
    Table.Ordered slots ∧ ∃ inner, room = inner + 1 ∧ SlotsFit inner slots := by
  match node with
  | .object members ending =>
      obtain ⟨_, enters, reads⟩ := bind_eq_ok_iff.mp reads
      obtain ⟨inner, rfl, rfl⟩ := Room.enter_eq_ok_iff.mp enters
      obtain ⟨ordered, fits⟩ := slotsFit_of_slotsOfMembers .nil (slotsFit_nil inner) reads
      exact ⟨ordered, inner, rfl, fits⟩
  | .list _ _ | .null | .boolean _ | .number _ | .cutNumber | .string _ | .fault _ => cases reads

theorem slotsFit_of_slotsOfMembers {room : Nat} {ending : ObjectEnd}
    {table slots : List (String × List Block)} {members : List (Quoted × Node)}
    (ordered : Table.Ordered table) (fits : SlotsFit room table)
    (reads : Block.slotsOfMembers (some room) ending table members = .ok slots) :
    Table.Ordered slots ∧ SlotsFit room slots := by
  match members with
  | [] =>
      obtain ⟨_, -, rfl⟩ := map_eq_ok_iff.mp reads
      exact ⟨ordered, fits⟩
  | (key, value) :: rest =>
      obtain ⟨name, -, reads⟩ := bind_eq_ok_iff.mp reads
      obtain ⟨blocks, readsFirst, reads⟩ := bind_eq_ok_iff.mp reads
      obtain ⟨inner, rfl, fitsFirst⟩ := listFits_of_listOfNode readsFirst
      exact slotsFit_of_slotsOfMembers ordered.insert (fits.insert fitsFirst) reads

theorem listFits_of_listOfNode {room : Nat} {node : Node} {blocks : List Block}
    (reads : Block.listOfNode (some room) node = .ok blocks) :
    ∃ inner, room = inner + 1 ∧ ListFits inner blocks := by
  match node with
  | .list items ending =>
      obtain ⟨_, enters, reads⟩ := bind_eq_ok_iff.mp reads
      obtain ⟨inner, rfl, rfl⟩ := Room.enter_eq_ok_iff.mp enters
      exact ⟨inner, rfl, listFits_of_listOfItems reads⟩
  | .object _ _ | .null | .boolean _ | .number _ | .cutNumber | .string _ | .fault _ =>
      cases reads

theorem listFits_of_listOfItems {room : Nat} {ending : ListEnd} {items : List Node}
    {blocks : List Block} (reads : Block.listOfItems (some room) ending items = .ok blocks) :
    ListFits room blocks := by
  match items with
  | [] =>
      obtain ⟨_, -, rfl⟩ := map_eq_ok_iff.mp reads
      exact listFits_nil room
  | item :: rest =>
      obtain ⟨block, readsFirst, reads⟩ := bind_eq_ok_iff.mp reads
      obtain ⟨others, readsRest, same⟩ := bind_eq_ok_iff.mp reads
      obtain rfl := Except.ok.inj same
      exact .cons (fits_of_ofNode readsFirst) (listFits_of_listOfItems readsRest)
end

end Block

/-! ## Loaded workspaces -/

/-- What has been read of a workspace fits into the room that it leaves to what is in it. -/
def Workspace.DraftFits (room : Nat) (draft : Option (List Block)) : Prop :=
  ∀ blocks, draft = some blocks → ∃ inner, room = inner + 1 ∧ Block.ListFits inner blocks

theorem Workspace.draftFits_blank (inner : Nat) : DraftFits inner Workspace.record.blank := by
  intro blocks none
  cases none

theorem Workspace.draftFits_of_set (inner : Nat) (draft : Option (List Block)) (_ : Unit)
    (node : Node) (next : Option (List Block)) (_ : DraftFits inner draft)
    (sets : (Block.listOfNode (some inner) node).map some = .ok next) : DraftFits inner next := by
  obtain ⟨blocks, reads, rfl⟩ := map_eq_ok_iff.mp sets
  intro own same
  obtain rfl := Option.some.inj same
  exact Block.listFits_of_listOfNode reads

/-- **A workspace that is read from a canonical text fits into the room of its reader.** -/
theorem Workspace.fits_of_ofJson {text : String} {workspace : Workspace}
    (reads : Workspace.ofJson text = .ok workspace) :
    workspace.Ordered ∧ workspace.form.nesting ≤ 127 := by
  obtain ⟨inner, draft, room, kept, completes⟩ :=
    Json.Record.exists_draft_of_read DraftFits draftFits_blank draftFits_of_set
      (Json.Document.read_root_of_read reads)
  obtain rfl := Except.ok.inj completes
  cases draft with
  | none => exact ⟨trivial, by decide⟩
  | some blocks =>
      obtain ⟨deeper, rfl, ordered, few⟩ := kept blocks rfl
      refine ⟨ordered, ?_⟩
      show max (Form.nestingItems (Block.formList blocks) + 1) 0 + 1 ≤ 127
      omega

/-! ## Loaded documents -/

namespace Block

theorem orderedSlots_iff {slots : List (String × List Block)} :
    OrderedSlots slots ↔ ∀ entry ∈ slots, OrderedList entry.2 := by
  induction slots with
  | nil => simp [OrderedSlots]
  | cons slot slots ih => rw [OrderedSlots, ih, List.forall_mem_cons]

theorem OrderedList.append {blocks others : List Block} (ordered : OrderedList blocks)
    (orderedOthers : OrderedList others) : OrderedList (blocks ++ others) := by
  induction blocks with
  | nil => exact orderedOthers
  | cons block blocks ih => exact ⟨ordered.1, ih ordered.2⟩

end Block

namespace Blockly

/-- The blocks of a chain are made of tables. -/
theorem SavedBlock.StandsFor.ordered {saved : SavedBlock} {blocks : List Block}
    (stands : saved.StandsFor blocks) : Block.OrderedList blocks := by
  induction stands with
  | @chain _ _ _ _ next? _ slots _ fieldNames _ slotNames _ ends _ ihChains ihNext =>
      refine ⟨⟨fieldNames.ordered, slotNames.ordered, Block.orderedSlots_iff.mpr ?_⟩, ?_⟩
      · rintro ⟨name, blocks⟩ member
        have found := slotNames.ordered.lookup_eq_some_iff.mpr member
        obtain ⟨entry, plugged, rfl⟩ := (slotNames.names name).mp ⟨blocks, found⟩
        exact ihChains entry plugged blocks found
      · cases follows : follower next? with
        | none =>
            rw [ends follows]
            trivial
        | some next => exact ihNext next follows

theorem ordered_of_forall₂_standsFor {heads : List SavedBlock} {parts : List (List Block)}
    (stand : List.Forall₂ SavedBlock.StandsFor heads parts) :
    Block.OrderedList parts.flatten := by
  induction stand with
  | nil => trivial
  | cons stands _ ih => exact stands.ordered.append ih

/-- **The workspace of a document is made of tables.** -/
theorem SavedDocument.ordered_of_workspace {document : SavedDocument} {workspace : Workspace}
    (converts : document.workspace = .ok workspace) : workspace.Ordered := by
  rw [workspace_eq] at converts
  obtain ⟨blocks, convertsChains, rfl⟩ := map_eq_ok_iff.mp converts
  obtain ⟨parts, stand, rfl⟩ := chains_eq_ok_iff.mp convertsChains
  exact ordered_of_forall₂_standsFor stand

/-! ## Documents without a limit -/

/-- Groups whose statements are plugged into each other, to the given depth. -/
def SavedBlock.nested : Nat → SavedBlock
  | 0 => .mk "group" none [] [] none
  | depth + 1 =>
    .mk "group" none [] [("statements", .mk (some (SavedBlock.nested depth)) none)] none

/-- These groups as JSON. -/
def SavedBlock.nestedForm : Nat → Form
  | 0 => .table [("type", .string "group")]
  | depth + 1 => .table [("type", .string "group"),
    ("inputs", .table [("statements", .table [("block", SavedBlock.nestedForm depth)])])]

/-- A document with these groups as JSON. -/
def SavedDocument.nestedForm (depth : Nat) : Form :=
  .table [("blocks", .table [("blocks", .list [SavedBlock.nestedForm depth])])]

theorem Connection.ofNode_nestedForm {depth : Nat}
    (reads : SavedBlock.ofNode (SavedBlock.nestedForm depth).node = .ok (.nested depth)) :
    Connection.ofNode (Form.table [("block", SavedBlock.nestedForm depth)]).node =
      .ok (.mk (some (.nested depth)) none) := by
  have some : (SavedBlock.nestedForm depth).node.orNull
      (fun _ => SavedBlock.ofNode (SavedBlock.nestedForm depth).node) =
        .ok (some (.nested depth)) := by
    cases depth <;> exact congrArg (Except.map some) reads
  have sets : Connection.setKey Connection.record.blank .block (SavedBlock.nestedForm depth).node
      (fun _ => SavedBlock.ofNode (SavedBlock.nestedForm depth).node) =
        .ok ⟨Option.some (Option.some (.nested depth)), none⟩ :=
    congrArg (Except.map _) some
  have fresh : Connection.record.freshKey? Connection.record.blank "block" =
    .ok (Option.some .block) := rfl
  rw [Form.node, Form.memberNodes, Connection.ofNode, Connection.ofMembers, Json.Quoted.whole,
    ok_bind, fresh, ok_bind]
  simp only [sets]
  rfl

theorem SavedBlock.ofNode_nestedForm (depth : Nat) :
    SavedBlock.ofNode (nestedForm depth).node = .ok (nested depth) := by
  induction depth with
  | zero => rfl
  | succ depth ih =>
      have inputs : Connection.tableOfNode
          (Form.table [("statements", .table [("block", nestedForm depth)])]).node =
            .ok [("statements", .mk (some (nested depth)) none)] := by
        rw [Form.node, Form.memberNodes, Connection.tableOfNode, Connection.tableOfMembers,
          Json.Quoted.whole, ok_bind, Connection.ofNode_nestedForm ih]
        rfl
      have sets := congrArg (Except.map fun inputs =>
        ({ type? := some "group", inputs? := some inputs } : BlockDraft)) inputs
      have fresh : SavedBlock.record.freshKey? { type? := some "group" } "inputs" =
        .ok (some .inputs) := rfl
      show SavedBlock.ofMembers .closed { type? := some "group" } [(.whole "inputs",
        (Form.table [("statements", .table [("block", nestedForm depth)])]).node)] = _
      rw [ofMembers, Json.Quoted.whole, ok_bind, fresh, ok_bind]
      simp only [setKey, sets]
      rfl

/-- A record of which one key is given. -/
theorem read_member {Key Draft α : Type} {record : Json.Record Key Draft α}
    {set : Room → Draft → Key → Node → Except Fault Draft} {name : String} {key : Key} {form : Form}
    (fresh : record.freshKey? record.blank name = .ok (some key)) :
    record.read none set (Form.table [(name, form)]).node =
      (set none record.blank key form.node >>= record.fromObject) := by
  rw [Form.node, Form.memberNodes, Json.Record.read, Room.enter, ok_bind, Json.Record.readMembers,
    Json.Quoted.whole, ok_bind, fresh, ok_bind]
  rfl

theorem SavedDocument.ofJson_nestedForm (depth : Nat) :
    SavedDocument.ofJson (nestedForm depth).pretty = .ok ⟨some ⟨0, [.nested depth]⟩⟩ := by
  have list : (Form.list [SavedBlock.nestedForm depth]).node.readList none
      (fun _ => SavedBlock.ofNode) = .ok [.nested depth] := by
    rw [Form.node, Form.nodes, Json.Node.readList, Room.enter, ok_bind, Json.readItems,
      SavedBlock.ofNode_nestedForm]
    rfl
  have sectionFresh : SavedDocument.record.freshKey? SavedDocument.record.blank "blocks" =
    .ok (some ()) := rfl
  have listFresh : BlockList.record.freshKey? BlockList.record.blank "blocks" =
    .ok (some .blocks) := rfl
  have chains : BlockList.ofNode
      (Form.table [("blocks", .list [SavedBlock.nestedForm depth])]).node =
        .ok ⟨0, [.nested depth]⟩ := by
    rw [BlockList.ofNode, read_member listFresh, BlockList.setKey, list]
    rfl
  have whole : SavedDocument.ofNode (nestedForm depth).node = .ok ⟨some ⟨0, [.nested depth]⟩⟩ := by
    rw [nestedForm, ofNode, read_member sectionFresh, Json.Node.readOptional]
    simp only [Form.node, Json.Node.orNull]
    rw [Form.node] at chains
    rw [chains]
    rfl
  rw [ofJson, Json.Document.read, Json.Document.ofText_pretty, whole]
  rfl

theorem SavedBlock.chain_nested (depth : Nat) :
    (nested depth).chain = .ok [Block.nested depth] := by
  induction depth with
  | zero => rfl
  | succ depth ih =>
      rw [nested, SavedBlock.chain, Connection.slots, Connection.chain?, ih]
      have plain : Text.lowercase "statements" = "statements" := by decide
      simp only [fieldTexts, ok_bind, plain]
      rfl

end Blockly

/-- Groups that are plugged into each other are loaded, however many they are. -/
theorem Workspace.load_nested (depth : Nat) :
    Workspace.load .blockly (Blockly.SavedDocument.nestedForm depth).pretty =
      .ok ⟨[Block.nested depth]⟩ := by
  have converts : Blockly.SavedDocument.workspace ⟨some ⟨0, [.nested depth]⟩⟩ =
      .ok ⟨[Block.nested depth]⟩ := by
    simp only [Blockly.SavedDocument.workspace, Blockly.chains, Blockly.SavedBlock.chain_nested]
    rfl
  rw [load]
  simp only [Blockly.SavedDocument.ofJson_nestedForm, converts]
  rfl

/-! ## Saving and loading again -/

/-- Both formats give workspaces that are made of tables. -/
theorem Workspace.ordered_of_load {format : Workspace.Format} {text : String}
    {workspace : Workspace} (loads : Workspace.load format text = .ok workspace) :
    workspace.Ordered := by
  cases format with
  | canonical => exact (fits_of_ofJson (mapError_eq_ok_iff.mp loads)).1
  | blockly =>
      simp only [load] at loads
      split at loads
      · cases loads
      · exact Blockly.SavedDocument.ordered_of_workspace (mapError_eq_ok_iff.mp loads)

/-- A workspace that is written is loaded again as the same workspace, or is refused as nested too
deeply. -/
theorem Workspace.load_toJson_eq {workspace : Workspace} (ordered : workspace.Ordered) :
    Workspace.load .canonical workspace.toJson =
      if workspace.form.nesting ≤ 127 then .ok workspace
      else .error (.malformed (.unreadable .tooDeep)) := by
  rw [load, ofJson_toJson_eq ordered, permit]
  split <;> rfl

/-- **What is loaded can be saved and loaded again, up to the limit on nesting.** Whatever the
format in which a workspace was loaded, its canonical text gives the same workspace exactly if at
most 127 of the lists and tables of that text lie in each other. This is so of everything that was
loaded in the canonical format. Any other workspace is refused: its nesting is named as the
reason. -/
theorem Workspace.load_toJson {format : Workspace.Format} {text : String} {workspace : Workspace}
    (loads : Workspace.load format text = .ok workspace) :
    (Workspace.load .canonical workspace.toJson = .ok workspace ↔ workspace.form.nesting ≤ 127) ∧
      (format = .canonical → Workspace.load .canonical workspace.toJson = .ok workspace) ∧
      (127 < workspace.form.nesting → ∃ error,
        Workspace.load .canonical workspace.toJson = .error error ∧
          error.message = "Malformed block graph: recursion limit exceeded") := by
  rw [load_toJson_eq (ordered_of_load loads)]
  refine ⟨⟨fun same => ?_, fun fits => if_pos fits⟩, ?_, ?_⟩
  · by_contra tooDeep
    rw [if_neg tooDeep] at same
    cases same
  · rintro rfl
    exact if_pos (fits_of_ofJson (mapError_eq_ok_iff.mp loads)).2
  · intro tooDeep
    exact ⟨_, if_neg (Nat.not_le.mpr tooDeep), rfl⟩

/-- Groups are loaded again if they are plugged into each other 41 times. -/
theorem Workspace.load_toJson_nested :
    Workspace.load .blockly (Blockly.SavedDocument.nestedForm 41).pretty =
        .ok ⟨[Block.nested 41]⟩ ∧
      Workspace.load .canonical (⟨[Block.nested 41]⟩ : Workspace).toJson =
        .ok ⟨[Block.nested 41]⟩ := by
  refine ⟨load_nested 41, (load_toJson (load_nested 41)).1.mpr ?_⟩
  rw [nesting_singleton, Block.nesting_nested]
  decide

/-- Groups are loaded if they are plugged into each other 42 times, but not loaded again. -/
theorem Workspace.load_toJson_too_deep :
    Workspace.load .blockly (Blockly.SavedDocument.nestedForm 42).pretty =
        .ok ⟨[Block.nested 42]⟩ ∧
      Workspace.load .canonical (⟨[Block.nested 42]⟩ : Workspace).toJson ≠
        .ok ⟨[Block.nested 42]⟩ := by
  refine ⟨load_nested 42, ?_⟩
  have tooDeep : ¬ (⟨[Block.nested 42]⟩ : Workspace).form.nesting ≤ 127 := by
    rw [nesting_singleton, Block.nesting_nested]
    decide
  rw [load_toJson_eq (ordered_of_load (load_nested 42)), if_neg tooDeep]
  nofun

end BlockScript
