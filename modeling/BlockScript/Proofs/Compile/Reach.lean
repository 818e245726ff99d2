import BlockScript.Proofs.Compile.Faultless

/-!
# Paths that reach blocks

`Workspace.Reaches` follows a path from a workspace: a place among its blocks, then again and again
a slot that the kind of the block there has, and a place in that slot. Blocks in other slots are
not reached, since a block that has such a slot is refused before anything in it is looked at.

`Workspace.ReachesFirst` asks in addition that nothing is wrong with anything that comes before the
block, depth first: the blocks before it in its sequence, the slots before its own in the block
around it, what that block itself says, and so on outwards.
-/

set_option autoImplicit false

namespace BlockScript

/-- A path leads from a workspace to a block. -/
inductive Workspace.Reaches (vocabulary : Vocabulary) (workspace : Workspace) :
    Block.Path → Block → Prop where
  | top {index : Nat} {block : Block} (there : workspace.blocks[index]? = some block) :
      Reaches vocabulary workspace (.topLevel index) block
  | inside {path : Block.Path} {parent : Block} {kind : Block.Kind} {slot : String} {index : Nat}
      {block : Block} (outer : Reaches vocabulary workspace path parent)
      (known : vocabulary.kind? parent.type = some kind)
      (declared : Block.Declares kind.schema.slots slot)
      (there : (parent.inSlot slot)[index]? = some block) :
      Reaches vocabulary workspace (path.child slot index) block

namespace Workspace.Reaches

variable {vocabulary : Vocabulary} {workspace : Workspace} {path : Block.Path} {block : Block}

theorem one_le_depth (reached : workspace.Reaches vocabulary path block) : 1 ≤ path.depth := by
  cases reached with
  | top _ => exact Nat.le_refl 1
  | inside _ _ _ _ =>
      rw [Block.Path.depth, Block.Path.child, List.length_append]
      exact Nat.le_add_left _ _

/-- A path into a slot is longer than one step. -/
theorem one_lt_depth_child (reached : workspace.Reaches vocabulary path block) (slot : String)
    (index : Nat) : 1 < (path.child slot index).depth := by
  have low := reached.one_le_depth
  rw [Block.Path.depth] at low ⊢
  rw [Block.Path.child, List.length_append, List.length_singleton]
  omega

/-- Where nothing is wrong with the blocks of a workspace, nothing is wrong with any block in it. -/
theorem faults_eq_nil (reached : workspace.Reaches vocabulary path block)
    (each : ∀ (index : Nat) (block : Block), workspace.blocks[index]? = some block →
      block.faults vocabulary (.topLevel index) false = []) :
    block.faults vocabulary path (decide (1 < path.depth)) = [] := by
  induction reached with
  | top there => exact each _ _ there
  | @inside path parent kind slot index block outer known declared there ih =>
      obtain ⟨other, faultless⟩ := Block.faults_eq_nil_iff.mp ih
      obtain rfl := Option.some.inj (known.symm.trans faultless.known)
      obtain ⟨member, found, rfl⟩ := declared
      rw [decide_eq_true (outer.one_lt_depth_child member.name index)]
      exact faultless.inside member found index block there

end Workspace.Reaches

/-! ## The first block with which something is wrong -/

/-- A path leads from a workspace to a block, and nothing is wrong before that block. -/
inductive Workspace.ReachesFirst (vocabulary : Vocabulary) (workspace : Workspace) :
    Block.Path → Block → Prop where
  | top {index : Nat} {block : Block} (there : workspace.blocks[index]? = some block)
      (before : ∀ (earlier : Nat) (other : Block), earlier < index →
        workspace.blocks[earlier]? = some other →
          other.faults vocabulary (.topLevel earlier) false = []) :
      ReachesFirst vocabulary workspace (.topLevel index) block
  | inside {path : Block.Path} {parent : Block} {kind : Block.Kind}
      {earlierSlots laterSlots : List Member} {slot : Member} {index : Nat} {block : Block}
      (outer : ReachesFirst vocabulary workspace path parent)
      (known : vocabulary.kind? parent.type = some kind)
      (own : kind.ownFaults (decide (1 < path.depth)) parent = [])
      (declared : kind.schema.slots = earlierSlots ++ slot :: laterSlots)
      (slotsBefore : ∀ other ∈ earlierSlots,
        Block.faultsAll vocabulary path other.name 0 (parent.inSlot other.name) = [] ∧
          parent.emptyFaults vocabulary path other = [])
      (there : (parent.inSlot slot.name)[index]? = some block)
      (before : ∀ (earlier : Nat) (other : Block), earlier < index →
        (parent.inSlot slot.name)[earlier]? = some other →
          other.faults vocabulary (path.child slot.name earlier) true = []) :
      ReachesFirst vocabulary workspace (path.child slot.name index) block

/-- The first block is among the blocks that are reached. -/
theorem Workspace.ReachesFirst.reaches {vocabulary : Vocabulary} {workspace : Workspace}
    {path : Block.Path} {block : Block} (first : workspace.ReachesFirst vocabulary path block) :
    workspace.Reaches vocabulary path block := by
  induction first with
  | top there _ => exact .top there
  | @inside path parent kind earlierSlots laterSlots slot index block _ known _ declared _ there _
      ih =>
      have member : slot ∈ kind.schema.slots := by
        rw [declared]
        exact List.mem_append_right _ List.mem_cons_self
      exact ih.inside known ⟨slot, member, rfl⟩ there

end BlockScript
