import BlockScript.Block.Basic
import BlockScript.Proofs.Table

/-!
# Blocks in the slots of blocks

A slot that is not there and a slot without blocks are the same to the compiler: `Block.inSlot`
gives the blocks in a slot either way. What holds of a block as soon as it holds of the blocks in
its slots holds of every block (`Block.induction`).
-/

set_option autoImplicit false

namespace BlockScript

namespace Block

/-- The blocks in a slot, of which there are none where the slot is missing. -/
def inSlot (block : Block) (slot : String) : List Block := (block.slot? slot).getD []

theorem slot?_eq_some_of_mem_inSlot {block child : Block} {slot : String}
    (inside : child ∈ block.inSlot slot) : block.slot? slot = some (block.inSlot slot) := by
  unfold inSlot at inside ⊢
  cases there : block.slot? slot with
  | none =>
      rw [there] at inside
      cases inside
  | some blocks => rfl

/-- The blocks in a slot are smaller. -/
theorem sizeOf_lt_of_mem_inSlot {block child : Block} {slot : String}
    (inside : child ∈ block.inSlot slot) : sizeOf child < sizeOf block := by
  have entry := Table.mem_of_lookup (slot?_eq_some_of_mem_inSlot inside)
  have inList := List.sizeOf_lt_of_mem inside
  have inTable := List.sizeOf_lt_of_mem entry
  obtain ⟨type, id?, fields, slots⟩ := block
  simp only [Prod.mk.sizeOf_spec, Block.mk.sizeOf_spec] at *
  omega

/-- **What passes from the blocks in the slots of a block to the block holds of every block.** -/
@[elab_as_elim]
theorem induction {motive : Block → Prop}
    (step : ∀ block, (∀ slot, ∀ child ∈ block.inSlot slot, motive child) → motive block)
    (block : Block) : motive block :=
  step block fun _ child inside =>
    have := sizeOf_lt_of_mem_inSlot inside
    induction step child
termination_by sizeOf block

end Block

end BlockScript
