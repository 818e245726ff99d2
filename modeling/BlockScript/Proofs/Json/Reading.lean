import BlockScript.Json.Decode
import BlockScript.Proofs.Fallible

/-!
# What readers of trees give

What holds of everything that is read out of a tree, whatever the tree looks like. A list or an
object that was opened took one level of the room for nesting (`Room.enter_eq_ok_iff`). A record is
made of its last draft where its members or items end (`Record.exists_last_of_readMembers`,
`Record.exists_last_of_readItems`), and everything holds of that draft that its keys keep
(`Record.exists_draft_of_read`).
-/

set_option autoImplicit false

namespace BlockScript.Json

/-! ## Room -/

/-- To open a list or an object there must be room for it, which it takes. -/
theorem Room.enter_eq_ok_iff {room : Nat} {inside : Room} :
    Room.enter (some room) = .ok inside ↔ ∃ inner, room = inner + 1 ∧ inside = some inner := by
  cases room with
  | zero => simp [Room.enter]
  | succ inner => simp [Room.enter, eq_comm]

/-! ## Records -/

namespace Record

variable {Key Draft α : Type} {record : Record Key Draft α} {keeps : Draft → Prop}

theorem complete_of_fromObject {draft : Draft} {value : α}
    (made : record.fromObject draft = .ok value) : record.complete draft = .ok value := by
  unfold fromObject at made
  split at made
  · next own completes => rw [completes, Except.ok.inj made]
  · cases made

theorem complete_of_fromList {draft : Draft} {read : Nat} {value : α}
    (made : record.fromList draft read = .ok value) : record.complete draft = .ok value := by
  unfold fromList at made
  split at made
  · next own completes => rw [completes, Except.ok.inj made]
  · cases made

theorem complete_of_fromListEnd {draft : Draft} {keys : List Key} {ending : ListEnd} {value : α}
    (made : record.fromListEnd draft keys ending = .ok value) :
    record.complete draft = .ok value := by
  unfold fromListEnd at made
  split at made
  · obtain ⟨own, made, ended⟩ := bind_eq_ok_iff.mp made
    obtain ⟨_, -, same⟩ := bind_eq_ok_iff.mp ended
    rw [← Except.ok.inj same]
    exact complete_of_fromList made
  · obtain ⟨_, -, made⟩ := bind_eq_ok_iff.mp made
    exact complete_of_fromList made

variable {set : Draft → Key → Node → Except Fault Draft}

/-- Where the members of an object are read, the last draft and the end of the object make the
record. -/
theorem exists_last_of_readMembers
    (step : ∀ draft key node next, keeps draft → set draft key node = .ok next → keeps next)
    {ending : ObjectEnd} {members : List (Quoted × Node)} {draft : Draft} {value : α}
    (kept : keeps draft) (reads : record.readMembers set ending draft members = .ok value) :
    ∃ last, keeps last ∧ ending.read = .ok () ∧ record.fromObject last = .ok value := by
  induction members generalizing draft with
  | nil =>
      obtain ⟨_, ends, made⟩ := bind_eq_ok_iff.mp reads
      exact ⟨draft, kept, ends, made⟩
  | cons member members ih =>
      obtain ⟨name, -, reads⟩ := bind_eq_ok_iff.mp reads
      obtain ⟨key?, -, reads⟩ := bind_eq_ok_iff.mp reads
      cases key? with
      | none =>
          obtain ⟨_, -, reads⟩ := bind_eq_ok_iff.mp reads
          exact ih kept reads
      | some key =>
          obtain ⟨next, sets, reads⟩ := bind_eq_ok_iff.mp reads
          exact ih (step _ _ _ _ kept sets) reads

/-- Where the items of a list are read, the last draft and the end of the list make the record. -/
theorem exists_last_of_readItems
    (step : ∀ draft key node next, keeps draft → set draft key node = .ok next → keeps next)
    {ending : ListEnd} {keys : List Key} {items : List Node} {draft : Draft} {value : α}
    (kept : keeps draft) (reads : record.readItems set ending draft keys items = .ok value) :
    ∃ last left, keeps last ∧ record.fromListEnd last left ending = .ok value := by
  induction items generalizing keys draft with
  | nil => cases keys <;> exact ⟨draft, _, kept, reads⟩
  | cons item items ih =>
      cases keys with
      | nil => cases reads
      | cons key keys =>
          obtain ⟨next, sets, reads⟩ := bind_eq_ok_iff.mp reads
          exact ih (step _ _ _ _ kept sets) reads

/-- **A record that is read is a completed draft**, of which everything holds that holds of the
blank one and that no key takes away. -/
theorem exists_draft_of_read {room : Nat} {set : Room → Draft → Key → Node → Except Fault Draft}
    (keeps : Nat → Draft → Prop) (blank : ∀ inner, keeps inner record.blank)
    (step : ∀ inner draft key node next, keeps inner draft →
      set (some inner) draft key node = .ok next → keeps inner next)
    {node : Node} {value : α} (reads : record.read (some room) set node = .ok value) :
    ∃ inner last, room = inner + 1 ∧ keeps inner last ∧ record.complete last = .ok value := by
  unfold read at reads
  split at reads
  · obtain ⟨_, enters, reads⟩ := bind_eq_ok_iff.mp reads
    obtain ⟨inner, rfl, rfl⟩ := Room.enter_eq_ok_iff.mp enters
    obtain ⟨last, kept, -, made⟩ := exists_last_of_readMembers (step inner) (blank inner) reads
    exact ⟨inner, last, rfl, kept, complete_of_fromObject made⟩
  · obtain ⟨_, enters, reads⟩ := bind_eq_ok_iff.mp reads
    obtain ⟨inner, rfl, rfl⟩ := Room.enter_eq_ok_iff.mp enters
    obtain ⟨last, _, kept, made⟩ := exists_last_of_readItems (step inner) (blank inner) reads
    exact ⟨inner, last, rfl, kept, complete_of_fromListEnd made⟩
  · cases reads

end Record

/-! ## Documents -/

/-- What is read out of a text is read out of its tree. -/
theorem Document.read_root_of_read {α : Type} {read : Node → Except Fault α} {text : String}
    {value : α} (reads : Document.read read text = .ok value) :
    read (Document.ofText text).root = .ok value := by
  obtain ⟨own, readsRoot, ends⟩ := bind_eq_ok_iff.mp reads
  refine readsRoot.trans ?_
  simp only at ends
  split at ends
  · cases ends
  · exact ends

end BlockScript.Json
