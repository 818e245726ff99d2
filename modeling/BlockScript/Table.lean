/-!
# Tables

A table is a list of pairs in the order of their keys, each key once. Keys are compared by their
characters' code points, which is also the order of their UTF-8 forms. `Table.insert` and
`Table.erase` keep a table a table (`Table.Ordered`); looking a key up is `List.lookup`.

The type `Table` holds the pairs together with their order. Where an inductive type holds tables of
itself, the type is written out as a list of pairs, and the order is said of it.

Main statements: inserting keeps the order (`Ordered.insert`), erasing keeps it (`Ordered.erase`),
and after inserting a key it is bound to the new value, every other key to what it was bound to
before (`lookup_insert`); erasing a key unbinds it and no other (`lookup_erase`).
-/

set_option autoImplicit false

namespace BlockScript

namespace Table

variable {α : Type}

/-- The keys come in increasing order, so no two of them are equal. -/
def Ordered (table : List (String × α)) : Prop := table.Pairwise fun a b => a.1 < b.1

/-- Binds a key to a value, in place of the value to which it was bound before. -/
def insert (key : String) (value : α) : List (String × α) → List (String × α)
  | [] => [(key, value)]
  | (other, old) :: rest =>
    if key = other then (key, value) :: rest
    else if key < other then (key, value) :: (other, old) :: rest
    else (other, old) :: insert key value rest

/-- Removes a key. -/
def erase (key : String) (table : List (String × α)) : List (String × α) :=
  table.filter fun entry => entry.1 != key

/-! ## Order -/

/-- Two keys of which neither is the other nor comes before it come the other way round. -/
theorem lt_of_ne_of_not_lt {a b : String} (differ : a ≠ b) (later : ¬ a < b) : b < a :=
  Decidable.byContradiction fun neither =>
    differ (String.le_antisymm (String.not_lt.mp neither) (String.not_lt.mp later))

/-- An entry of a table after an insertion is the new one or an old one. -/
theorem eq_or_mem_of_mem_insert {key : String} {value : α} {entry : String × α} :
    {table : List (String × α)} → entry ∈ insert key value table →
      entry = (key, value) ∨ entry ∈ table
  | [], found => by simpa [insert] using found
  | (other, old) :: rest, found => by
    unfold insert at found
    split at found
    · rcases List.mem_cons.mp found with new | there
      · exact .inl new
      · exact .inr (List.mem_cons_of_mem _ there)
    · split at found
      · exact List.mem_cons.mp found
      · rcases List.mem_cons.mp found with first | there
        · exact .inr (first ▸ List.mem_cons_self)
        · exact (eq_or_mem_of_mem_insert there).imp_right (List.mem_cons_of_mem _)

/-- A table stays a table when a key is bound. -/
theorem Ordered.insert {key : String} {value : α} :
    {table : List (String × α)} → Ordered table → Ordered (Table.insert key value table)
  | [], _ => List.pairwise_singleton _ _
  | (other, old) :: rest, ordered => by
    obtain ⟨first, tail⟩ := List.pairwise_cons.mp ordered
    unfold Table.insert
    split
    case isTrue same =>
      exact List.pairwise_cons.mpr ⟨fun entry there => same ▸ first entry there, tail⟩
    case isFalse differ =>
      split
      case isTrue earlier =>
        refine List.pairwise_cons.mpr ⟨fun entry there => ?_, ordered⟩
        rcases List.mem_cons.mp there with head | there
        · exact head ▸ earlier
        · exact String.lt_trans earlier (first entry there)
      case isFalse later =>
        refine List.pairwise_cons.mpr ⟨fun entry there => ?_, Ordered.insert tail⟩
        rcases eq_or_mem_of_mem_insert there with new | there
        · exact new ▸ lt_of_ne_of_not_lt differ later
        · exact first entry there

/-- A table stays a table when a key is removed. -/
theorem Ordered.erase {key : String} {table : List (String × α)} (ordered : Ordered table) :
    Ordered (Table.erase key table) :=
  List.Pairwise.filter _ ordered

end Table

/-- A table: entries in the order of their keys. -/
structure Table (α : Type) where
  /-- The keys and what they are bound to. -/
  entries : List (String × α)
  /-- The keys come in increasing order. -/
  ordered : Table.Ordered entries
  deriving DecidableEq

namespace Table

variable {α : Type}

/-- The table without entries. -/
def empty : Table α := ⟨[], .nil⟩

/-- The table in which a key is bound to a value. -/
def put (table : Table α) (key : String) (value : α) : Table α :=
  ⟨insert key value table.entries, table.ordered.insert⟩

/-- The table in which keys are bound one after the other. -/
def ofList (pairs : List (String × α)) : Table α :=
  pairs.foldl (fun table pair => table.put pair.1 pair.2) empty

/-! ## Looking up -/

/-- What a key is bound to, entry by entry. -/
theorem lookup_cons (name key : String) (value : α) (rest : List (String × α)) :
    List.lookup name ((key, value) :: rest) =
      if name = key then some value else rest.lookup name := by
  rw [List.lookup_cons]
  by_cases same : name = key
  · rw [if_pos same, beq_iff_eq.mpr same]
  · rw [if_neg same, beq_eq_false_iff_ne.mpr same]

/-- What a key is bound to after a key has been bound. -/
theorem lookup_insert (key : String) (value : α) (name : String) :
    (table : List (String × α)) →
      (insert key value table).lookup name = if name = key then some value else table.lookup name
  | [] => by rw [insert, lookup_cons]
  | (other, old) :: rest => by
    unfold insert
    split
    case isTrue same => subst same; simp only [lookup_cons]; split <;> rfl
    case isFalse differ =>
      split
      · rw [lookup_cons]
      · rw [lookup_cons, lookup_cons, lookup_insert key value name rest]
        by_cases h : name = key
        · subst h; simp [differ]
        · simp [h]

/-- A key that has been removed is bound to nothing, and every other key to what it was. -/
theorem lookup_erase (key name : String) :
    (table : List (String × α)) →
      (erase key table).lookup name = if name = key then none else table.lookup name
  | [] => by simp [erase]
  | (other, value) :: rest => by
    have ih := lookup_erase key name rest
    unfold erase at ih ⊢
    rw [List.filter_cons, lookup_cons]
    by_cases removed : other = key
    · subst removed
      simp only [bne_self_eq_false, Bool.false_eq_true, ↓reduceIte, ih]
      split <;> rfl
    · simp only [bne_iff_ne, ne_eq, removed, not_false_eq_true, ↓reduceIte, lookup_cons, ih]
      by_cases here : name = other
      · simp [here, removed]
      · simp [here]

end Table

end BlockScript
