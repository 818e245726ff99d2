import BlockScript.Table
import Mathlib.Data.List.Nodup
import Mathlib.Tactic.Common

/-!
# Tables as finite maps

A table is known by what its keys are bound to. The entries of a table are what can be looked up in
it (`Table.Ordered.lookup_eq_some_iff`), so two tables that bind every key alike are the same list
(`Table.Ordered.eq_of_lookup_eq`).
-/

set_option autoImplicit false

namespace BlockScript.Table

variable {α : Type}

/-- What a name is bound to in a table whose values are replaced by others. -/
theorem lookup_map {β : Type} (f : String → α → β) (name : String)
    (table : List (String × α)) :
    (table.map fun entry => (entry.1, f entry.1 entry.2)).lookup name =
      (table.lookup name).map (f name) := by
  induction table with
  | nil => rfl
  | cons entry table ih =>
      obtain ⟨key, value⟩ := entry
      rw [List.map_cons, lookup_cons, lookup_cons, ih]
      by_cases same : name = key
      · rw [if_pos same, if_pos same, same]
        rfl
      · rw [if_neg same, if_neg same]

/-- What is found in a table is one of its entries. -/
theorem mem_of_lookup {name : String} {value : α} {table : List (String × α)}
    (found : table.lookup name = some value) : (name, value) ∈ table := by
  induction table with
  | nil => cases found
  | cons entry table ih =>
      obtain ⟨key, other⟩ := entry
      rw [lookup_cons] at found
      split at found
      · next same =>
        obtain rfl := Option.some.inj found
        exact same ▸ List.mem_cons_self
      · exact List.mem_cons_of_mem _ (ih found)

/-- The entries of a table are what its keys are bound to. -/
theorem Ordered.lookup_eq_some_iff {table : List (String × α)} (ordered : Ordered table)
    {name : String} {value : α} : table.lookup name = some value ↔ (name, value) ∈ table := by
  refine ⟨mem_of_lookup, fun member => ?_⟩
  induction table with
  | nil => cases member
  | cons entry table ih =>
      obtain ⟨first, later⟩ := List.pairwise_cons.mp ordered
      rw [lookup_cons]
      rcases List.mem_cons.mp member with rfl | member
      · exact if_pos rfl
      · have differs : name ≠ entry.1 := by
          intro same
          have earlier : entry.1 < name := first (name, value) member
          exact String.lt_irrefl _ (same ▸ earlier)
        rw [if_neg differs]
        exact ih later member

/-- What the entries of a table answer to a question about one of its keys. -/
theorem Ordered.filterMap_eq {β : Type} {table : List (String × α)}
    (ordered : Ordered table) (key : String) (f : α → Option β) :
    (table.filterMap fun entry => if entry.1 = key then f entry.2 else none) =
      ((table.lookup key).bind f).toList := by
  induction table with
  | nil => rfl
  | cons entry table ih =>
      obtain ⟨other, value⟩ := entry
      obtain ⟨first, later⟩ := List.pairwise_cons.mp ordered
      rw [List.filterMap_cons, lookup_cons]
      by_cases same : other = key
      · subst same
        have silent : (table.filterMap fun entry => if entry.1 = other then f entry.2 else none) =
            [] := by
          refine List.filterMap_eq_nil_iff.mpr fun entry member => if_neg fun again => ?_
          exact String.lt_irrefl other (again ▸ first entry member)
        rw [silent, if_pos rfl, if_pos rfl, Option.bind_some]
        cases f value <;> rfl
      · rw [if_neg same, if_neg (Ne.symm same)]
        exact ih later

theorem Ordered.nodup {table : List (String × α)} (ordered : Ordered table) : table.Nodup := by
  refine List.Pairwise.imp ?_ ordered
  rintro first second earlier rfl
  exact String.lt_irrefl _ earlier

/-- **Tables that bind every key alike are the same.** -/
theorem Ordered.eq_of_lookup_eq {table other : List (String × α)} (ordered : Ordered table)
    (orderedOther : Ordered other) (same : ∀ name, table.lookup name = other.lookup name) :
    table = other := by
  have permuted : table.Perm other := by
    rw [List.perm_ext_iff_of_nodup ordered.nodup orderedOther.nodup]
    rintro ⟨name, value⟩
    rw [← ordered.lookup_eq_some_iff, ← orderedOther.lookup_eq_some_iff, same]
  refine List.Perm.eq_of_pairwise ?_ ordered orderedOther permuted
  intro first second _ _ before after
  exact absurd (String.lt_trans before after) (String.lt_irrefl _)

/-- A key after all others is bound at the end. -/
theorem insert_eq_concat {key : String} {value : α} {table : List (String × α)}
    (last : ∀ entry ∈ table, entry.1 < key) : insert key value table = table ++ [(key, value)] := by
  induction table with
  | nil => rfl
  | cons entry table ih =>
      obtain ⟨other, old⟩ := entry
      obtain ⟨earlier, later⟩ := List.forall_mem_cons.mp last
      have differs : key ≠ other := by
        rintro rfl
        exact String.lt_irrefl _ earlier
      rw [insert, if_neg differs, if_neg (String.lt_asymm earlier), ih later]
      rfl

/-- The first key of the rest of a table comes after all keys before it. -/
theorem Ordered.lt_of_append {key : String} {value : α} {table rest : List (String × α)}
    (ordered : Ordered (table ++ (key, value) :: rest)) : ∀ entry ∈ table, entry.1 < key := by
  intro entry member
  exact (List.pairwise_append.mp ordered).2.2 entry member (key, value) List.mem_cons_self

end BlockScript.Table
