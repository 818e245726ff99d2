import BlockScript.Blockly.Conversion
import BlockScript.Proofs.Fallible
import BlockScript.Proofs.Table

/-!
# Names in lower case

The fields of a block and its slots are made of named entries in one way: the names are put in
lower case, the values are worked out one after the other, and the first value that fails or name
that is taken already ends it (`gather`). What is gathered is a table that binds the lower-case
names and no others, each to its own value (`gather_eq_ok_iff_renames`); where nothing can be
gathered, a value fails or two names coincide in lower case (`of_gather_eq_error`).
-/

set_option autoImplicit false

namespace BlockScript.Blockly

variable {α β : Type}

/-! ## Renamed tables -/

/-- The name of an entry in lower case. -/
def lowerName (entry : String × α) : String := Text.lowercase entry.1

/-- A table that binds the lower-case names of some entries, of which no two coincide, and nothing
else. -/
structure Renames (entries : List (String × α)) (table : List (String × β)) : Prop where
  /-- It is a table. -/
  ordered : Table.Ordered table
  /-- No two names coincide. -/
  distinct : (entries.map lowerName).Nodup
  /-- The names are those of the entries. -/
  names : ∀ name, (∃ value, table.lookup name = some value) ↔ ∃ entry ∈ entries,
    lowerName entry = name

/-! ## Gathering -/

/-- Binds the lower-case names of entries to what `step` makes of them, after the bindings of
`table`. -/
def gather (collision : String → Malformed) (step : String × α → Except Malformed β)
    (table : List (String × β)) : List (String × α) → Except Malformed (List (String × β))
  | [] => .ok table
  | entry :: rest => do
    let value ← step entry
    if (table.lookup (lowerName entry)).isSome then .error (collision entry.1)
    else gather collision step (Table.insert (lowerName entry) value table) rest

variable {collision : String → Malformed} {step : String × α → Except Malformed β}

/-- A table that has come of another one by binding the lower-case names of entries. -/
structure Gathered (step : String × α → Except Malformed β) (table : List (String × β))
    (entries : List (String × α)) (result : List (String × β)) : Prop where
  /-- It is a table. -/
  ordered : Table.Ordered result
  /-- No two names coincide. -/
  distinct : (entries.map lowerName).Nodup
  /-- The names were free. -/
  free : ∀ entry ∈ entries, table.lookup (lowerName entry) = none
  /-- Each name is bound to what its entry comes to. -/
  bound : ∀ entry ∈ entries, ∃ value,
    step entry = .ok value ∧ result.lookup (lowerName entry) = some value
  /-- The other names are bound to what they were bound to. -/
  others : ∀ name, name ∉ entries.map lowerName → result.lookup name = table.lookup name

theorem gathered_nil_iff {table result : List (String × β)} (ordered : Table.Ordered table) :
    Gathered step table [] result ↔ result = table := by
  constructor
  · intro gathered
    exact gathered.ordered.eq_of_lookup_eq ordered fun name => gathered.others name nofun
  · rintro rfl
    exact ⟨ordered, .nil, nofun, nofun, fun _ _ => rfl⟩

/-- The first entry binds its name before the others are gathered. -/
theorem Gathered.of_insert {entry : String × α} {entries : List (String × α)}
    {table result : List (String × β)} {value : β} (works : step entry = .ok value)
    (free : table.lookup (lowerName entry) = none)
    (later : Gathered step (Table.insert (lowerName entry) value table) entries result) :
    Gathered step table (entry :: entries) result := by
  have lookups (name : String) := Table.lookup_insert (lowerName entry) value name table
  have own : lowerName entry ∉ entries.map lowerName := by
    intro member
    obtain ⟨other, member, same⟩ := List.mem_map.mp member
    have none := later.free other member
    rw [lookups, if_pos same] at none
    cases none
  refine ⟨later.ordered, List.nodup_cons.mpr ⟨own, later.distinct⟩, ?_, ?_, ?_⟩
  · refine List.forall_mem_cons.mpr ⟨free, fun other member => ?_⟩
    have none := later.free other member
    rw [lookups] at none
    split at none
    · cases none
    · exact none
  · refine List.forall_mem_cons.mpr ⟨⟨value, works, ?_⟩, later.bound⟩
    rw [later.others _ own, lookups, if_pos rfl]
  · intro name absent
    rw [List.map_cons, List.mem_cons, not_or] at absent
    rw [later.others name absent.2, lookups, if_neg absent.1]

/-- Where the first entry has bound its name already, the others are still to be gathered. -/
theorem Gathered.insert {entry : String × α} {entries : List (String × α)}
    {table result : List (String × β)} {value : β} (works : step entry = .ok value)
    (gathered : Gathered step table (entry :: entries) result) :
    Gathered step (Table.insert (lowerName entry) value table) entries result := by
  have lookups (name : String) := Table.lookup_insert (lowerName entry) value name table
  obtain ⟨own, distinct⟩ := List.nodup_cons.mp gathered.distinct
  obtain ⟨-, free⟩ := List.forall_mem_cons.mp gathered.free
  obtain ⟨⟨_, same, found⟩, bound⟩ := List.forall_mem_cons.mp gathered.bound
  obtain rfl := Except.ok.inj (same.symm.trans works)
  refine ⟨gathered.ordered, distinct, fun other member => ?_, bound, fun name absent => ?_⟩
  · have differs : lowerName other ≠ lowerName entry := by
      intro same
      exact own (same ▸ List.mem_map_of_mem member)
    rw [lookups, if_neg differs]
    exact free other member
  · rw [lookups]
    split
    · next same => rw [same, found]
    · next differs =>
      refine gathered.others name ?_
      rw [List.map_cons, List.mem_cons, not_or]
      exact ⟨differs, absent⟩

/-- What gathering comes to, entry by entry: the bindings that were there, and one for each entry,
under a name that was free. -/
theorem gather_eq_ok_iff {entries : List (String × α)} {table result : List (String × β)}
    (ordered : Table.Ordered table) :
    gather collision step table entries = .ok result ↔ Gathered step table entries result := by
  induction entries generalizing table with
  | nil => rw [gather, gathered_nil_iff ordered, Except.ok.injEq, eq_comm]
  | cons entry entries ih =>
      rw [gather]
      cases works : step entry with
      | error fault =>
          refine ⟨nofun, fun gathered => ?_⟩
          obtain ⟨_, ok, -⟩ := gathered.bound entry List.mem_cons_self
          cases works.symm.trans ok
      | ok value =>
      rw [ok_bind]
      cases taken : table.lookup (lowerName entry) with
      | some other =>
          refine ⟨nofun, fun gathered => ?_⟩
          cases taken.symm.trans (gathered.free entry List.mem_cons_self)
      | none =>
          rw [if_neg (by simp), ih ordered.insert]
          exact ⟨.of_insert works taken, .insert works⟩

/-- **What is gathered of entries is a table of their names in lower case**, which binds each name
to what its entry comes to. -/
theorem gather_eq_ok_iff_renames {entries : List (String × α)} {result : List (String × β)} :
    gather collision step [] entries = .ok result ↔
      Renames entries result ∧ ∀ entry ∈ entries, ∀ value,
        result.lookup (lowerName entry) = some value → step entry = .ok value := by
  rw [gather_eq_ok_iff List.Pairwise.nil]
  constructor
  · intro gathered
    refine ⟨⟨gathered.ordered, gathered.distinct, fun name => ⟨?_, ?_⟩⟩, ?_⟩
    · rintro ⟨value, found⟩
      by_contra absent
      rw [gathered.others name (by simpa using absent)] at found
      cases found
    · rintro ⟨entry, member, rfl⟩
      obtain ⟨value, -, found⟩ := gathered.bound entry member
      exact ⟨value, found⟩
    · intro entry member value found
      obtain ⟨own, works, foundOwn⟩ := gathered.bound entry member
      rw [works, Option.some.inj (foundOwn.symm.trans found)]
  · rintro ⟨⟨ordered, distinct, names⟩, each⟩
    refine ⟨ordered, distinct, fun _ _ => rfl, fun entry member => ?_, fun name absent => ?_⟩
    · obtain ⟨value, found⟩ := (names _).mpr ⟨entry, member, rfl⟩
      exact ⟨value, each entry member value found, found⟩
    · rw [List.lookup_nil, Option.eq_none_iff_forall_ne_some]
      intro value found
      obtain ⟨entry, member, rfl⟩ := (names name).mp ⟨value, found⟩
      exact absent (List.mem_map_of_mem member)

/-- **Where gathering fails, an entry fails or two names coincide.** -/
theorem of_gather_eq_error {table : List (String × β)} {entries : List (String × α)}
    {cause : Malformed} (fails : gather collision step table entries = .error cause) :
    (∃ entry ∈ entries, step entry = .error cause) ∨
      (∃ entry ∈ entries, ∃ value, table.lookup (lowerName entry) = some value) ∨
        ¬ (entries.map lowerName).Nodup := by
  induction entries generalizing table with
  | nil => cases fails
  | cons entry entries ih =>
      rw [gather] at fails
      rcases bind_eq_error_iff.mp fails with fails | ⟨value, -, fails⟩
      · exact .inl ⟨entry, List.mem_cons_self, fails⟩
      split at fails
      · next taken =>
        exact .inr (.inl ⟨entry, List.mem_cons_self, Option.isSome_iff_exists.mp taken⟩)
      · rcases ih fails with ⟨other, member, own⟩ | ⟨other, member, value, found⟩ | clash
        · exact .inl ⟨other, List.mem_cons_of_mem _ member, own⟩
        · rw [Table.lookup_insert] at found
          split at found
          · next same =>
            refine .inr (.inr fun nodup => (List.nodup_cons.mp nodup).1 ?_)
            exact List.mem_map.mpr ⟨other, member, same⟩
          · exact .inr (.inl ⟨other, List.mem_cons_of_mem _ member, value, found⟩)
        · exact .inr (.inr fun nodup => clash (List.nodup_cons.mp nodup).2)

end BlockScript.Blockly
