import BlockScript.CommandLine.Directory
import BlockScript.Proofs.Fallible
import BlockScript.Proofs.Table

/-!
# A directory is a file system

`Directory` keeps the laws of files. A path leads to a file of the working directory if it leads
there and goes on with a name (`Directory.LeadsTo`), whatever the files are (`LeadsTo.of_files`).
What is read there is what the name is bound to (`readAt_eq_ok_iff`), and a write binds that name
and no other (`writeAt_eq_ok_iff`).
-/

set_option autoImplicit false

namespace BlockScript.CommandLine

/-! ## The end of a path -/

theorem Route.ending?_concat {route : Route} {before : List String} {last : String}
    (steps : route.steps = before ++ [last]) (nonempty : last ≠ "") :
    route.ending? = some (before, last) := by
  have stops : (last == "") = false := beq_eq_false_iff_ne.mpr nonempty
  rw [ending?, steps, List.reverse_append, List.reverse_singleton, List.singleton_append,
    List.dropWhile_cons, stops]
  simp

/-- A path that does not end with a slash ends with its last step. -/
theorem Route.steps_of_ending? {route : Route} {before : List String} {last : String}
    (ends : route.ending? = some (before, last)) (noSlash : route.steps.getLast? ≠ some "") :
    route.steps = before ++ [last] := by
  rcases List.eq_nil_or_concat route.steps with none | ⟨steps, step, own⟩
  · rw [ending?, none] at ends
    cases ends
  · rw [List.concat_eq_append] at own
    have nonempty : step ≠ "" := by
      rintro rfl
      exact noSlash (by simp [own])
    rw [ending?_concat own nonempty] at ends
    obtain ⟨rfl, rfl⟩ := Prod.mk.inj (Option.some.inj ends)
    exact own

namespace Directory

/-! ## Where a path leads -/

/-- A path leads to a name in a place, under which a file can lie. -/
structure LeadsTo (directory : Directory) (path : String) (place : Place) (name : String) :
    Prop where
  /-- The name is the last step, and the steps before it lead to the place. -/
  steps : ∃ route before, Route.of path = .ok route ∧ route.steps = before ++ [name] ∧
    directory.follow route.start before = .ok place
  /-- The place is a directory. -/
  isDirectory : place.isDirectory = true
  /-- The name is not empty and has no meaning of its own. -/
  isName : isStay name = false ∧ name ≠ ".."
  /-- The name is not too long. -/
  short : name.utf8ByteSize ≤ longestName

theorem target_eq_ok_iff {directory : Directory} {path : String} {place : Place} {name : String} :
    directory.target path = .ok (place, name) ↔ directory.LeadsTo path place name := by
  constructor
  · intro targets
    obtain ⟨route, routed, targets⟩ := bind_eq_ok_iff.mp targets
    split at targets
    · cases targets
    next before last ends =>
    obtain ⟨reached, follows, targets⟩ := bind_eq_ok_iff.mp targets
    split at targets
    · cases targets
    next isDirectory =>
    split at targets
    · cases targets
    next isName =>
    split at targets
    · cases targets
    next short =>
    obtain ⟨rfl, rfl⟩ := Prod.mk.inj (Except.ok.inj targets)
    simp only [Bool.or_eq_true, beq_iff_eq, not_or, Bool.not_eq_true] at isName isDirectory
    obtain ⟨⟨noStay, noParent⟩, noSlash⟩ := isName
    have steps := Route.steps_of_ending? ends noSlash
    exact ⟨⟨route, before, routed, steps, follows⟩, by simpa using isDirectory,
      ⟨noStay, noParent⟩, Nat.not_lt.mp short⟩
  · rintro ⟨⟨route, before, routed, steps, follows⟩, isDirectory, ⟨noStay, noParent⟩, short⟩
    have nonempty : name ≠ "" := by
      rintro rfl
      cases noStay
    have noSlash : route.steps.getLast? ≠ some "" := by simpa [steps] using nonempty
    rw [target, routed, ok_bind, Route.ending?_concat steps nonempty]
    simp only [follows, ok_bind, isDirectory, noStay]
    rw [if_neg (by simp), if_neg (by simpa [noParent] using noSlash),
      if_neg (Nat.not_lt.mpr short)]

/-- A path leads to a file exactly if it leads to its name in the working directory. -/
theorem fileName?_eq_some_iff {directory : Directory} {path name : String} :
    directory.fileName? path = some name ↔ directory.LeadsTo path .here name := by
  rw [← target_eq_ok_iff, fileName?]
  split
  · next other targets => simp [targets]
  · next elsewhere =>
    simp only [reduceCtorEq, false_iff]
    exact elsewhere name

/-! ## Independence of the files -/

/-- Everything that has a name in the working directory is a file. -/
theorem isDirectory_child?_here {directory : Directory} {name : String} {child : Place}
    (found : directory.child? .here name = some child) : child.isDirectory = false := by
  obtain ⟨content, -, rfl⟩ := Option.map_eq_some_iff.mp found
  rfl

/-- What has a name outside the working directory does not depend on the files. -/
theorem child?_of_ne_here {directory : Directory} (other : Directory) {place : Place}
    (away : place ≠ .here) (name : String) :
    directory.child? place name = other.child? place name := by
  cases place with
  | here => exact absurd rfl away
  | above | root | standard | null | file => rfl

/-- Steps that lead from directory to directory do not depend on the files. -/
theorem enter_of_isDirectory {directory : Directory} (other : Directory) {place next : Place}
    {step : String} (enters : directory.enter place step = .ok next)
    (isDirectory : next.isDirectory = true) : other.enter place step = .ok next := by
  unfold enter at enters ⊢
  by_cases inside : (!place.isDirectory) = true
  · rw [if_pos inside] at enters
    cases enters
  rw [if_neg inside] at enters ⊢
  split
  · next stays => rwa [if_pos stays] at enters
  next moves =>
  rw [if_neg moves] at enters
  split
  · next back => rwa [if_pos back] at enters
  next forward =>
  rw [if_neg forward] at enters
  split
  · next long =>
    rw [if_pos long] at enters
    cases enters
  next short =>
  rw [if_neg short] at enters
  split at enters
  · next child found =>
    obtain rfl := Except.ok.inj enters
    have away : place ≠ .here := by
      rintro rfl
      rw [isDirectory_child?_here found] at isDirectory
      cases isDirectory
    rw [← child?_of_ne_here other away, found]
  · cases enters

theorem isDirectory_of_enter {directory : Directory} {place next : Place} {step : String}
    (enters : directory.enter place step = .ok next) : place.isDirectory = true := by
  unfold enter at enters
  split at enters
  · cases enters
  · next inside => simpa using inside

theorem follow_of_isDirectory {directory : Directory} (other : Directory) {start place : Place}
    {steps : List String} (follows : directory.follow start steps = .ok place)
    (isDirectory : place.isDirectory = true) : other.follow start steps = .ok place := by
  induction steps generalizing start with
  | nil => exact follows
  | cons step steps ih =>
      rw [follow, List.foldlM_cons] at follows ⊢
      obtain ⟨next, enters, follows⟩ := bind_eq_ok_iff.mp follows
      have inside : next.isDirectory = true := by
        cases steps with
        | nil =>
            obtain rfl := Except.ok.inj follows
            exact isDirectory
        | cons step steps =>
            obtain ⟨_, further, -⟩ := bind_eq_ok_iff.mp follows
            exact isDirectory_of_enter further
      rw [enter_of_isDirectory other enters inside]
      exact ih follows

/-- **Where a path leads does not depend on the files.** -/
theorem LeadsTo.of_files {directory : Directory} (other : Directory) {path name : String}
    {place : Place} (leads : directory.LeadsTo path place name) :
    other.LeadsTo path place name := by
  obtain ⟨⟨route, before, routed, steps, follows⟩, isDirectory, isName, short⟩ := leads
  have further := follow_of_isDirectory other follows isDirectory
  exact ⟨⟨route, before, routed, steps, further⟩, isDirectory, isName, short⟩

/-! ## Reading and writing -/

/-- **What is read in a file is what its name is bound to.** -/
theorem readAt_eq_ok_iff {directory : Directory} {path name text : String}
    (leads : directory.LeadsTo path .here name) :
    directory.readAt path = .ok text ↔ directory.files.entries.lookup name = some text := by
  obtain ⟨⟨route, before, routed, steps, follows⟩, -, ⟨noStay, noParent⟩, short⟩ := leads
  rw [follow] at follows
  rw [readAt, routed, ok_bind, steps, follow, List.foldlM_append, follows, ok_bind,
    List.foldlM_cons]
  cases found : directory.files.entries.lookup name with
  | none =>
      have enters : directory.enter .here name = .error .notFound := by
        simp [enter, child?, Place.isDirectory, noStay, noParent, Nat.not_lt.mpr short, found]
      rw [enters]
      simp
  | some content =>
      have enters : directory.enter .here name = .ok (.file content) := by
        simp [enter, child?, Place.isDirectory, noStay, noParent, Nat.not_lt.mpr short, found]
      rw [enters]
      simp [pure, Except.pure]

/-- **A write binds the name to which its path leads**, and nothing where it leads elsewhere. -/
theorem writeAt_eq_ok_iff {before after : Directory} {path text : String} :
    before.writeAt path text = .ok after ↔
      ∃ place name, before.LeadsTo path place name ∧
        (∀ child, before.child? place name = some child → child.isDirectory = false) ∧
        after = if place = .here then ⟨before.files.put name text⟩ else before := by
  unfold writeAt
  simp only [bind_eq_ok_iff, Prod.exists, target_eq_ok_iff]
  refine exists_congr fun place => exists_congr fun name => and_congr_right fun _ => ?_
  by_cases here : place = .here
  · subst here
    simp only [if_pos, Except.ok.injEq, eq_comm (a := after)]
    exact (and_iff_right fun _ => isDirectory_child?_here).symm
  · simp only [if_neg here]
    cases found : before.child? place name with
    | none => simp [eq_comm (a := after)]
    | some child =>
        cases isDirectory : child.isDirectory with
        | false => simp [isDirectory, eq_comm (a := after)]
        | true => simp [isDirectory]

/-- A path leads to one name in one place. -/
theorem LeadsTo.unique {directory : Directory} {path name other : String} {place elsewhere : Place}
    (leads : directory.LeadsTo path place name) (again : directory.LeadsTo path elsewhere other) :
    place = elsewhere ∧ name = other := by
  rw [← target_eq_ok_iff] at leads again
  exact Prod.mk.inj (Except.ok.inj (leads.symm.trans again))

/-- A directory keeps the laws of files. -/
instance : LawfulFileSystem Directory where
  read_eq_ok_iff leads := by
    intro text
    exact mapError_eq_ok_iff.trans (readAt_eq_ok_iff (fileName?_eq_some_iff.mp leads))
  file?_write {before after} _ _ _ path := by
    have same (name : String) : after.fileName? path = some name ↔
        before.fileName? path = some name := by
      rw [fileName?_eq_some_iff, fileName?_eq_some_iff]
      exact ⟨.of_files before, .of_files after⟩
    exact Option.ext same
  content?_write writes name leads := by
    obtain ⟨place, own, ownLeads, -, rfl⟩ := writeAt_eq_ok_iff.mp (mapError_eq_ok_iff.mp writes)
    obtain ⟨rfl, rfl⟩ := ownLeads.unique (fileName?_eq_some_iff.mp leads)
    exact (Table.lookup_insert ..).trans (if_pos rfl)
  content?_write_of_ne {before _ _ text} writes other elsewhere := by
    obtain ⟨place, name, leads, -, rfl⟩ := writeAt_eq_ok_iff.mp (mapError_eq_ok_iff.mp writes)
    by_cases here : place = .here
    · subst here
      have differs : other ≠ name := by
        rintro rfl
        exact elsewhere (fileName?_eq_some_iff.mpr leads)
      exact (Table.lookup_insert ..).trans (if_neg differs)
    · rw [if_neg here]

end Directory

end BlockScript.CommandLine
