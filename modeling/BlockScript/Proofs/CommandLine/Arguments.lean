import BlockScript.Proofs.CommandLine.Spelling

/-!
# What a list of arguments asks for

A list of arguments spells items, and after the end of the options every argument is a path
(`Lists`). The items collect in a draft, each option's value in its own field and nowhere else
(`Draft.Collects`, `foldlM_add?_eq_some_iff`).

Main statements: the arguments ask for a compilation exactly if they list items that collect to it
(`read_eq_compile_iff`, with `Asks`), and for the version or for help exactly if items that are
right come before an argument that asks for it (`read_eq_version_iff`, `read_eq_help_iff`, with
`AsksFor`).
-/

set_option autoImplicit false

namespace BlockScript.CommandLine

/-! ## Lists of arguments -/

/-- Arguments list items. Two dashes end the options. -/
inductive Lists : List String → List Item → Prop
  | options {arguments : List String} {items : List Item} (spelled : Spelled arguments items) :
      Lists arguments items
  | paths {arguments : List String} {items : List Item} (spelled : Spelled arguments items)
      (paths : List String) : Lists (arguments ++ "--" :: paths) (items ++ paths.map .path)

/-! ## What items mean -/

/-- The value that an item gives to an option. -/
def Item.valueOf? (setting : Setting) : Item → Option String
  | .setting own value => if own = setting then some value else none
  | .switch _ | .path _ => none

/-- The path that an item is. -/
def Item.path? : Item → Option String
  | .path own => some own
  | .setting .. | .switch _ => none

/-- A value is a path. -/
def IsPath (value path : String) : Prop := value = path ∧ path ≠ ""

/-- A value is the name of a format. -/
inductive NamesFormat : String → Workspace.Format → Prop
  | blockly : NamesFormat "blockly" .blockly
  | canonical : NamesFormat "canonical" .canonical

/-- A value is a trigger interval. -/
def IsInterval (value : String) (interval : Duration) : Prop := Duration.parse value = .ok interval

/-- A value is a number of 64 bits: decimal digits, perhaps after a plus. -/
def IsWidth (value : String) (width : Nat) : Prop :=
  ∃ digits : String, (value = digits ∨ value = "+" ++ digits) ∧ digits ≠ "" ∧
    (∀ c ∈ digits.toList, c.isDigit = true) ∧ Nat.ofDigitChars 10 digits.toList 0 = width ∧
    width < UInt64.size

/-- Values are given for something that may have been given already: none at all, or one for what
had none. -/
inductive Gives {α : Type} (means : String → α → Prop) : Option α → List String → Option α → Prop
  | none (old? : Option α) : Gives means old? [] old?
  | once {value : String} {new : α} (isMeant : means value new) :
      Gives means Option.none [value] (some new)

/-- What items add to what has been asked for: the values of each option and the paths go to their
own field, where each comes at most once. No item asks for the version or for help. -/
@[mk_iff]
structure Draft.Collects (draft : Draft) (items : List Item) (next : Draft) : Prop where
  workspacePath : Gives IsPath draft.workspacePath? (items.filterMap Item.path?)
    next.workspacePath?
  outputPath : Gives IsPath draft.outputPath? (items.filterMap (Item.valueOf? .output))
    next.outputPath?
  format : Gives NamesFormat draft.format? (items.filterMap (Item.valueOf? .format)) next.format?
  configPath : Gives IsPath draft.configPath? (items.filterMap (Item.valueOf? .config))
    next.configPath?
  actionName : Gives Eq draft.actionName? (items.filterMap (Item.valueOf? .actionName))
    next.actionName?
  every : Gives IsInterval draft.every? (items.filterMap (Item.valueOf? .every)) next.every?
  indent : Gives IsWidth draft.indent? (items.filterMap (Item.valueOf? .indent)) next.indent?
  tree : draft.tree.toNat + items.count (.switch .tree) = next.tree.toNat
  verify : draft.verify.toNat + items.count (.switch .verify) = next.verify.toNat
  noVersion : .switch .version ∉ items
  noHelp : .switch .help ∉ items

/-- Arguments ask for a compilation: they list items with one path, and every other field of the
compilation is that of its option. The format is that of an editor where none is named. -/
inductive Asks (arguments : List String) : Invocation → Prop
  | compile {items : List Item} {draft : Draft} {path : String} (lists : Lists arguments items)
      (collects : Draft.Collects {} items draft) (named : draft.workspacePath? = some path) :
      Asks arguments
        { workspacePath := path
          outputPath? := draft.outputPath?
          format := draft.format?.getD .blockly
          configPath? := draft.configPath?
          actionName? := draft.actionName?
          every? := draft.every?
          indent? := draft.indent?
          tree := draft.tree
          verify := draft.verify }

/-- Arguments ask for something at an option without a value: what comes before it is right, and
what comes after it is not read. -/
inductive AsksFor (switch : Switch) : List String → Prop
  | after {arguments spelling : List String} {items : List Item} {draft : Draft}
      (spelled : Spelled arguments items) (collects : Draft.Collects {} items draft)
      (spells : Spells spelling (.switch switch)) (rest : List String) :
      AsksFor switch (arguments ++ (spelling ++ rest))

/-! ## Values and fields -/

theorem path?_eq_some_iff {value path : String} : path? value = some path ↔ IsPath value path := by
  unfold path? IsPath
  split
  · next empty =>
    have nothing : value = "" := by simpa using empty
    simp only [reduceCtorEq, false_iff, not_and, not_not]
    rintro rfl
    exact nothing
  · next nonempty =>
    have something : value ≠ "" := by simpa using nonempty
    simp only [Option.some.injEq]
    exact ⟨fun same => ⟨same, same ▸ something⟩, And.left⟩

theorem format?_eq_some_iff {value : String} {format : Workspace.Format} :
    format? value = some format ↔ NamesFormat value format := by
  constructor
  · intro names
    unfold format? at names
    split at names
    · obtain rfl := Option.some.inj names
      exact .blockly
    · obtain rfl := Option.some.inj names
      exact .canonical
    · cases names
  · rintro (_ | _) <;> rfl

theorem toOption_eq_some_iff {value : String} {interval : Duration} :
    (Duration.parse value).toOption = some interval ↔ IsInterval value interval := by
  unfold IsInterval
  cases Duration.parse value <;> simp [Except.toOption]

/-- What a number is read from: the digits, which may stand after a plus. -/
theorem width?_of_digits {value : String} {digits : List Char} {width : Nat}
    (spelled : value.toList = digits ∧ digits.head? ≠ some '+' ∨ value.toList = '+' :: digits) :
    width? value = some width ↔
      digits ≠ [] ∧ (∀ c ∈ digits, c.isDigit = true) ∧
        Nat.ofDigitChars 10 digits 0 = width ∧ width < UInt64.size := by
  have reads : width? value =
      if digits.isEmpty || ! digits.all Char.isDigit then none
      else if Nat.ofDigitChars 10 digits 0 < UInt64.size then
        some (Nat.ofDigitChars 10 digits 0)
      else none := by
    rcases spelled with ⟨spelled, noPlus⟩ | spelled
    · rw [width?, spelled]
      split
      · exact absurd rfl noPlus
      · rfl
    · rw [width?, spelled]
      rfl
  rw [reads]
  split
  · next wrong =>
    simp only [reduceCtorEq, false_iff]
    rintro ⟨nonempty, decimal, -⟩
    simp [nonempty, List.all_eq_true.mpr decimal] at wrong
  · next right =>
    simp only [Bool.or_eq_true, List.isEmpty_iff, Bool.not_eq_true', not_or,
      Bool.not_eq_false, List.all_eq_true] at right
    split
    · next fits =>
      simp only [Option.some.injEq]
      constructor
      · rintro rfl
        exact ⟨right.1, right.2, rfl, fits⟩
      · exact fun reads => reads.2.2.1
    · next large =>
      simp only [reduceCtorEq, false_iff]
      rintro ⟨-, -, rfl, fits⟩
      exact large fits

theorem width?_eq_some_iff {value : String} {width : Nat} :
    width? value = some width ↔ IsWidth value width := by
  constructor
  · intro reads
    by_cases plus : value.toList.head? = some '+'
    · obtain ⟨digits, spelled⟩ := List.head?_eq_some_iff.mp plus
      obtain ⟨nonempty, decimal, denotes, fits⟩ := (width?_of_digits (.inr spelled)).mp reads
      refine ⟨String.ofList digits, .inr (String.toList_inj.mp ?_), ?_, ?_, ?_, fits⟩
      · simp [spelled, String.toList_append]
      · simpa [← String.toList_inj] using nonempty
      · simpa using decimal
      · simpa using denotes
    · obtain ⟨nonempty, decimal, denotes, fits⟩ := (width?_of_digits (.inl ⟨rfl, plus⟩)).mp reads
      exact ⟨value, .inl rfl, by simpa using nonempty, decimal, denotes, fits⟩
  · rintro ⟨digits, spelled, nonempty, decimal, denotes, fits⟩
    have something : digits.toList ≠ [] := by simpa using nonempty
    refine (width?_of_digits ?_).mpr ⟨something, decimal, denotes, fits⟩
    rcases spelled with rfl | rfl
    · refine .inl ⟨rfl, fun plus => ?_⟩
      exact absurd (decimal _ (List.mem_of_mem_head? plus)) (by decide)
    · exact .inr (by simp [String.toList_append])

theorem gives_nil_iff {α : Type} {means : String → α → Prop} {old? new? : Option α} :
    Gives means old? [] new? ↔ new? = old? := by
  constructor
  · rintro ⟨⟩
    rfl
  · rintro rfl
    exact .none _

theorem gives_cons_iff {α : Type} {means : String → α → Prop} {old? new? : Option α}
    {value : String} {values : List String} :
    Gives means old? (value :: values) new? ↔
      ∃ new, (old? = none ∧ means value new) ∧ Gives means (some new) values new? := by
  constructor
  · rintro (_ | isMeant)
    exact ⟨_, ⟨rfl, isMeant⟩, .none _⟩
  · rintro ⟨new, ⟨rfl, isMeant⟩, ⟨⟩⟩
    exact .once isMeant

theorem Draft.once_eq_some_iff {α : Type} {old? new? : Option α} {new : α} :
    once old? new? = some new ↔ old? = none ∧ new? = some new := by
  cases old? <;> simp [once]

namespace Draft

theorem collects_nil_iff {draft next : Draft} : draft.Collects [] next ↔ next = draft := by
  have bool (a b : Bool) : a.toNat = b.toNat ↔ b = a := by
    cases a <;> cases b <;> decide
  rw [collects_iff]
  obtain ⟨⟩ := draft
  obtain ⟨⟩ := next
  simp [gives_nil_iff, bool]

/-- A switch is turned on once. -/
theorem toNat_add_succ_eq_iff {before after : Bool} {count : Nat} :
    before.toNat + (count + 1) = after.toNat ↔
      before = false ∧ true.toNat + count = after.toNat := by
  cases before <;> cases after <;> simp

theorem collects_cons_iff {draft next : Draft} {item : Item} {items : List Item} :
    draft.Collects (item :: items) next ↔
      ∃ between, draft.add? item = some between ∧ between.Collects items next := by
  -- An item is a value for one field, and both sides ask the same of every other field.
  simp only [collects_iff, List.filterMap_cons, List.count_cons, List.mem_cons, not_or]
  cases item with
  | setting setting value =>
      cases setting <;>
        simp [add?, set?, Item.valueOf?, Item.path?, gives_cons_iff, Option.bind_eq_some_iff,
          once_eq_some_iff, path?_eq_some_iff, format?_eq_some_iff, toOption_eq_some_iff,
          width?_eq_some_iff] <;> grind
  | path path =>
      simp [add?, setPath?, Item.valueOf?, Item.path?, gives_cons_iff, Option.bind_eq_some_iff,
        once_eq_some_iff, path?_eq_some_iff]
      grind
  | switch switch =>
      cases switch <;> simp [add?, Item.valueOf?, Item.path?, toNat_add_succ_eq_iff] <;> grind

/-- **Each option's value ends in its own field.** -/
theorem foldlM_add?_eq_some_iff {draft next : Draft} {items : List Item} :
    items.foldlM add? draft = some next ↔ draft.Collects items next := by
  induction items generalizing draft with
  | nil => rw [List.foldlM_nil, collects_nil_iff]; simp [eq_comm]
  | cons item items ih =>
      rw [List.foldlM_cons, collects_cons_iff]
      simp only [Option.bind_eq_bind, Option.bind_eq_some_iff, ih]

end Draft

theorem Draft.finish_of_path {draft : Draft} {path : String}
    (named : draft.workspacePath? = some path) :
    draft.finish = .compile
      { workspacePath := path
        outputPath? := draft.outputPath?
        format := draft.format?.getD .blockly
        configPath? := draft.configPath?
        actionName? := draft.actionName?
        every? := draft.every?
        indent? := draft.indent?
        tree := draft.tree
        verify := draft.verify } := by
  rw [finish, named]
  rfl

/-- After the end of the options paths are added. -/
theorem readPaths_eq (draft : Draft) (paths : List String) :
    readPaths draft paths =
      ((paths.map Item.path).foldlM Draft.add? draft).elim .misuse Draft.finish := by
  induction paths generalizing draft with
  | nil => rfl
  | cons path paths ih =>
      rw [readPaths, List.map_cons, List.foldlM_cons, Draft.add?]
      cases draft.setPath? path with
      | none => rfl
      | some next => exact ih next

theorem readFrom_endOfOptions (draft : Draft) (paths : List String) :
    readFrom draft ("--" :: paths) = readPaths draft paths :=
  rfl

/-! ## What is asked for -/

/-- What comes of a list of arguments. -/
inductive Reads (arguments : List String) : Request → Prop
  | compile {invocation : Invocation} (asks : Asks arguments invocation) :
      Reads arguments (.compile invocation)
  | version (asks : AsksFor .version arguments) : Reads arguments .version
  | help (asks : AsksFor .help arguments) : Reads arguments .help
  | misuse : Reads arguments .misuse

theorem Reads.of_finish {arguments : List String} {items : List Item} {draft : Draft}
    (lists : Lists arguments items) (collects : Draft.Collects {} items draft) :
    Reads arguments draft.finish := by
  unfold Draft.finish
  cases named : draft.workspacePath? with
  | none => exact .misuse
  | some path => exact .compile (.compile lists collects named)

/-- **Every list of arguments is read as what it asks for**, or it is wrong. -/
theorem Reads.of (arguments : List String) : Reads arguments (read arguments) := by
  obtain ⟨before, items, next, rest, spelled, rfl, adds, stops⟩ := exists_stop {} arguments
  have collects := Draft.foldlM_add?_eq_some_iff.mp adds
  rw [read, readFrom_of_spelled spelled adds]
  cases stops with
  | nothing => exact .of_finish (.options (by rwa [List.append_nil])) collects
  | endOfOptions paths =>
      rw [readFrom_endOfOptions, readPaths_eq]
      cases added : (paths.map Item.path).foldlM Draft.add? next with
      | none => exact .misuse
      | some final =>
          have all : (items ++ paths.map Item.path).foldlM Draft.add? {} = some final := by
            rw [List.foldlM_append, adds]
            exact added
          exact .of_finish (.paths spelled paths) (Draft.foldlM_add?_eq_some_iff.mp all)
  | @refused _ item spells refuses rest =>
      rw [readFrom_of_spells spells, refuses, Option.elim_none]
      rcases item with _ | switch | _
      · exact .misuse
      · cases switch with
        | version => exact .version (.after spelled collects spells rest)
        | help => exact .help (.after spelled collects spells rest)
        | tree | verify => exact .misuse
      · exact .misuse
  | unspelled misuse => exact misuse ▸ .misuse

theorem Asks.read_eq {arguments : List String} {invocation : Invocation}
    (asks : Asks arguments invocation) : read arguments = .compile invocation := by
  obtain ⟨lists, collects, named⟩ := asks
  have adds := Draft.foldlM_add?_eq_some_iff.mpr collects
  refine Eq.trans ?_ (Draft.finish_of_path named)
  cases lists with
  | options spelled =>
      have reading := readFrom_of_spelled spelled adds []
      rwa [List.append_nil] at reading
  | paths spelled paths =>
      rw [List.foldlM_append] at adds
      obtain ⟨between, added, adds⟩ := Option.bind_eq_some_iff.mp adds
      rw [read, readFrom_of_spelled spelled added, readFrom_endOfOptions, readPaths_eq, adds,
        Option.elim_some]

theorem AsksFor.read_eq {switch : Switch} {arguments : List String}
    (asks : AsksFor switch arguments)
    (settles : ∀ draft : Draft, draft.add? (.switch switch) = none) :
    read arguments = (Item.switch switch).request := by
  obtain ⟨spelled, collects, spells, rest⟩ := asks
  have adds := Draft.foldlM_add?_eq_some_iff.mpr collects
  rw [read, readFrom_of_spelled spelled adds, readFrom_of_spells spells, settles,
    Option.elim_none]

/-- **Arguments ask for a compilation exactly if they list the items of one.** -/
theorem read_eq_compile_iff {arguments : List String} {invocation : Invocation} :
    read arguments = .compile invocation ↔ Asks arguments invocation := by
  refine ⟨fun asked => ?_, Asks.read_eq⟩
  have reads := Reads.of arguments
  rw [asked] at reads
  cases reads with
  | compile asks => exact asks

/-- **Arguments ask for the version exactly if an argument does and all before it are right.** -/
theorem read_eq_version_iff {arguments : List String} :
    read arguments = .version ↔ AsksFor .version arguments := by
  refine ⟨fun asked => ?_, fun asks => asks.read_eq fun _ => rfl⟩
  have reads := Reads.of arguments
  rw [asked] at reads
  cases reads with
  | version asks => exact asks

/-- **Arguments ask for help exactly if an argument does and all before it are right.** -/
theorem read_eq_help_iff {arguments : List String} :
    read arguments = .help ↔ AsksFor .help arguments := by
  refine ⟨fun asked => ?_, fun asks => asks.read_eq fun _ => rfl⟩
  have reads := Reads.of arguments
  rw [asked] at reads
  cases reads with
  | help asks => exact asks

end BlockScript.CommandLine
