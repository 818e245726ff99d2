import BlockScript.Compile.Options
import BlockScript.Proofs.Compile.Aliases
import BlockScript.Proofs.Table

/-!
# Configuring compilers

A compiler is configured by settings, one after the other: the default action, the indent width, and
names for kinds of blocks. About each thing the last setting decides that has an answer to it
(`lastOf`). A width answers with what it is clamped to, and a name for something that is no kind
does not answer. Compilers do the same whenever their settings agree in the last answers
(`configured_same`), so settings about different things may come in any order.

One setting changes the part of a compiler that it has an answer for and leaves the others
(`Setting.Decides`), and so, after a run of settings, the last answers decide
(`Setting.Decides.foldl_apply`). Nothing else shows in what the compiler does: its vocabulary
matters only through the kinds that types have in it (`Compiler.Same.of_parts`).
-/

set_option autoImplicit false

namespace BlockScript

open Script (IndentWidth Program)

/-! ## Settings -/

/-- One step in configuring a compiler. -/
inductive Setting where
  /-- Sets the default action. -/
  | defaultAction (name : String) (every : Duration)
  /-- Adds a name for the kind that is called `kindName`. -/
  | typeName (name kindName : String)
  /-- Sets the indent width. -/
  | indent (spaces : Nat)
  deriving DecidableEq

namespace Setting

/-- The compiler after a setting. -/
def apply (compiler : Compiler) : Setting → Compiler
  | defaultAction name every => compiler.withDefaultAction name every
  | typeName name kindName => compiler.withAlias name kindName
  | indent spaces => compiler.withIndent spaces

/-- The default action that a setting asks for. -/
def defaultAction? : Setting → Option DefaultAction
  | defaultAction name every => some ⟨name, every⟩
  | _ => none

/-- The indent width that a setting asks for, which is clamped. -/
def indent? : Setting → Option IndentWidth
  | indent spaces => some (.clamp spaces)
  | _ => none

/-- The kind that a setting gives to a type. -/
def kindOf? (type : String) : Setting → Option Block.Kind
  | typeName name kindName => if name = type then Block.Kind.ofTypeName? kindName else none
  | _ => none

end Setting

/-- The last answer that settings give. -/
def lastOf {α : Type} (answer : Setting → Option α) (settings : List Setting) : Option α :=
  (settings.filterMap answer).getLast?

/-- The standard compiler after settings. -/
def Compiler.configured (settings : List Setting) : Compiler :=
  settings.foldl Setting.apply .standard

/-- The last of the settings that are about a thing ask for the same, for each thing. -/
structure Setting.Agree (settings others : List Setting) : Prop where
  /-- The default action. -/
  defaultAction : lastOf defaultAction? settings = lastOf defaultAction? others
  /-- The indent width, after clamping. -/
  indent : lastOf indent? settings = lastOf indent? others
  /-- The kind of each type. -/
  kinds : ∀ type, lastOf (kindOf? type) settings = lastOf (kindOf? type) others

/-- Compilers that do the same with every workspace and every program. -/
structure Compiler.Same (compiler other : Compiler) : Prop where
  lower : ∀ workspace, compiler.lower workspace = other.lower workspace
  compile : ∀ workspace, compiler.compile workspace = other.compile workspace
  render : ∀ program, compiler.render program = other.render program

/-! ## The last setting decides -/

theorem lastOf_cons {α : Type} (answer : Setting → Option α) (setting : Setting)
    (settings : List Setting) :
    lastOf answer (setting :: settings) = (lastOf answer settings).or (answer setting) := by
  rw [lastOf, lastOf, List.filterMap_cons]
  cases answer setting with
  | none => exact Option.or_none.symm
  | some value =>
      rw [List.getLast?_cons]
      cases (settings.filterMap answer).getLast? <;> rfl

/-- Each setting decides about a part of a compiler: where it has an answer, that is the part then,
and otherwise the part stays as it is. -/
def Setting.Decides {α : Type} (answer : Setting → Option α) (part : Compiler → Option α) : Prop :=
  ∀ compiler setting, part (setting.apply compiler) = (answer setting).or (part compiler)

/-- **After a run of settings the last answer decides.** -/
theorem Setting.Decides.foldl_apply {α : Type} {answer : Setting → Option α}
    {part : Compiler → Option α} (decides : Setting.Decides answer part) (settings : List Setting)
    (compiler : Compiler) :
    part (settings.foldl Setting.apply compiler) = (lastOf answer settings).or (part compiler) := by
  induction settings generalizing compiler with
  | nil => rfl
  | cons setting settings ih =>
      rw [List.foldl_cons, ih, decides, lastOf_cons, Option.or_assoc]

theorem Setting.decides_defaultAction :
    Setting.Decides defaultAction? fun compiler => some compiler.defaultAction := by
  intro compiler setting
  cases setting <;> rfl

theorem Setting.decides_indent :
    Setting.Decides indent? fun compiler => some compiler.indent := by
  intro compiler setting
  cases setting <;> rfl

theorem Setting.decides_kind (type : String) :
    Setting.Decides (kindOf? type) fun compiler => compiler.vocabulary.kind? type := by
  intro compiler setting
  cases setting with
  | typeName name kindName => exact compiler.vocabulary.kind?_addAlias name kindName type
  | defaultAction name every => rfl
  | indent spaces => rfl

/-! ## What a compiler depends on -/

mutual
theorem Block.mapTypes_id : (block : Block) → block.mapTypes id = block
  | ⟨type, id?, fields, slots⟩ => by rw [mapTypes, mapTypesTable_id slots, id]

theorem Block.mapTypesTable_id : (slots : List (String × List Block)) →
    Block.mapTypesTable id slots = slots
  | [] => rfl
  | (name, blocks) :: rest => by rw [mapTypesTable, mapTypesAll_id blocks, mapTypesTable_id rest]

theorem Block.mapTypesAll_id : (blocks : List Block) → Block.mapTypesAll id blocks = blocks
  | [] => rfl
  | block :: rest => by rw [mapTypesAll, mapTypes_id block, mapTypesAll_id rest]
end

theorem Compile.Error.mapType_id (error : Compile.Error) : error.mapType id = error := by
  cases error with
  | block path fault => cases fault <;> rfl
  | malformed reason => rfl
  | misconfigured reason => rfl

/-- **Of its vocabulary a compiler uses only which kind a type has there.** -/
theorem Compiler.lower_of_kinds {compiler other : Compiler}
    (kinds : ∀ type, compiler.vocabulary.kind? type = other.vocabulary.kind? type)
    (defaultAction : compiler.defaultAction = other.defaultAction) (workspace : Workspace) :
    compiler.lower workspace = other.lower workspace := by
  have renamed : other.vocabulary.Renamed compiler.vocabulary id := ⟨kinds, fun _ _ => rfl⟩
  have same := lower_mapTypes renamed other.defaultAction other.indent workspace
  rw [Workspace.mapTypes, Block.mapTypesAll_id, ← defaultAction] at same
  calc compiler.lower workspace
      = (lower ⟨other.vocabulary, compiler.defaultAction, other.indent⟩ workspace).mapError
          (.mapType id) := same
    _ = (other.lower workspace).mapError (.mapType id) := by rw [defaultAction]
    _ = other.lower workspace := by
        cases other.lower workspace with
        | ok program => rfl
        | error error => exact congrArg Except.error error.mapType_id

/-- Compilers of the same parts do the same. -/
theorem Compiler.Same.of_parts {compiler other : Compiler}
    (kinds : ∀ type, compiler.vocabulary.kind? type = other.vocabulary.kind? type)
    (defaultAction : compiler.defaultAction = other.defaultAction)
    (indent : compiler.indent = other.indent) : compiler.Same other := by
  have lower := lower_of_kinds kinds defaultAction
  have render (program : Program) : compiler.render program = other.render program := by
    rw [Compiler.render, Compiler.render, indent]
  refine ⟨lower, fun workspace => ?_, render⟩
  rw [Compiler.compile, Compiler.compile, lower, funext render]

theorem Setting.Agree.symm {settings others : List Setting} (agree : Agree settings others) :
    Agree others settings :=
  ⟨agree.defaultAction.symm, agree.indent.symm, fun type => (agree.kinds type).symm⟩

/-- **Settings that agree make compilers that do the same.** -/
theorem Setting.Agree.same {settings others : List Setting} (agree : Agree settings others) :
    (Compiler.configured settings).Same (Compiler.configured others) := by
  have part {α : Type} {answer : Setting → Option α} {part : Compiler → Option α}
      (decides : Decides answer part) (last : lastOf answer settings = lastOf answer others) :
      part (Compiler.configured settings) = part (Compiler.configured others) := by
    rw [Compiler.configured, Compiler.configured, decides.foldl_apply, decides.foldl_apply, last]
  refine .of_parts (fun type => part (decides_kind type) (agree.kinds type)) ?_ ?_
  · exact Option.some.inj (part decides_defaultAction agree.defaultAction)
  · exact Option.some.inj (part decides_indent agree.indent)

/-! ## Options -/

/-- The settings that options stand for. -/
def Options.settings (options : Options) : List Setting :=
  .defaultAction options.defaultActionName options.defaultTrigger ::
    .indent options.indentWidth ::
      options.typeMappings.entries.map fun (name, kindName) => .typeName name kindName

/-- The compiler after names for kinds, which are the entries of a table. -/
theorem Compiler.foldl_typeNames (mappings : List (String × String)) (vocabulary : Vocabulary)
    (action : DefaultAction) (indent : IndentWidth) :
    (mappings.map fun (name, kindName) => Setting.typeName name kindName).foldl Setting.apply
        ⟨vocabulary, action, indent⟩ =
      ⟨mappings.foldl (fun vocabulary (name, kindName) => vocabulary.addAlias name kindName)
        vocabulary, action, indent⟩ := by
  induction mappings generalizing vocabulary with
  | nil => rfl
  | cons mapping mappings ih => exact ih _

/-- **Options of a permitted width, and no others, make a compiler**: the one of their settings. -/
theorem Compiler.ofOptions_eq_ok_iff {options : Options} {compiler : Compiler} :
    ofOptions options = .ok compiler ↔
      (1 ≤ options.indentWidth ∧ options.indentWidth ≤ 16) ∧
        compiler = configured options.settings := by
  unfold ofOptions
  cases found : IndentWidth.ofNat? options.indentWidth with
  | none =>
      refine ⟨nofun, fun ⟨⟨low, high⟩, _⟩ => ?_⟩
      have permitted : IndentWidth.ofNat? options.indentWidth = some ⟨_, low, high⟩ :=
        IndentWidth.ofNat?_eq_some_iff.mpr rfl
      cases found.symm.trans permitted
  | some indent =>
      have own := IndentWidth.ofNat?_eq_some_iff.mp found
      have permitted : 1 ≤ options.indentWidth ∧ options.indentWidth ≤ 16 :=
        own ▸ ⟨indent.one_le, indent.le_widest⟩
      have opening : Setting.apply
          (Setting.apply standard (.defaultAction options.defaultActionName options.defaultTrigger))
          (.indent indent.spaces) =
            ⟨.standard, ⟨options.defaultActionName, options.defaultTrigger⟩, indent⟩ :=
        congrArg (Compiler.mk _ _) indent.clamp_spaces
      have same : configured options.settings =
          ⟨options.typeMappings.entries.foldl
            (fun vocabulary (name, kindName) => vocabulary.addAlias name kindName) .standard,
            ⟨options.defaultActionName, options.defaultTrigger⟩, indent⟩ := by
        rw [configured, Options.settings, List.foldl_cons, List.foldl_cons, own, opening,
          foldl_typeNames]
      rw [same]
      exact ⟨fun made => ⟨permitted, (Except.ok.inj made).symm⟩,
        fun made => congrArg Except.ok made.2.symm⟩

/-- The order of the settings of options does not matter, as none of them is about the same thing
as another one. -/
theorem Options.agree_of_perm {options : Options} {settings : List Setting}
    (perm : settings.Perm options.settings) :
    Setting.Agree settings options.settings := by
  -- A list with one element at most has no other order.
  have last {α : Type} {answer : Setting → Option α} {single : Option α}
      (own : options.settings.filterMap answer = single.toList) :
      lastOf answer settings = lastOf answer options.settings := by
    have permuted := perm.filterMap answer
    rw [own] at permuted
    have same : settings.filterMap answer = single.toList := by
      cases single with
      | none => exact permuted.eq_nil
      | some value => exact List.perm_singleton.mp permuted
    rw [lastOf, lastOf, same, own]
  have silent {α : Type} {answer : Setting → Option α}
      (none : ∀ name kindName, answer (.typeName name kindName) = none) :
      (options.typeMappings.entries.map fun (name, kindName) =>
        Setting.typeName name kindName).filterMap answer = [] := by
    rw [List.filterMap_map]
    exact List.filterMap_eq_nil_iff.mpr fun entry _ => none entry.1 entry.2
  refine ⟨@last _ _ (some ⟨options.defaultActionName, options.defaultTrigger⟩) ?_,
    @last _ _ (some (.clamp options.indentWidth)) ?_,
    fun type =>
      @last _ _ ((options.typeMappings.entries.lookup type).bind Block.Kind.ofTypeName?) ?_⟩
  · rw [Options.settings, List.filterMap_cons, List.filterMap_cons, silent fun _ _ => rfl]
    rfl
  · rw [Options.settings, List.filterMap_cons, List.filterMap_cons, silent fun _ _ => rfl]
    rfl
  · rw [← options.typeMappings.ordered.filterMap_eq, Options.settings, List.filterMap_cons,
      List.filterMap_cons, List.filterMap_map]
    rfl

/-! ## Settings and what they come to -/

/-- **Settings decide by what is last said in them.** Two sequences of settings that agree in that
make compilers that do the same. Options make a compiler exactly if their indent width is
permitted, and it does the same as every compiler whose settings are those of the options, in any
order, or agree with them. -/
theorem Compiler.configured_same :
    (∀ settings others : List Setting, Setting.Agree settings others →
      (configured settings).Same (configured others)) ∧
    ∀ options : Options,
      ((∃ compiler, ofOptions options = .ok compiler) ↔
        1 ≤ options.indentWidth ∧ options.indentWidth ≤ 16) ∧
      ∀ compiler, ofOptions options = .ok compiler →
        ∀ settings : List Setting,
          settings.Perm options.settings ∨ Setting.Agree settings options.settings →
            compiler.Same (configured settings) := by
  refine ⟨fun _ _ agree => agree.same, fun options => ⟨⟨?_, ?_⟩, ?_⟩⟩
  · rintro ⟨compiler, made⟩
    exact (ofOptions_eq_ok_iff.mp made).1
  · exact fun permitted => ⟨_, ofOptions_eq_ok_iff.mpr ⟨permitted, rfl⟩⟩
  · intro compiler made settings carries
    obtain ⟨-, rfl⟩ := ofOptions_eq_ok_iff.mp made
    have agree : Setting.Agree settings options.settings :=
      carries.elim Options.agree_of_perm id
    exact agree.symm.same

/-- A name of a kind given to another kind, with settings about it in between that come to nothing,
and options whose settings are made the other way round. -/
theorem Compiler.configured_same_shadowing :
    let settings : List Setting :=
      [.typeName "if" "publish", .indent 0, .typeName "if" "action", .typeName "if" "loop"]
    let others : List Setting := [.indent 40, .typeName "if" "action", .indent 1]
    let mappings : Table String :=
      ⟨[("if", "action"), ("note", "publish")], List.pairwise_pair.mpr (by decide)⟩
    let options : Options := { indentWidth := 4, typeMappings := mappings }
    Setting.Agree settings others ∧ (configured settings).Same (configured others) ∧
      ∃ compiler, ofOptions options = .ok compiler ∧
        compiler.Same (configured options.settings.reverse) := by
  intro settings others mappings options
  have agree : Setting.Agree settings others := by
    refine ⟨rfl, by decide, fun type => ?_⟩
    by_cases named : "if" = type
    · subst named
      decide
    · simp [settings, others, lastOf, List.findSome?_cons, Setting.kindOf?, named]
  obtain ⟨compiler, made⟩ := (configured_same.2 options).1.mpr (by decide)
  exact ⟨agree, configured_same.1 settings others agree, compiler, made,
    (configured_same.2 options).2 compiler made _ (.inl options.settings.reverse_perm)⟩

end BlockScript
