import BlockScript.Proofs.Compile.Reach

/-!
# The workspaces that can be lowered

Which workspaces the compiler accepts, said of the blocks that a path reaches and without the
compiler's order of work (`Compiler.Accepts`), and what it makes of them: the actions of the
workspace in their order, each with its trimmed name, its interval and the statements of its body
(`Block.StandsFor`), and one further action for the statements outside every action where there are
any (`Compiler.lower_exact`).
-/

set_option autoImplicit false

namespace BlockScript

open Lowering
open Script (isIdentifier)

/-! ## Acceptable workspaces -/

/-- A workspace that a compiler accepts. -/
structure Compiler.Accepts (compiler : Compiler) (workspace : Workspace) : Prop where
  /-- Every block is of a known type and conforms to its kind. -/
  conforms : ∀ path block, workspace.Reaches compiler.vocabulary path block →
    ∃ kind, compiler.vocabulary.kind? block.type = some kind ∧ block.Conforms kind
  /-- No action lies in a slot. -/
  placed : ∀ path block, workspace.Reaches compiler.vocabulary path block →
    compiler.vocabulary.kind? block.type = some .action → path.depth = 1
  /-- The texts of every block follow the rules of its kind. -/
  texts : ∀ path block kind, workspace.Reaches compiler.vocabulary path block →
    compiler.vocabulary.kind? block.type = some kind → block.ProperTexts kind
  /-- The required slots, which are the body of an action and the first branch of a conditional,
  hold at least one statement. -/
  filled : ∀ path block kind, workspace.Reaches compiler.vocabulary path block →
    compiler.vocabulary.kind? block.type = some kind →
      ∀ slot ∈ kind.schema.slots, slot.required = true →
        block.flattenSlot compiler.vocabulary slot.name ≠ []
  /-- No two actions have the same name. -/
  distinct : (workspace.actionNames compiler.vocabulary).Nodup
  /-- Where there are statements outside every action, the name of the default action is an
  identifier and no action has it. -/
  default : workspace.loose compiler.vocabulary ≠ [] →
    isIdentifier compiler.defaultAction.name = true ∧
      compiler.defaultAction.name ∉ workspace.actionNames compiler.vocabulary

namespace Compiler

variable {compiler : Compiler} {workspace : Workspace}

/-- Nothing is wrong with the blocks of an accepted workspace. -/
theorem Accepts.faults_eq_nil (accepts : compiler.Accepts workspace) (block : Block) :
    ∀ path, workspace.Reaches compiler.vocabulary path block →
      block.faults compiler.vocabulary path (decide (1 < path.depth)) = [] := by
  induction block using Block.induction with
  | step block ih =>
      intro path reached
      obtain ⟨kind, known, conforms⟩ := accepts.conforms path block reached
      refine Block.faults_eq_nil_iff.mpr ⟨kind, known, conforms,
        accepts.texts path block kind reached known, ?_, ?_,
        accepts.filled path block kind reached known⟩
      · rintro rfl
        have top := accepts.placed path block reached known
        exact decide_eq_false (by omega)
      · intro slot member index child there
        have inside := reached.inside known ⟨slot, member, rfl⟩ there
        have clean := ih slot.name child (List.mem_of_getElem? there) _ inside
        rwa [decide_eq_true (reached.one_lt_depth_child slot.name index)] at clean

/-- **A workspace is accepted exactly if nothing is wrong with it.** -/
theorem accepts_iff : compiler.Accepts workspace ↔ compiler.faults workspace = [] := by
  rw [faults_eq_nil_iff]
  constructor
  · intro accepts
    refine ⟨fun index block there => ?_, accepts.distinct, accepts.default⟩
    exact accepts.faults_eq_nil block _ (.top there)
  · rintro ⟨each, distinct, default⟩
    have faultless (path : Block.Path) (block : Block)
        (reached : workspace.Reaches compiler.vocabulary path block) :
        ∃ kind, block.Faultless compiler.vocabulary path (decide (1 < path.depth)) kind :=
      Block.faults_eq_nil_iff.mp (reached.faults_eq_nil each)
    have ofKind {path : Block.Path} {block : Block} {kind : Block.Kind}
        (reached : workspace.Reaches compiler.vocabulary path block)
        (known : compiler.vocabulary.kind? block.type = some kind) :
        block.Faultless compiler.vocabulary path (decide (1 < path.depth)) kind := by
      obtain ⟨other, faultless⟩ := faultless path block reached
      obtain rfl := Option.some.inj (known.symm.trans faultless.known)
      exact faultless
    refine ⟨fun path block reached => ?_, fun path block reached known => ?_,
      fun path block kind reached known => (ofKind reached known).texts,
      fun path block kind reached known => (ofKind reached known).filled, distinct, default⟩
    · obtain ⟨kind, faultless⟩ := faultless path block reached
      exact ⟨kind, faultless.known, faultless.conforms⟩
    · have top := of_decide_eq_false ((ofKind reached known).placed rfl)
      have low := reached.one_le_depth
      omega

end Compiler

/-! ## What they are lowered to -/

/-- An action says what an action block says: its name trimmed, its interval read, and the
statements of its body. -/
structure Block.StandsFor (vocabulary : Vocabulary) (block : Block) (action : Script.Action) :
    Prop where
  /-- The name is the trimmed text of its field. -/
  name : ∃ text, block.field? "name" = some text ∧ action.name = Text.trimmed text
  /-- The interval is the one that the text of its field denotes. -/
  every : ∃ text, block.field? "every" = some text ∧ Duration.parse text = .ok action.every
  /-- The body is what the slot holds. -/
  body : action.body = block.flattenSlot vocabulary "do"

theorem Block.standsFor_declared {vocabulary : Vocabulary} {block : Block}
    (texts : block.ProperTexts .action) :
    block.StandsFor vocabulary (block.declared vocabulary) := by
  obtain ⟨⟨name, foundName, -⟩, every, foundEvery, interval, reads⟩ := texts
  refine ⟨⟨name, foundName, ?_⟩, ⟨every, foundEvery, ?_⟩, rfl⟩
  · rw [declared, text_eq_of_field? foundName]
  · rw [declared, text_eq_of_field? foundEvery, reads]
    rfl

/-- Without a default action the program has the actions of the workspace. -/
theorem assemble_none_pieces (vocabulary : Vocabulary) (index : Nat) (blocks : List Block) :
    assemble none (Block.pieces vocabulary index blocks) =
      (Block.actionsOf vocabulary blocks).map (·.declared vocabulary) := by
  induction blocks generalizing index with
  | nil => rfl
  | cons block blocks ih =>
      by_cases action : vocabulary.kind? block.type = some .action
      · rw [Block.pieces_cons_of_action action, Block.actionsOf_cons_of_action action, assemble, ih,
          List.map_cons]
      · rw [Block.pieces_cons_of_not_action action, Block.actionsOf_cons_of_not_action action,
          assemble, ih]
        rfl

/-- The default action stands where the first block stands that is no action. -/
theorem assemble_pieces (vocabulary : Vocabulary) (default? : Option Script.Action) (index : Nat)
    (blocks : List Block)
    (somewhere : default? ≠ none →
      ∃ block ∈ blocks, vocabulary.kind? block.type ≠ some .action) :
    ∃ before after, before ++ after =
        (Block.actionsOf vocabulary blocks).map (·.declared vocabulary) ∧
      before.length =
        (blocks.takeWhile fun block => vocabulary.kind? block.type = some .action).length ∧
      assemble default? (Block.pieces vocabulary index blocks) =
        before ++ default?.toList ++ after := by
  induction blocks generalizing index with
  | nil =>
      have absent : default? = none := by
        by_contra there
        obtain ⟨block, member, -⟩ := somewhere there
        cases member
      exact ⟨[], [], rfl, rfl, by rw [absent]; rfl⟩
  | cons block blocks ih =>
      by_cases action : vocabulary.kind? block.type = some .action
      · obtain ⟨before, after, whole, place, made⟩ := ih (index + 1) fun there => by
          obtain ⟨other, member, noAction⟩ := somewhere there
          rcases List.mem_cons.mp member with rfl | later
          · exact absurd action noAction
          · exact ⟨other, later, noAction⟩
        refine ⟨block.declared vocabulary :: before, after, ?_, ?_, ?_⟩
        · rw [Block.actionsOf_cons_of_action action, List.map_cons, List.cons_append, whole]
        · rw [List.takeWhile_cons_of_pos (by simpa using action), List.length_cons,
            List.length_cons, place]
        · rw [Block.pieces_cons_of_action action, assemble, made, List.cons_append,
            List.cons_append]
      · refine ⟨[], (Block.actionsOf vocabulary blocks).map (·.declared vocabulary), ?_, ?_, ?_⟩
        · rw [Block.actionsOf_cons_of_not_action action, List.nil_append]
        · rw [List.takeWhile_cons_of_neg (by simpa using action)]
          rfl
        · rw [Block.pieces_cons_of_not_action action, assemble, assemble_none_pieces,
            List.nil_append]

namespace Compiler

variable {compiler : Compiler} {workspace : Workspace}

/-- A default action is made only where some block is no action. -/
theorem exists_of_looseAction? (made : compiler.looseAction? workspace ≠ none) :
    ∃ block ∈ workspace.blocks, compiler.vocabulary.kind? block.type ≠ some .action := by
  by_contra every
  push Not at every
  have silent (blocks : List Block)
      (actions : ∀ block ∈ blocks, compiler.vocabulary.kind? block.type = some .action) :
      Block.flattenAll compiler.vocabulary blocks = [] := by
    induction blocks with
    | nil => rfl
    | cons block blocks ih =>
        obtain ⟨own, others⟩ := List.forall_mem_cons.mp actions
        rw [Block.flattenAll, Block.flatten_eq_nil_of_action own, ih others]
        rfl
  exact made (if_pos (silent workspace.blocks every))

/-- The actions of an accepted workspace stand for what they declare. -/
theorem Accepts.forall₂_declared (accepts : compiler.Accepts workspace) :
    List.Forall₂ (Block.StandsFor compiler.vocabulary)
      (Block.actionsOf compiler.vocabulary workspace.blocks)
      ((Block.actionsOf compiler.vocabulary workspace.blocks).map
        (·.declared compiler.vocabulary)) := by
  rw [List.forall₂_map_right_iff, List.forall₂_same]
  intro block member
  obtain ⟨inside, declares⟩ := List.mem_filter.mp member
  obtain ⟨index, there⟩ := List.mem_iff_getElem?.mp inside
  exact Block.standsFor_declared (accepts.texts _ _ _ (.top there) (of_decide_eq_true declares))

/-- **Lowering succeeds exactly on the accepted workspaces, and its result is exact.** The actions
of the program are what the actions of the workspace stand for, in order, with one more action for
the statements outside every action where there are any, at the place of the first block that is no
action. -/
theorem lower_exact (compiler : Compiler) (workspace : Workspace) :
    ((∃ program, compiler.lower workspace = .ok program) ↔ compiler.Accepts workspace) ∧
    ∀ program, compiler.lower workspace = .ok program →
      ∃ before after,
        List.Forall₂ (Block.StandsFor compiler.vocabulary)
          (Block.actionsOf compiler.vocabulary workspace.blocks) (before ++ after) ∧
        before.length = (workspace.blocks.takeWhile fun block =>
          compiler.vocabulary.kind? block.type = some .action).length ∧
        program.actions = before ++ (compiler.looseAction? workspace).toList ++ after := by
  rw [accepts_iff]
  simp only [lower_eq, report_eq_ok_iff]
  refine ⟨⟨fun ⟨_, clean, _⟩ => clean, fun clean => ⟨_, clean, rfl⟩⟩, ?_⟩
  rintro program ⟨clean, rfl⟩
  obtain ⟨before, after, whole, place, made⟩ := assemble_pieces compiler.vocabulary
    (compiler.looseAction? workspace) 0 workspace.blocks exists_of_looseAction?
  refine ⟨before, after, ?_, place, made⟩
  rw [whole]
  exact (accepts_iff.mpr clean).forall₂_declared

/-- A statement outside every action, and after it an action with blanks around its texts. -/
theorem lower_exact_lamp :
    let lamp := ((Block.ofType "publish").withField "topic" "lamp").withField "payload" "on"
    let blink := (((Block.ofType "action").withField "name" " Blink ").withField "every"
      " 5s ").withSlot "do" [lamp]
    Compiler.standard.Accepts ⟨[lamp, blink]⟩ ∧
    ∃ before after,
      List.Forall₂ (Block.StandsFor .standard) (Block.actionsOf .standard [lamp, blink])
        (before ++ after) ∧
      before.length = ([lamp, blink].takeWhile fun block =>
        Vocabulary.standard.kind? block.type = some .action).length ∧
      [⟨"MyAction", .standard, [.publish "lamp" "on"]⟩,
          ⟨"Blink", ⟨5, .seconds, by decide, by decide⟩, [.publish "lamp" "on"]⟩] =
        before ++ (Compiler.standard.looseAction? ⟨[lamp, blink]⟩).toList ++ after := by
  intro lamp blink
  have lowered : Compiler.standard.lower ⟨[lamp, blink]⟩ =
      .ok ⟨[⟨"MyAction", .standard, [.publish "lamp" "on"]⟩,
        ⟨"Blink", ⟨5, .seconds, by decide, by decide⟩, [.publish "lamp" "on"]⟩]⟩ := rfl
  obtain ⟨accepts, exactly⟩ := lower_exact .standard ⟨[lamp, blink]⟩
  exact ⟨accepts.mp ⟨_, lowered⟩, exactly _ lowered⟩

end Compiler

end BlockScript
