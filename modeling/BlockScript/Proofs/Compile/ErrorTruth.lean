import BlockScript.Proofs.Compile.Reach

/-!
# What errors say is true

An error about a block says what is wrong with it, in words that name its type, a field, a slot, a
text or another action. `BlockFault.Holds` and `FieldFault.Holds` spell out what each of these words
claims, and `Compile.Error.Holds` adds that the path of the error reaches the block and that nothing
is wrong before it.

What is listed first as wrong with a block, or with the blocks inside it, is true
(`holds_of_head?_faults`). The compiler reports the first entry of the list for the workspace, and
what that entry says of other actions is true because nothing was wrong with the blocks before it
(`Compiler.error_holds`).
-/

set_option autoImplicit false

namespace BlockScript

open Lowering
open Script (isIdentifier)

/-! ## What errors claim -/

section

variable (compiler : Compiler) (workspace : Workspace) (path : Block.Path) (block : Block)

/-- Another declaration of a name: an earlier action of the workspace, or the default action. -/
def Declaration.Holds (name : String) : Declaration → Prop
  | .action first =>
    ∃ (index place : Nat) (other : Block), path = .topLevel index ∧ place < index ∧
      first = .topLevel place ∧ workspace.blocks[place]? = some other ∧
        compiler.vocabulary.kind? other.type = some .action ∧
          ∃ text, other.field? "name" = some text ∧ Text.trimmed text = name
  | .default =>
    compiler.defaultAction.name = name ∧ isIdentifier name = true ∧
      workspace.loose compiler.vocabulary ≠ []

/-- What is said about the text of a field of the block at a path: that it breaks the rule of that
field, or that it names an action that is declared elsewhere. -/
def FieldFault.Holds (field text : String) : FieldFault → Prop
  | .notIdentifier name =>
    compiler.vocabulary.kind? block.type = some .action ∧ field = "name" ∧
      Text.trimmed text = name ∧ isIdentifier name = false
  | .duration reason =>
    compiler.vocabulary.kind? block.type = some .action ∧ field = "every" ∧
      Duration.parse text = .error reason
  | .emptyCondition =>
    compiler.vocabulary.kind? block.type = some .conditional ∧ field = "condition" ∧
      Text.trimmed text = ""
  | .brokenCondition =>
    compiler.vocabulary.kind? block.type = some .conditional ∧ field = "condition" ∧
      ('\n' ∈ (Text.trimmed text).toList ∨ '\r' ∈ (Text.trimmed text).toList)
  | .emptyTopic =>
    compiler.vocabulary.kind? block.type = some .publish ∧ field = "topic" ∧
      Text.isAllBlank text.toList = true
  | .duplicateAction name declaration =>
    compiler.vocabulary.kind? block.type = some .action ∧ field = "name" ∧
      Text.trimmed text = name ∧ declaration.Holds compiler workspace path name

/-- What is said about the block at a path. -/
def BlockFault.Holds : BlockFault → Prop
  | .unknownType type => block.type = type ∧ compiler.vocabulary.kind? type = none
  | .missingField type field =>
    block.type = type ∧ block.field? field = none ∧
      ∃ kind, compiler.vocabulary.kind? type = some kind ∧ ⟨field, true⟩ ∈ kind.schema.fields
  | .missingSlot type slot =>
    block.type = type ∧ block.flattenSlot compiler.vocabulary slot = [] ∧
      ∃ kind, compiler.vocabulary.kind? type = some kind ∧ ⟨slot, true⟩ ∈ kind.schema.slots
  | .unknownField type field =>
    block.type = type ∧ (∃ text, block.field? field = some text) ∧
      ∃ kind, compiler.vocabulary.kind? type = some kind ∧
        ¬ Block.Declares kind.schema.fields field
  | .unknownSlot type slot =>
    block.type = type ∧ (∃ blocks, block.slot? slot = some blocks) ∧
      ∃ kind, compiler.vocabulary.kind? type = some kind ∧
        ¬ Block.Declares kind.schema.slots slot
  | .invalidField field fault =>
    ∃ text, block.field? field = some text ∧
      fault.Holds compiler workspace path block field text
  | .misplaced type =>
    block.type = type ∧ compiler.vocabulary.kind? type = some .action ∧ 1 < path.depth

end

/-- What an error says: it is about a block that its path reaches, with nothing wrong before it, or
about the name of a default action that is needed. -/
def Compile.Error.Holds (compiler : Compiler) (workspace : Workspace) : Compile.Error → Prop
  | .malformed _ => False
  | .misconfigured reason =>
    reason = .defaultName compiler.defaultAction.name ∧
      isIdentifier compiler.defaultAction.name = false ∧
        workspace.loose compiler.vocabulary ≠ []
  | .block path fault =>
    ∃ block, workspace.ReachesFirst compiler.vocabulary path block ∧
      fault.Holds compiler workspace path block

/-! ## One block -/

section

variable {compiler : Compiler} {workspace : Workspace} {path : Block.Path} {block : Block}
  {kind : Block.Kind} {fault : BlockFault}

theorem holds_of_mem_violations (known : compiler.vocabulary.kind? block.type = some kind)
    (member : fault ∈ kind.violations block) : fault.Holds compiler workspace path block := by
  rcases Block.Kind.mem_violations_iff.mp member with
    ⟨field, ⟨there, unknown⟩, rfl⟩ | ⟨slot, ⟨there, unknown⟩, rfl⟩ |
    ⟨⟨field, _⟩, ⟨declared, rfl, absent⟩, rfl⟩ | ⟨⟨slot, _⟩, ⟨declared, rfl, empty⟩, rfl⟩
  · exact ⟨rfl, there, kind, known, unknown⟩
  · exact ⟨rfl, there, kind, known, unknown⟩
  · exact ⟨rfl, absent, kind, known, declared⟩
  · refine ⟨rfl, ?_, kind, known, declared⟩
    rw [Block.flattenSlot, empty]
    rfl

/-- A field that is refused is missing, or its text is refused. -/
theorem holds_of_mem_failuresOf {α : Type} {field : String} {read : String → Except BlockFault α}
    (known : compiler.vocabulary.kind? block.type = some kind)
    (declared : ⟨field, true⟩ ∈ kind.schema.fields)
    (refused : ∀ text, block.field? field = some text → read text = .error fault →
      fault.Holds compiler workspace path block)
    (member : fault ∈ failuresOf (requiredField block field >>= read)) :
    fault.Holds compiler workspace path block := by
  rcases bind_requiredField_eq_error_iff.mp (mem_failuresOf_iff.mp member) with
    ⟨absent, rfl⟩ | ⟨text, found, fails⟩
  · exact ⟨rfl, absent, kind, known, declared⟩
  · exact refused text found fails

theorem holds_of_mem_textFaults (known : compiler.vocabulary.kind? block.type = some kind)
    (member : fault ∈ kind.textFaults block) : fault.Holds compiler workspace path block := by
  cases kind with
  | action =>
      rcases List.mem_append.mp member with inName | inEvery
      · refine holds_of_mem_failuresOf known (by decide) (fun text found fails => ?_) inName
        obtain ⟨noIdentifier, rfl⟩ := actionName_eq_error_iff.mp fails
        exact ⟨text, found, known, rfl, rfl, noIdentifier⟩
      · refine holds_of_mem_failuresOf known (by decide) (fun text found fails => ?_) inEvery
        obtain ⟨reason, unreadable, rfl⟩ := trigger_eq_error_iff.mp fails
        exact ⟨text, found, known, rfl, unreadable⟩
  | conditional =>
      refine holds_of_mem_failuresOf known (by decide) (fun text found fails => ?_) member
      rcases condition_eq_error_iff.mp fails with ⟨empty, rfl⟩ | ⟨broken, rfl⟩
      · exact ⟨text, found, known, rfl, empty⟩
      · exact ⟨text, found, known, rfl, broken⟩
  | publish =>
      rcases List.mem_append.mp member with inTopic | inPayload
      · refine holds_of_mem_failuresOf known (by decide) (fun text found fails => ?_) inTopic
        obtain ⟨blank, rfl⟩ := topic_eq_error_iff.mp fails
        exact ⟨text, found, known, rfl, blank⟩
      · obtain ⟨absent, rfl⟩ := requiredField_eq_error_iff.mp (mem_failuresOf_iff.mp inPayload)
        exact ⟨rfl, absent, .publish, known, by decide⟩
  | sequence => cases member

theorem holds_of_mem_ownFaults {nested : Bool}
    (known : compiler.vocabulary.kind? block.type = some kind)
    (deep : nested = true → 1 < path.depth) (member : fault ∈ kind.ownFaults nested block) :
    fault.Holds compiler workspace path block := by
  rcases List.mem_append.mp member with violation | later
  · exact holds_of_mem_violations known violation
  rcases List.mem_append.mp later with place | text
  · unfold Block.Kind.placeFaults at place
    split at place
    · next misplaced =>
      obtain ⟨inSlot, noStatement⟩ := Bool.and_eq_true_iff.mp misplaced
      obtain rfl : kind = .action := by simpa [Block.Kind.isStatement] using noStatement
      obtain rfl := List.mem_singleton.mp place
      exact ⟨rfl, known, deep inSlot⟩
    · cases place
  · exact holds_of_mem_textFaults known text

end

/-! ## Blocks in blocks -/

theorem holds_of_mem_emptyFaults {compiler : Compiler} {workspace : Workspace}
    {path : Block.Path} {block : Block} {kind : Block.Kind} {slot : Member}
    {error : Compile.Error}
    (reached : workspace.ReachesFirst compiler.vocabulary path block)
    (known : compiler.vocabulary.kind? block.type = some kind)
    (declared : slot ∈ kind.schema.slots)
    (member : error ∈ block.emptyFaults compiler.vocabulary path slot) :
    error.Holds compiler workspace := by
  unfold Block.emptyFaults at member
  split at member
  · next holdsNone =>
    obtain ⟨required, nothing⟩ := Bool.and_eq_true_iff.mp holdsNone
    obtain ⟨name, _⟩ := slot
    obtain rfl := required
    obtain rfl := List.mem_singleton.mp member
    exact ⟨block, reached, rfl, List.isEmpty_iff.mp nothing, kind, known, declared⟩
  · cases member

/-- **What is first wrong with a block, or inside it, is true**, and nothing is wrong before it. -/
theorem holds_of_head?_faults {compiler : Compiler} {workspace : Workspace} {block : Block} :
    ∀ path, workspace.ReachesFirst compiler.vocabulary path block →
      ∀ error, (block.faults compiler.vocabulary path (decide (1 < path.depth))).head? =
        some error → error.Holds compiler workspace := by
  induction block using Block.induction with
  | step block ih =>
      intro path reached error first
      rw [Block.faults_eq] at first
      cases known : compiler.vocabulary.kind? block.type with
      | none =>
          rw [known] at first
          obtain rfl := Option.some.inj first
          exact ⟨block, reached, rfl, known⟩
      | some kind =>
          rw [known] at first
          rcases head?_append_eq_some_iff.mp first with own | ⟨own, inside⟩
          · obtain ⟨fault, found, rfl⟩ := List.mem_map.mp (List.mem_of_mem_head? own)
            exact ⟨block, reached, holds_of_mem_ownFaults known of_decide_eq_true found⟩
          rw [Block.slotFaults, List.head?_flatMap, List.findSome?_eq_some_iff] at inside
          obtain ⟨earlierSlots, slot, laterSlots, declared, there, before⟩ := inside
          have slotsBefore : ∀ other ∈ earlierSlots,
              Block.faultsAll compiler.vocabulary path other.name 0 (block.inSlot other.name) = [] ∧
                block.emptyFaults compiler.vocabulary path other = [] := by
            intro other member
            exact List.append_eq_nil_iff.mp (List.head?_eq_none_iff.mp (before other member))
          rcases head?_append_eq_some_iff.mp there with within | ⟨-, empty⟩
          · obtain ⟨index, child, found, clean, wrong⟩ := Block.exists_of_head?_faultsAll within
            simp only [Nat.zero_add] at clean wrong
            have deeper := reached.reaches.one_lt_depth_child slot.name index
            rw [← decide_eq_true deeper] at wrong
            exact ih slot.name child (List.mem_of_getElem? found) _
              (reached.inside known (List.map_eq_nil_iff.mp own) declared slotsBefore found clean)
              error wrong
          · have member : slot ∈ kind.schema.slots := by
              rw [declared]
              exact List.mem_append_right _ List.mem_cons_self
            exact holds_of_mem_emptyFaults reached known member (List.mem_of_mem_head? empty)

/-! ## Names that are taken -/

/-- A declaration that is found is that of an action among the pieces. -/
theorem exists_of_declaredAt? {name : String} {pieces : List Piece} {path : Block.Path}
    (declared : declaredAt? name pieces = some path) :
    ∃ action, .action path action ∈ pieces ∧ action.name = name := by
  obtain ⟨piece, member, found⟩ := List.exists_of_findSome?_eq_some declared
  cases piece with
  | action own action =>
      simp only [Option.ite_none_right_eq_some, Option.some.injEq] at found
      obtain ⟨same, rfl⟩ := found
      exact ⟨action, member, same⟩
  | loose statements => cases found

/-- The name of a faultless action is the trimmed text of a field that it has. -/
theorem Block.Faultless.exists_name {vocabulary : Vocabulary} {path : Block.Path} {nested : Bool}
    {block : Block} (faultless : block.Faultless vocabulary path nested .action) :
    ∃ text, block.field? "name" = some text ∧
      Text.trimmed text = (block.declared vocabulary).name := by
  obtain ⟨⟨text, found, -⟩, -⟩ := faultless.texts
  refine ⟨text, found, ?_⟩
  rw [declared, text_eq_of_field? found]

section

variable {compiler : Compiler} {workspace : Workspace}

/-- A block is the first one when nothing is wrong with the blocks `before` it. -/
theorem reachesFirst_of_append {before rest : List Block} {block : Block}
    (whole : workspace.blocks = before ++ block :: rest)
    (clean : ∀ (place : Nat) (block : Block), before[place]? = some block →
      block.faults compiler.vocabulary (.topLevel place) false = []) :
    workspace.ReachesFirst compiler.vocabulary (.topLevel before.length) block := by
  refine .top ?_ fun earlier other shallow there => clean earlier other ?_
  · rw [whole, List.getElem?_append_right (Nat.le_refl _), Nat.sub_self]
    rfl
  · rwa [whole, List.getElem?_append_left shallow] at there

/-- What is said about a name that an earlier action has. The blocks `before` are those before the
one that is added. -/
theorem holds_of_addPiece {before rest : List Block} {block : Block} {error : Compile.Error}
    (whole : workspace.blocks = before ++ block :: rest)
    (clean : ∀ (place : Nat) (block : Block), before[place]? = some block →
      block.faults compiler.vocabulary (.topLevel place) false = [])
    (own : block.faults compiler.vocabulary (.topLevel before.length) false = [])
    (refused : addPiece (Block.pieces compiler.vocabulary 0 before).reverse
      (block.piece compiler.vocabulary (.topLevel before.length)) = .error error) :
    error.Holds compiler workspace := by
  obtain ⟨kind, faultless⟩ := Block.faults_eq_nil_iff.mp own
  unfold Block.piece at refused
  split at refused
  · next action =>
    obtain rfl := Option.some.inj (faultless.known.symm.trans action)
    simp only [addPiece] at refused
    split at refused
    · next first declared =>
      obtain rfl := Except.error.inj refused
      obtain ⟨_, member, same⟩ := exists_of_declaredAt? declared
      obtain ⟨place, other, found, declares, rfl, rfl⟩ :=
        Block.exists_of_action_mem_pieces (List.mem_reverse.mp member)
      obtain ⟨_, otherFaultless⟩ := Block.faults_eq_nil_iff.mp (clean place other found)
      obtain rfl := Option.some.inj (otherFaultless.known.symm.trans declares)
      obtain ⟨otherName, otherFound, otherTrimmed⟩ := otherFaultless.exists_name
      obtain ⟨name, nameFound, trimmed⟩ := faultless.exists_name
      have earlier : place < before.length := (List.getElem?_eq_some_iff.mp found).1
      have foundThere : workspace.blocks[place]? = some other := by
        rw [whole, List.getElem?_append_left earlier, found]
      refine ⟨block, reachesFirst_of_append whole clean, name, nameFound, action, rfl, trimmed,
        before.length, place, other, rfl, earlier, ?_, foundThere, declares, otherName, otherFound,
        otherTrimmed.trans same⟩
      rw [Nat.zero_add]
    · cases refused
  · cases refused

/-- What is first said about the blocks of a workspace is true. -/
theorem holds_of_head?_pieceFaults (before : List Block) {rest : List Block} {error : Compile.Error}
    (whole : workspace.blocks = before ++ rest)
    (clean : ∀ (place : Nat) (block : Block), before[place]? = some block →
      block.faults compiler.vocabulary (.topLevel place) false = [])
    (first : (Block.pieceFaults compiler.vocabulary
      (Block.pieces compiler.vocabulary 0 before).reverse before.length rest).head? = some error) :
    error.Holds compiler workspace := by
  induction rest generalizing before with
  | nil => cases first
  | cons block rest ih =>
      rw [Block.pieceFaults] at first
      rcases head?_append_eq_some_iff.mp first with own | ⟨own, later⟩
      · exact holds_of_head?_faults _ (reachesFirst_of_append whole clean) error own
      -- Nothing is wrong with the block itself, so it joins the clean ones for what follows.
      rcases head?_append_eq_some_iff.mp later with refused | ⟨-, others⟩
      · exact holds_of_addPiece whole clean own (head?_failuresOf_iff.mp refused)
      · refine ih (before ++ [block]) (by rw [whole, List.append_assoc]; rfl) ?_ ?_
        · intro place other found
          rcases Nat.lt_or_ge place before.length with inside | beyond
          · rw [List.getElem?_append_left inside] at found
            exact clean place other found
          · have within := (List.getElem?_eq_some_iff.mp found).1
            rw [List.length_append, List.length_singleton] at within
            obtain rfl : place = before.length := by omega
            rw [List.getElem?_concat_length] at found
            obtain rfl := Option.some.inj found
            exact own
        · rw [Block.pieces_concat, List.reverse_append, List.length_append, Nat.zero_add]
          exact others

/-- What is said about the default action is true where nothing is wrong with the blocks. -/
theorem holds_of_defaultFaults {error : Compile.Error}
    (clean : Block.pieceFaults compiler.vocabulary [] 0 workspace.blocks = [])
    (member : error ∈ compiler.defaultFaults workspace) : error.Holds compiler workspace := by
  have distinct : (pieceNames []).Nodup := List.nodup_nil
  obtain ⟨each, -⟩ := (pieceFaults_eq_nil_iff distinct).mp clean
  unfold Compiler.defaultFaults at member
  split at member
  · cases member
  · next nonempty =>
    have refused := mem_failuresOf_iff.mp member
    unfold Lowering.defaultAction at refused
    split at refused
    · next identifier =>
      split at refused
      · next path declared =>
        obtain rfl := Except.error.inj refused
        obtain ⟨_, found, same⟩ := exists_of_declaredAt? declared
        obtain ⟨place, block, there, declares, rfl, rfl⟩ := Block.exists_of_action_mem_pieces found
        obtain ⟨_, faultless⟩ := Block.faults_eq_nil_iff.mp (each place block there)
        obtain rfl := Option.some.inj (faultless.known.symm.trans declares)
        obtain ⟨name, nameFound, trimmed⟩ := faultless.exists_name
        rw [Nat.zero_add]
        have reached : workspace.ReachesFirst compiler.vocabulary (.topLevel place) block :=
          .top there fun earlier other _ => by simpa only [Nat.zero_add] using each earlier other
        exact ⟨block, reached, name, nameFound, declares, rfl, trimmed.trans same, rfl, identifier,
          nonempty⟩
      · cases refused
    · next noIdentifier =>
      obtain rfl := Except.error.inj refused
      exact ⟨rfl, Bool.eq_false_iff.mpr noIdentifier, nonempty⟩

end

/-- **Errors tell the truth about the first block with which something is wrong.** When a workspace
cannot be lowered, the error is the first entry in the list of everything that is wrong with it; its
path leads to a block before which nothing is wrong, and what it says of that block is true. -/
theorem Compiler.error_holds (compiler : Compiler) (workspace : Workspace) (error : Compile.Error)
    (fails : compiler.lower workspace = .error error) :
    (compiler.faults workspace).head? = some error ∧ error.Holds compiler workspace := by
  rw [lower_eq, report_eq_error_iff] at fails
  refine ⟨fails, ?_⟩
  rcases head?_append_eq_some_iff.mp fails with own | ⟨clean, default⟩
  · exact holds_of_head?_pieceFaults [] rfl nofun own
  · exact holds_of_defaultFaults clean (List.mem_of_mem_head? default)

/-- A topic of blanks inside an action. -/
theorem Compiler.error_holds_topic :
    let silent := ((Block.ofType "publish").withField "topic" " ").withField "payload" "on"
    let blink := (((Block.ofType "action").withField "name" "Blink").withField "every"
      "5s").withSlot "do" [silent]
    let error := Compile.Error.block ((Block.Path.topLevel 0).child "do" 0)
      (.invalidField "topic" .emptyTopic)
    (Compiler.standard.faults ⟨[blink]⟩).head? = some error ∧
      error.Holds .standard ⟨[blink]⟩ :=
  error_holds .standard _ _ rfl

end BlockScript
