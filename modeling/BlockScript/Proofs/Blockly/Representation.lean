import BlockScript.Proofs.Blockly.Renaming
import Mathlib.Data.List.Forall2
import Mathlib.Logic.Relation

/-!
# What a saved document stands for

The workspace of a saved document, said without converting anything. A saved block stands for a
block of the same type and id, whose fields are its own under their names in lower case, and whose
slots are the chains that are plugged into its inputs; the blocks of a chain follow each other in a
sequence (`SavedBlock.StandsFor`). A block counts before its shadow.

The conversion of a document succeeds with the workspace that it represents, and with no other. It
fails exactly when a block that it reaches is defective: a field holds no scalar, or two names
coincide in lower case (`SavedDocument.workspace_exact`).
-/

set_option autoImplicit false

namespace BlockScript.Blockly

/-! ## The parts of a saved block -/

/-- The saved blocks that are plugged into inputs, under the names of the inputs. -/
def plugged (inputs : List (String × Connection)) : List (String × SavedBlock) :=
  inputs.filterMap fun entry => entry.2.block?.map (entry.1, ·)

/-- The saved block that follows at a connection. -/
def follower (next? : Option Connection) : Option SavedBlock := next?.bind Connection.block?

theorem plugged_cons (name : String) (connection : Connection)
    (inputs : List (String × Connection)) :
    plugged ((name, connection) :: inputs) =
      (connection.block?.map (name, ·)).toList ++ plugged inputs := by
  rw [plugged, List.filterMap_cons]
  cases connection.block? <;> rfl

theorem Connection.sizeOf_lt {connection : Connection} {child : SavedBlock}
    (there : connection.block? = some child) : sizeOf child < sizeOf connection := by
  obtain ⟨block? | block, shadow? | shadow⟩ := connection <;>
    simp only [Connection.block?, Option.or_none, Option.none_or, Option.some_or, reduceCtorEq,
      Option.some.injEq] at there
  all_goals
    subst there
    simp
    omega

theorem sizeOf_lt_of_mem_plugged {inputs : List (String × Connection)}
    {entry : String × SavedBlock} (member : entry ∈ plugged inputs) :
    sizeOf entry.2 < sizeOf inputs := by
  obtain ⟨⟨name, connection⟩, inside, there⟩ := List.mem_filterMap.mp member
  obtain ⟨child, found, rfl⟩ := Option.map_eq_some_iff.mp there
  have lower : sizeOf child < sizeOf connection := Connection.sizeOf_lt found
  have inList := List.sizeOf_lt_of_mem inside
  simp only [Prod.mk.sizeOf_spec] at inList
  show sizeOf child < sizeOf inputs
  omega

theorem sizeOf_lt_of_follower {next? : Option Connection} {next : SavedBlock}
    (follows : follower next? = some next) : sizeOf next < sizeOf next? := by
  obtain ⟨connection, rfl, there⟩ := Option.bind_eq_some_iff.mp follows
  have lower := Connection.sizeOf_lt there
  simp
  omega

/-- **What passes to a saved block from the blocks in its inputs and the block after it holds of
every saved block.** -/
@[elab_as_elim]
theorem SavedBlock.induction {motive : SavedBlock → Prop}
    (step : ∀ type id? fields inputs next?, (∀ entry ∈ plugged inputs, motive entry.2) →
      (∀ next, follower next? = some next → motive next) →
        motive (.mk type id? fields inputs next?)) :
    ∀ saved, motive saved
  | .mk type id? fields inputs next? => by
      refine step type id? fields inputs next? (fun entry member => ?_) (fun next follows => ?_)
      · have := sizeOf_lt_of_mem_plugged member
        exact SavedBlock.induction step entry.2
      · have := sizeOf_lt_of_follower follows
        exact SavedBlock.induction step next
termination_by saved => sizeOf saved

/-! ## Representation -/

/-- The text of a field value: a text itself, a number as JSON writes it, or a truth value. -/
inductive FieldValue.Denotes : FieldValue → String → Prop where
  | string (text : String) : Denotes (.string text) text
  | number (value : Json.Number) : Denotes (.number value) value.text
  | true : Denotes (.boolean Bool.true) "true"
  | false : Denotes (.boolean Bool.false) "false"

/-- The blocks for which a saved block stands, together with all that follow it in its chain. -/
inductive SavedBlock.StandsFor : SavedBlock → List Block → Prop where
  | chain {type : String} {id? : Option String} {savedFields : List (String × FieldValue)}
      {inputs : List (String × Connection)} {next? : Option Connection}
      {fields : List (String × String)} {slots : List (String × List Block)} {rest : List Block}
      (fieldNames : Renames savedFields fields)
      (texts : ∀ entry ∈ savedFields, ∀ text, fields.lookup (lowerName entry) = some text →
        entry.2.Denotes text)
      (slotNames : Renames (plugged inputs) slots)
      (chains : ∀ entry ∈ plugged inputs, ∀ blocks, slots.lookup (lowerName entry) = some blocks →
        StandsFor entry.2 blocks)
      (ends : follower next? = none → rest = [])
      (goesOn : ∀ next, follower next? = some next → StandsFor next rest) :
      StandsFor (.mk type id? savedFields inputs next?) (⟨type, id?, fields, slots⟩ :: rest)

/-- The saved blocks at which the chains of a document start. -/
def SavedDocument.heads (document : SavedDocument) : List SavedBlock :=
  (document.blocks?.map BlockList.chains).getD []

/-- A document represents a workspace: its chains, one after the other, are the blocks. -/
def SavedDocument.Represents (document : SavedDocument) (workspace : Workspace) : Prop :=
  ∃ parts, List.Forall₂ SavedBlock.StandsFor document.heads parts ∧
    workspace.blocks = parts.flatten

/-! ## Defects -/

/-- A saved block that cannot be converted: a field is no scalar, or two names of fields, or of
inputs that are not empty, coincide in lower case. -/
inductive SavedBlock.Defective : SavedBlock → Prop where
  | value {type : String} {id? : Option String} {fields : List (String × FieldValue)}
      {inputs : List (String × Connection)} {next? : Option Connection}
      {entry : String × FieldValue} (member : entry ∈ fields)
      (noText : ∀ text, ¬ entry.2.Denotes text) :
      Defective (.mk type id? fields inputs next?)
  | fieldNames {type : String} {id? : Option String} {fields : List (String × FieldValue)}
      {inputs : List (String × Connection)} {next? : Option Connection}
      (clash : ¬ (fields.map lowerName).Nodup) : Defective (.mk type id? fields inputs next?)
  | inputNames {type : String} {id? : Option String} {fields : List (String × FieldValue)}
      {inputs : List (String × Connection)} {next? : Option Connection}
      (clash : ¬ ((plugged inputs).map lowerName).Nodup) :
      Defective (.mk type id? fields inputs next?)

/-- One saved block is plugged into another, or follows it. -/
inductive SavedBlock.Holds : SavedBlock → SavedBlock → Prop where
  | input {type : String} {id? : Option String} {fields : List (String × FieldValue)}
      {inputs : List (String × Connection)} {next? : Option Connection}
      {entry : String × SavedBlock} (member : entry ∈ plugged inputs) :
      Holds (.mk type id? fields inputs next?) entry.2
  | next {type : String} {id? : Option String} {fields : List (String × FieldValue)}
      {inputs : List (String × Connection)} {next? : Option Connection} {next : SavedBlock}
      (follows : follower next? = some next) : Holds (.mk type id? fields inputs next?) next

/-- A saved block lies in the chains of a document, at any depth. -/
def SavedDocument.Reaches (document : SavedDocument) (saved : SavedBlock) : Prop :=
  ∃ head ∈ document.heads, Relation.ReflTransGen SavedBlock.Holds head saved

/-! ## The conversion, step by step -/

theorem FieldValue.text?_eq_some_iff {value : FieldValue} {text : String} :
    value.text? = some text ↔ value.Denotes text := by
  constructor
  · intro same
    cases value with
    | boolean truth =>
        cases truth <;> obtain rfl := Option.some.inj same
        · exact .false
        · exact .true
    | number own =>
        obtain rfl := Option.some.inj same
        exact .number own
    | string own =>
        obtain rfl := Option.some.inj same
        exact .string own
    | _ => cases same
  · rintro (_ | _ | _ | _) <;> rfl

/-- The text of a field, or why it has none. -/
def fieldText (blockType : String) (entry : String × FieldValue) : Except Malformed String :=
  match entry.2.text? with
  | none => .error (.notScalar entry.1 blockType)
  | some text => .ok text

theorem fieldText_eq_ok_iff {blockType text : String} {entry : String × FieldValue} :
    fieldText blockType entry = .ok text ↔ entry.2.Denotes text := by
  rw [← FieldValue.text?_eq_some_iff, fieldText]
  split
  · next none => simp [none]
  · next own found => simp [found]

theorem fieldTexts_eq_gather (blockType : String) (table : List (String × String))
    (fields : List (String × FieldValue)) :
    fieldTexts blockType table fields =
      gather (.collision .field · blockType) (fieldText blockType) table fields := by
  induction fields generalizing table with
  | nil => rfl
  | cons entry fields ih =>
      obtain ⟨rawName, value⟩ := entry
      rw [fieldTexts, gather, fieldText]
      cases value.text? with
      | none => rfl
      | some text =>
          simp only [ih, ok_bind, lowerName]
          rfl

theorem Connection.chain?_eq (connection : Connection) :
    connection.chain? = connection.block?.map SavedBlock.chain := by
  obtain ⟨block? | block, shadow? | shadow⟩ := connection <;> rfl

theorem Connection.optionalChain_eq (next? : Option Connection) :
    Connection.optionalChain next? = ((follower next?).map SavedBlock.chain).getD (.ok []) := by
  cases next? with
  | none => rfl
  | some connection => rw [Connection.optionalChain, Connection.chain?_eq]; rfl

theorem Connection.slots_eq_gather (blockType : String) (table : List (String × List Block))
    (inputs : List (String × Connection)) :
    Connection.slots blockType table inputs =
      gather (.collision .input · blockType) (fun entry => entry.2.chain) table
        (plugged inputs) := by
  induction inputs generalizing table with
  | nil => rfl
  | cons entry inputs ih =>
      obtain ⟨rawName, connection⟩ := entry
      rw [Connection.slots, Connection.chain?_eq, plugged_cons]
      cases connection.block? with
      | none => exact ih table
      | some child =>
          simp only [Option.map_some, Option.toList_some, List.singleton_append, gather, ← ih]
          cases child.chain with
          | error fault => rfl
          | ok blocks => rfl

/-- The conversion of a chain, in terms of what is gathered. -/
theorem SavedBlock.chain_eq (type : String) (id? : Option String)
    (fields : List (String × FieldValue)) (inputs : List (String × Connection))
    (next? : Option Connection) :
    SavedBlock.chain (.mk type id? fields inputs next?) = (do
      let texts ← gather (.collision .field · type) (fieldText type) [] fields
      let slots ← gather (.collision .input · type) (fun entry => entry.2.chain) []
        (plugged inputs)
      let rest ← ((follower next?).map SavedBlock.chain).getD (.ok [])
      return ⟨type, id?, texts, slots⟩ :: rest) := by
  rw [SavedBlock.chain, fieldTexts_eq_gather, Connection.slots_eq_gather,
    Connection.optionalChain_eq]

/-- **A chain is converted to the blocks for which it stands**, and is not converted where it stands
for none. -/
theorem SavedBlock.chain_eq_ok_iff (saved : SavedBlock) :
    ∀ blocks, saved.chain = .ok blocks ↔ saved.StandsFor blocks := by
  induction saved using SavedBlock.induction with
  | step type id? fields inputs next? ihInputs ihNext =>
    intro blocks
    rw [chain_eq]
    simp only [bind_eq_ok_iff, gather_eq_ok_iff_renames, fieldText_eq_ok_iff]
    constructor
    · rintro ⟨fields, ⟨fieldNames, texts⟩, slots, ⟨slotNames, chains⟩, rest, follows, same⟩
      obtain rfl := Except.ok.inj same
      refine .chain fieldNames texts slotNames ?_ ?_ ?_
      · intro entry member blocks found
        exact (ihInputs entry member blocks).mp (chains entry member blocks found)
      · intro none
        rw [none] at follows
        exact (Except.ok.inj follows).symm
      · intro next some
        rw [some] at follows
        exact (ihNext next some rest).mp follows
    · rintro ⟨fieldNames, texts, slotNames, chains, ends, goesOn⟩
      refine ⟨_, ⟨fieldNames, texts⟩, _, ⟨slotNames, ?_⟩, _, ?_, rfl⟩
      · intro entry member blocks found
        exact (ihInputs entry member blocks).mpr (chains entry member blocks found)
      · cases follows : follower next? with
        | none => rw [ends follows]; rfl
        | some next => exact (ihNext next follows _).mpr (goesOn next follows)

/-! ## Why a chain is not converted -/

/-- A saved block that cannot be converted reaches a defective one. -/
theorem SavedBlock.exists_defective (saved : SavedBlock) :
    ∀ cause, saved.chain = .error cause →
      ∃ other, Relation.ReflTransGen SavedBlock.Holds saved other ∧ other.Defective := by
  induction saved using SavedBlock.induction with
  | step type id? fields inputs next? ihInputs ihNext =>
    intro cause fails
    rw [chain_eq] at fails
    rcases bind_eq_error_iff.mp fails with fails | ⟨_, -, fails⟩
    · refine ⟨_, .refl, ?_⟩
      rcases of_gather_eq_error fails with ⟨entry, member, fails⟩ | ⟨_, _, _, found⟩ | clash
      · refine .value member fun text denotes => ?_
        rw [fieldText_eq_ok_iff.mpr denotes] at fails
        cases fails
      · cases found
      · exact .fieldNames clash
    rcases bind_eq_error_iff.mp fails with fails | ⟨_, -, fails⟩
    · rcases of_gather_eq_error fails with ⟨entry, member, fails⟩ | ⟨_, _, _, found⟩ | clash
      · obtain ⟨other, below, defective⟩ := ihInputs entry member cause fails
        exact ⟨other, .head (.input member) below, defective⟩
      · cases found
      · exact ⟨_, .refl, .inputNames clash⟩
    rcases bind_eq_error_iff.mp fails with fails | ⟨_, -, fails⟩
    · cases follows : follower next? with
      | none =>
          rw [follows] at fails
          cases fails
      | some next =>
          rw [follows] at fails
          obtain ⟨other, below, defective⟩ := ihNext next follows cause fails
          exact ⟨other, .head (.next follows) below, defective⟩
    · cases fails

/-- A saved block that stands for something is not defective. -/
theorem SavedBlock.StandsFor.not_defective {saved : SavedBlock} {blocks : List Block}
    (stands : saved.StandsFor blocks) : ¬ saved.Defective := by
  intro defective
  cases stands with
  | chain fieldNames texts slotNames chains ends goesOn =>
  cases defective with
  | value member noText =>
      obtain ⟨text, found⟩ := (fieldNames.names _).mpr ⟨_, member, rfl⟩
      exact noText text (texts _ member text found)
  | fieldNames clash => exact clash fieldNames.distinct
  | inputNames clash => exact clash slotNames.distinct

/-- Everything that is plugged into a block that stands for something, or follows it, stands for
something too. -/
theorem SavedBlock.StandsFor.of_holds {saved other : SavedBlock} {blocks : List Block}
    (stands : saved.StandsFor blocks) (holds : saved.Holds other) :
    ∃ others, other.StandsFor others := by
  cases stands with
  | chain fieldNames texts slotNames chains ends goesOn =>
  cases holds with
  | input member =>
      obtain ⟨others, found⟩ := (slotNames.names _).mpr ⟨_, member, rfl⟩
      exact ⟨others, chains _ member others found⟩
  | next follows => exact ⟨_, goesOn _ follows⟩

/-- No defective block is reached from one that stands for something. -/
theorem SavedBlock.StandsFor.not_defective_of_reaches {saved other : SavedBlock}
    {blocks : List Block} (stands : saved.StandsFor blocks)
    (below : Relation.ReflTransGen SavedBlock.Holds saved other) : ¬ other.Defective := by
  have some : ∃ others, other.StandsFor others := by
    induction below with
    | refl => exact ⟨blocks, stands⟩
    | tail _ holds ih =>
        obtain ⟨_, standsMiddle⟩ := ih
        exact standsMiddle.of_holds holds
  obtain ⟨_, standsOther⟩ := some
  exact standsOther.not_defective

/-! ## Whole documents -/

theorem chains_eq_ok_iff {heads : List SavedBlock} {blocks : List Block} :
    chains heads = .ok blocks ↔
      ∃ parts, List.Forall₂ SavedBlock.StandsFor heads parts ∧ blocks = parts.flatten := by
  induction heads generalizing blocks with
  | nil => simp [chains, eq_comm]
  | cons head heads ih =>
      simp only [chains, bind_eq_ok_iff, SavedBlock.chain_eq_ok_iff, ih,
        List.forall₂_cons_left_iff]
      constructor
      · rintro ⟨first, stands, _, ⟨parts, others, rfl⟩, same⟩
        obtain rfl := Except.ok.inj same
        exact ⟨first :: parts, ⟨first, parts, stands, others, rfl⟩, rfl⟩
      · rintro ⟨_, ⟨first, parts, stands, others, rfl⟩, rfl⟩
        exact ⟨first, stands, _, ⟨parts, others, rfl⟩, rfl⟩

theorem exists_of_chains_eq_error {heads : List SavedBlock} {cause : Malformed}
    (fails : chains heads = .error cause) : ∃ head ∈ heads, head.chain = .error cause := by
  induction heads with
  | nil => cases fails
  | cons head heads ih =>
      rcases bind_eq_error_iff.mp fails with fails | ⟨_, -, fails⟩
      · exact ⟨head, List.mem_cons_self, fails⟩
      rcases bind_eq_error_iff.mp fails with fails | ⟨_, -, fails⟩
      · obtain ⟨other, member, failsOther⟩ := ih fails
        exact ⟨other, List.mem_cons_of_mem _ member, failsOther⟩
      · cases fails

theorem exists_standsFor_of_mem {heads : List SavedBlock} {parts : List (List Block)}
    (stand : List.Forall₂ SavedBlock.StandsFor heads parts) {head : SavedBlock}
    (member : head ∈ heads) : ∃ blocks, head.StandsFor blocks := by
  induction stand with
  | nil => cases member
  | cons stands _ ih =>
      rcases List.mem_cons.mp member with rfl | member
      · exact ⟨_, stands⟩
      · exact ih member

theorem SavedDocument.workspace_eq (document : SavedDocument) :
    document.workspace = (chains document.heads).map Workspace.mk := by
  obtain ⟨none | list⟩ := document <;> rfl

/-- **Converting a document loses, duplicates and reorders nothing.** The workspace of a document is
the one that it represents; a document that reaches a defective block has none, and every other
document has one. -/
theorem SavedDocument.workspace_exact (document : SavedDocument) :
    (∀ workspace, document.workspace = .ok workspace ↔ document.Represents workspace) ∧
      ((∃ cause, document.workspace = .error cause) ↔
        ∃ saved, document.Reaches saved ∧ saved.Defective) ∧
      (⟨none⟩ : SavedDocument).workspace = .ok .empty := by
  have exactly (workspace : Workspace) :
      document.workspace = .ok workspace ↔ document.Represents workspace := by
    simp only [workspace_eq, map_eq_ok_iff, chains_eq_ok_iff, Represents]
    constructor
    · rintro ⟨_, represents, rfl⟩
      exact represents
    · intro represents
      exact ⟨workspace.blocks, represents, rfl⟩
  refine ⟨exactly, ⟨?_, ?_⟩, rfl⟩
  · rintro ⟨cause, fails⟩
    rw [workspace_eq, map_eq_error_iff] at fails
    obtain ⟨head, member, failsHead⟩ := exists_of_chains_eq_error fails
    obtain ⟨saved, below, defective⟩ := SavedBlock.exists_defective head cause failsHead
    exact ⟨saved, ⟨head, member, below⟩, defective⟩
  · rintro ⟨saved, ⟨head, member, below⟩, defective⟩
    cases result : document.workspace with
    | error cause => exact ⟨cause, rfl⟩
    | ok workspace =>
        obtain ⟨parts, stand, -⟩ := (exactly workspace).mp result
        obtain ⟨blocks, stands⟩ := exists_standsFor_of_mem stand member
        exact absurd defective (stands.not_defective_of_reaches below)

/-- Names in capitals become small ones, and a number becomes its text. -/
example :
    let light : SavedBlock := .mk "light" none [("FIELD", .number (.natural 5))] [] none
    (⟨some ⟨0, [light]⟩⟩ : SavedDocument).workspace =
      .ok ⟨[⟨"light", none, [("field", "5")], []⟩]⟩ := by
  decide +kernel

end BlockScript.Blockly
