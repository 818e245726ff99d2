import BlockScript.Compile.Lowering
import BlockScript.Proofs.Fallible

/-!
# The texts of fields

When the compiler accepts the text of a field and what it makes of it, and with which words it
refuses any other text: for the name of an action (`actionName`), a trigger interval (`trigger`), a
condition (`condition`) and a topic (`topic`). A field that is read must also be there
(`bind_requiredField_eq_ok_iff`, `bind_requiredField_eq_error_iff`).
-/

set_option autoImplicit false

namespace BlockScript.Lowering

open Script (isIdentifier)

variable {value : String} {fault : BlockFault}

/-! ## Names -/

theorem actionName_eq_ok_iff {name : String} :
    actionName value = .ok name ↔
      isIdentifier (Text.trimmed value) = true ∧ Text.trimmed value = name := by
  simp only [actionName]
  split <;> simp_all

theorem actionName_eq_error_iff :
    actionName value = .error fault ↔
      isIdentifier (Text.trimmed value) = false ∧
        BlockFault.invalidField "name" (.notIdentifier (Text.trimmed value)) = fault := by
  simp only [actionName]
  split <;> simp_all

/-! ## Trigger intervals -/

theorem trigger_eq_ok_iff {every : Duration} :
    trigger value = .ok every ↔ Duration.parse value = .ok every := by
  unfold trigger
  cases Duration.parse value <;> simp [Except.mapError]

theorem trigger_eq_error_iff :
    trigger value = .error fault ↔
      ∃ reason, Duration.parse value = .error reason ∧
        BlockFault.invalidField "every" (.duration reason) = fault := by
  unfold trigger
  cases Duration.parse value <;> simp [Except.mapError]

/-! ## Conditions -/

theorem any_lineEnd_iff {cs : List Char} :
    (cs.any fun c => c == '\n' || c == '\r') = true ↔ '\n' ∈ cs ∨ '\r' ∈ cs := by
  simp only [List.any_eq_true, Bool.or_eq_true, beq_iff_eq]
  constructor
  · rintro ⟨c, member, rfl | rfl⟩
    · exact .inl member
    · exact .inr member
  · rintro (feed | carriageReturn)
    · exact ⟨_, feed, .inl rfl⟩
    · exact ⟨_, carriageReturn, .inr rfl⟩

theorem condition_eq_ok_iff {text : String} :
    condition value = .ok text ↔
      (Text.trimmed value ≠ "" ∧ '\n' ∉ (Text.trimmed value).toList ∧
        '\r' ∉ (Text.trimmed value).toList) ∧ Text.trimmed value = text := by
  simp only [condition, String.isEmpty_iff, any_lineEnd_iff, ← not_or]
  split
  · simp_all
  split <;> simp_all

theorem condition_eq_error_iff :
    condition value = .error fault ↔
      (Text.trimmed value = "" ∧ BlockFault.invalidField "condition" .emptyCondition = fault) ∨
        (('\n' ∈ (Text.trimmed value).toList ∨ '\r' ∈ (Text.trimmed value).toList) ∧
          BlockFault.invalidField "condition" .brokenCondition = fault) := by
  simp only [condition, String.isEmpty_iff, any_lineEnd_iff]
  split
  · simp_all
  split <;> simp_all

/-! ## Topics -/

theorem topic_eq_ok_iff {text : String} :
    topic value = .ok text ↔ Text.isAllBlank value.toList = false ∧ value = text := by
  simp only [topic]
  split <;> simp_all

theorem topic_eq_error_iff :
    topic value = .error fault ↔
      Text.isAllBlank value.toList = true ∧
        BlockFault.invalidField "topic" .emptyTopic = fault := by
  simp only [topic]
  split <;> simp_all

/-! ## Fields that must be there -/

variable {α : Type} {block : Block} {field : String}

theorem requiredField_eq_ok_iff :
    requiredField block field = .ok value ↔ block.field? field = some value := by
  unfold requiredField
  cases block.field? field <;> simp

theorem requiredField_eq_error_iff :
    requiredField block field = .error fault ↔
      block.field? field = none ∧ BlockFault.missingField block.type field = fault := by
  unfold requiredField
  cases block.field? field <;> simp

/-- A field is read when it is there and its text is accepted. -/
theorem bind_requiredField_eq_ok_iff {read : String → Except BlockFault α} {result : α} :
    (requiredField block field >>= read) = .ok result ↔
      ∃ text, block.field? field = some text ∧ read text = .ok result := by
  simp only [bind_eq_ok_iff, requiredField_eq_ok_iff]

/-- A field is refused when it is missing or its text is. -/
theorem bind_requiredField_eq_error_iff {read : String → Except BlockFault α} :
    (requiredField block field >>= read) = .error fault ↔
      (block.field? field = none ∧ BlockFault.missingField block.type field = fault) ∨
        ∃ text, block.field? field = some text ∧ read text = .error fault := by
  unfold requiredField
  cases block.field? field <;> simp

end BlockScript.Lowering
