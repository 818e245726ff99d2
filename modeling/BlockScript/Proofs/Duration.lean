import BlockScript.Duration
import BlockScript.Proofs.Fallible
import BlockScript.Proofs.Text.Trimming

/-!
# Trigger intervals written and read

Reading the text of a trigger interval gives that interval back (`Duration.parse_text`), and the
text is a single word, so it can stand between blanks (`Duration.notBlank_of_mem_text`).
-/

set_option autoImplicit false

namespace BlockScript.Duration

/-! ## The text -/

theorem toList_text (duration : Duration) :
    duration.text.toList = Nat.toDigits 10 duration.amount ++ duration.unit.suffix.toList := by
  rw [text, String.toList_append, Nat.toList_repr]

theorem isDigit_of_mem_toDigits {amount : Nat} {c : Char} (member : c ∈ Nat.toDigits 10 amount) :
    c.isDigit = true :=
  Nat.isDigit_of_mem_toDigits (by decide) (by decide) member

/-- The text of an interval is a word. -/
theorem notBlank_of_mem_text {duration : Duration} {c : Char}
    (member : c ∈ duration.text.toList) : Text.isBlank c = false := by
  have suffixSolid (unit : Duration.Unit) :
      unit.suffix.toList.all (fun d => !Text.isBlank d) = true := by
    cases unit <;> decide
  rw [toList_text] at member
  rcases List.mem_append.mp member with digit | letter
  · exact Text.isBlank_eq_false_of_isDigit (isDigit_of_mem_toDigits digit)
  · simpa using List.all_eq_true.mp (suffixSolid duration.unit) c letter

theorem text_ne_nil (duration : Duration) : duration.text.toList ≠ [] := by
  rw [toList_text]
  exact List.append_ne_nil_of_left_ne_nil Nat.toDigits_ne_nil _

theorem solid_text (duration : Duration) : Text.Solid duration.text.toList where
  first := ⟨_, List.head?_eq_some_head (text_ne_nil duration),
    notBlank_of_mem_text (List.head_mem _)⟩
  last := ⟨_, List.getLast?_eq_some_getLast (text_ne_nil duration),
    notBlank_of_mem_text (List.getLast_mem _)⟩

/-! ## Reading the text -/

/-- The digits of the text are the digits of the amount. -/
theorem takeWhile_isDigit_text (duration : Duration) :
    duration.text.toList.takeWhile Char.isDigit = Nat.toDigits 10 duration.amount := by
  have noDigit : duration.unit.suffix.toList.takeWhile Char.isDigit = [] := by
    cases duration.unit <;> rfl
  rw [toList_text, List.takeWhile_append_of_pos fun _ => isDigit_of_mem_toDigits, noDigit,
    List.append_nil]

/-- What follows the digits of the text is the suffix of the unit. -/
theorem dropWhile_isDigit_text (duration : Duration) :
    duration.text.toList.dropWhile Char.isDigit = duration.unit.suffix.toList := by
  have noDigit : duration.unit.suffix.toList.dropWhile Char.isDigit =
      duration.unit.suffix.toList := by
    cases duration.unit <;> rfl
  rw [toList_text, List.dropWhile_append_of_pos fun _ => isDigit_of_mem_toDigits, noDigit]

theorem unitAfterAmount_suffix (unit : Duration.Unit) : unitAfterAmount unit.suffix = .ok unit := by
  cases unit <;> rfl

theorem new?_amount (duration : Duration) :
    new? duration.amount duration.unit = some duration :=
  dif_pos ⟨duration.amount_pos, duration.amount_lt⟩

/-- **The text of an interval denotes that interval.** -/
theorem parse_text (duration : Duration) : parse duration.text = .ok duration := by
  have digits := takeWhile_isDigit_text duration
  have suffix := dropWhile_isDigit_text duration
  have fits : ¬ duration.amount ≥ limit := Nat.not_le.mpr duration.amount_lt
  have someDigit : (Nat.toDigits 10 duration.amount).isEmpty = false :=
    List.isEmpty_eq_false_iff.mpr Nat.toDigits_ne_nil
  rw [parse, (solid_text duration).trim_eq, parseTrimmed]
  simp only [digits, suffix, someDigit, Nat.ofDigitChars_ten_toDigits, fits, String.ofList_toList,
    unitAfterAmount_suffix, Bool.false_eq_true, ↓reduceIte, ok_bind]
  rw [new?_amount]
  rfl

end BlockScript.Duration
