import BlockScript.Compile.Options
import BlockScript.Proofs.Duration
import BlockScript.Proofs.Json.Written
import Mathlib.Data.Nat.Digits.Defs

/-!
# The grammar of trigger intervals

A text denotes a trigger interval when, without the blanks around it, it is a run of decimal digits
and the name of a unit, which may be missing (`Denotes`). The digits may start with zeros, and what
they stand for (`decimalValue`) has to be positive and to fit into 64 bits. Every other text is
refused for the first of four reasons that applies (`Refuses`).

The reader of intervals decides this grammar: it follows either relation
(`Denotes.exists_parseTrimmed`, `Refuses.parseTrimmed_eq`), and every text is in one of them
(`denotes_or_refuses`). What is written for an interval, as a text of its own or as JSON, is read as
that interval again (`parse_exact`).
-/

set_option autoImplicit false

namespace BlockScript.Duration

/-! ## Digits -/

/-- The number for which a decimal digit stands. -/
def digitValue (c : Char) : Nat := c.toNat - '0'.toNat

/-- The number for which decimal digits stand, the last of them counting ones. -/
def decimalValue (digits : List Char) : Nat := Nat.ofDigits 10 (digits.reverse.map digitValue)

/-- **Digits are read as what they stand for.** -/
theorem ofDigitChars_eq_decimalValue (digits : List Char) :
    Nat.ofDigitChars 10 digits 0 = decimalValue digits := by
  induction digits using List.reverseRecOn with
  | nil => rfl
  | append_singleton digits last ih =>
      have whole : decimalValue (digits ++ [last]) =
          digitValue last + 10 * decimalValue digits := by
        rw [decimalValue, List.reverse_append, List.reverse_singleton, List.singleton_append,
          List.map_cons, Nat.ofDigits_cons, decimalValue]
      rw [Nat.ofDigitChars_append, ih, whole, Nat.ofDigitChars_cons, Nat.ofDigitChars_nil,
        digitValue, Nat.add_comm]

/-- A text is a run of digits and then something that starts with none. -/
structure DigitRun (text digits rest : List Char) : Prop where
  /-- The text. -/
  whole : text = digits ++ rest
  /-- There are only digits in the run. -/
  digits : ∀ c ∈ digits, c.isDigit = true
  /-- The run goes on as long as there are digits. -/
  ends : ∀ c ∈ rest.head?, c.isDigit = false

/-- Every text starts with a run of digits, which may be empty. -/
theorem exists_digitRun (text : List Char) : ∃ digits rest, DigitRun text digits rest := by
  refine ⟨text.takeWhile Char.isDigit, text.dropWhile Char.isDigit,
    List.takeWhile_append_dropWhile.symm, fun c member => List.mem_takeWhile_imp member, ?_⟩
  intro c starts
  have stops := List.head?_dropWhile_not Char.isDigit text
  rw [Option.mem_def.mp starts] at stops
  exact stops

section

variable {text digits rest : List Char}

namespace DigitRun

theorem takeWhile_eq (run : DigitRun text digits rest) : text.takeWhile Char.isDigit = digits := by
  have noDigit : rest.takeWhile Char.isDigit = [] := by
    cases rest with
    | nil => rfl
    | cons c rest => exact List.takeWhile_cons_of_neg (by simp [run.ends c rfl])
  rw [run.whole, List.takeWhile_append_of_pos run.digits, noDigit, List.append_nil]

theorem dropWhile_eq (run : DigitRun text digits rest) : text.dropWhile Char.isDigit = rest := by
  have noDigit : rest.dropWhile Char.isDigit = rest := by
    cases rest with
    | nil => rfl
    | cons c rest => exact List.dropWhile_cons_of_neg (by simp [run.ends c rfl])
  rw [run.whole, List.dropWhile_append_of_pos run.digits, noDigit]

/-- A text that does not start with a digit has an empty run. -/
theorem of_noDigit (noDigit : ∀ c ∈ text.head?, c.isDigit = false) : DigitRun text [] text where
  whole := rfl
  digits := List.forall_mem_nil _
  ends := noDigit

theorem noDigit (run : DigitRun text [] rest) : ∀ c ∈ text.head?, c.isDigit = false := by
  rw [run.whole]
  exact run.ends

end DigitRun

end

/-! ## Units -/

/-- How a unit is named after an amount; nothing stands for seconds. -/
inductive Names : List Char → Duration.Unit → Prop where
  | nothing : Names [] .seconds
  | milliseconds : Names ['m', 's'] .milliseconds
  | seconds : Names ['s'] .seconds
  | minutes : Names ['m'] .minutes
  | hours : Names ['h'] .hours

/-- No unit has a name that starts with a digit. -/
theorem Names.noDigit {name : List Char} {unit : Duration.Unit} (names : Names name unit) :
    ∀ c ∈ name.head?, c.isDigit = false := by
  cases names <;> simp

/-- **Units are read by their names.** -/
theorem unitAfterAmount_eq_ok_iff {name : List Char} {unit : Duration.Unit} :
    unitAfterAmount (String.ofList name) = .ok unit ↔ Names name unit := by
  constructor
  · intro reads
    unfold unitAfterAmount at reads
    split at reads
    · next empty =>
      obtain rfl := Except.ok.inj reads
      have none : name = [] := by simpa using empty
      exact none ▸ .nothing
    · split at reads
      · next other known =>
        obtain rfl := Except.ok.inj reads
        have spelled : other.suffix.toList = name := by
          have found := List.find?_some known
          rw [beq_iff_eq.mp found, String.toList_ofList]
        subst spelled
        cases other with
        | milliseconds => exact .milliseconds
        | seconds => exact .seconds
        | minutes => exact .minutes
        | hours => exact .hours
      · cases reads
  · rintro (_ | _) <;> rfl

/-- What names no unit is refused as such. -/
theorem unitAfterAmount_of_unknown {name : List Char} (unknown : ∀ unit, ¬ Names name unit) :
    unitAfterAmount (String.ofList name) = .error (.unknownUnit (String.ofList name)) := by
  cases reads : unitAfterAmount (String.ofList name) with
  | ok unit => exact absurd (unitAfterAmount_eq_ok_iff.mp reads) (unknown unit)
  | error fault =>
      unfold unitAfterAmount at reads
      split at reads
      · cases reads
      · split at reads
        · cases reads
        · exact congrArg Except.error (Except.error.inj reads).symm

/-! ## Texts -/

theorem limit_eq : limit = 2 ^ 64 := by
  rfl

section

variable {text digits rest : List Char}

/-- How a run of digits and what comes after it are read. -/
theorem parseTrimmed_of_run (run : DigitRun text digits rest) (nonempty : digits ≠ []) :
    parseTrimmed text =
      if 2 ^ 64 ≤ decimalValue digits then .error (.outOfRange (String.ofList text))
      else unitAfterAmount (String.ofList rest) >>= fun unit =>
        (new? (decimalValue digits) unit).elim (.error .zero) .ok := by
  have someDigit : digits.isEmpty = false := List.isEmpty_eq_false_iff.mpr nonempty
  rw [parseTrimmed]
  simp only [run.takeWhile_eq, run.dropWhile_eq, someDigit, ofDigitChars_eq_decimalValue, limit_eq,
    ge_iff_le, Bool.false_eq_true, ↓reduceIte]
  split
  · rfl
  · cases unitAfterAmount (String.ofList rest) with
    | error fault => rfl
    | ok unit =>
        rw [ok_bind, ok_bind]
        cases new? (decimalValue digits) unit <;> rfl

/-- A run of digits and the name of a unit make up an interval: the amount for which the digits
stand, which is positive and fits into 64 bits, and the unit. -/
inductive Denotes : List Char → Nat → Duration.Unit → Prop where
  | intro {digits name : List Char} {unit : Duration.Unit} (nonempty : digits ≠ [])
      (onlyDigits : ∀ c ∈ digits, c.isDigit = true) (positive : 1 ≤ decimalValue digits)
      (fits : decimalValue digits ≤ 2 ^ 64 - 1) (names : Names name unit) :
      Denotes (digits ++ name) (decimalValue digits) unit

/-- **A text is read as the interval that it denotes.** -/
theorem Denotes.exists_parseTrimmed {amount : Nat} {unit : Duration.Unit}
    (denotes : Denotes text amount unit) :
    ∃ duration, parseTrimmed text = .ok duration ∧ duration.amount = amount ∧
      duration.unit = unit := by
  obtain @⟨digits, name, unit, nonempty, onlyDigits, positive, fits, names⟩ := denotes
  have run : DigitRun (digits ++ name) digits name := ⟨rfl, onlyDigits, names.noDigit⟩
  have small : ¬ 2 ^ 64 ≤ decimalValue digits := by omega
  have below : decimalValue digits < limit := by
    rw [limit_eq]
    omega
  refine ⟨⟨decimalValue digits, unit, positive, below⟩, ?_, rfl, rfl⟩
  rw [parseTrimmed_of_run run nonempty, if_neg small, unitAfterAmount_eq_ok_iff.mpr names, ok_bind,
    new?, dif_pos ⟨positive, below⟩]
  rfl

/-- Why a text is refused, the first reason that applies being the one that counts. -/
inductive Refuses (text : List Char) : Duration.ReadError → Prop where
  /-- The text does not start with a digit. -/
  | missingAmount (noDigit : ∀ c ∈ text.head?, c.isDigit = false) :
      Refuses text (.missingAmount (String.ofList text))
  /-- The digits stand for too large a number, whatever comes after them. -/
  | outOfRange {digits rest : List Char} (run : DigitRun text digits rest)
      (nonempty : digits ≠ []) (large : 2 ^ 64 ≤ decimalValue digits) :
      Refuses text (.outOfRange (String.ofList text))
  /-- What comes after the digits names no unit. -/
  | unknownUnit {digits rest : List Char} (run : DigitRun text digits rest)
      (nonempty : digits ≠ []) (small : decimalValue digits < 2 ^ 64)
      (unknown : ∀ unit, ¬ Names rest unit) : Refuses text (.unknownUnit (String.ofList rest))
  /-- The digits stand for zero. -/
  | zero {digits name : List Char} {unit : Duration.Unit} (run : DigitRun text digits name)
      (nonempty : digits ≠ []) (isZero : decimalValue digits = 0) (names : Names name unit) :
      Refuses text .zero

/-- **A text is refused for the first reason that applies.** -/
theorem Refuses.parseTrimmed_eq {error : Duration.ReadError} (refuses : Refuses text error) :
    parseTrimmed text = .error error := by
  cases refuses with
  | missingAmount noDigit =>
      have empty := (DigitRun.of_noDigit noDigit).takeWhile_eq
      simp only [parseTrimmed, empty, List.isEmpty_nil, ↓reduceIte]
      rfl
  | outOfRange run nonempty large => rw [parseTrimmed_of_run run nonempty, if_pos large]
  | unknownUnit run nonempty small unknown =>
      rw [parseTrimmed_of_run run nonempty, if_neg (Nat.not_le.mpr small),
        unitAfterAmount_of_unknown unknown]
      rfl
  | zero run nonempty isZero names =>
      rw [parseTrimmed_of_run run nonempty, isZero, if_neg (by decide),
        unitAfterAmount_eq_ok_iff.mpr names]
      rfl

/-- **Every text denotes an interval or is refused.** -/
theorem denotes_or_refuses (text : List Char) :
    (∃ amount unit, Denotes text amount unit) ∨ ∃ error, Refuses text error := by
  obtain ⟨digits, rest, run⟩ := exists_digitRun text
  by_cases empty : digits = []
  · subst empty
    exact .inr ⟨_, .missingAmount run.noDigit⟩
  by_cases large : 2 ^ 64 ≤ decimalValue digits
  · exact .inr ⟨_, .outOfRange run empty large⟩
  by_cases known : ∃ unit, Names rest unit
  · obtain ⟨unit, names⟩ := known
    by_cases isZero : decimalValue digits = 0
    · exact .inr ⟨_, .zero run empty isZero names⟩
    · have denotes := Denotes.intro empty run.digits (by omega) (by omega) names
      exact .inl ⟨_, unit, run.whole ▸ denotes⟩
  · exact .inr ⟨_, .unknownUnit run empty (by omega) (not_exists.mp known)⟩

end

/-! ## JSON -/

/-- The text of an interval has nothing in it that JSON would escape. -/
theorem escapeChar_of_mem_text {duration : Duration} {c : Char}
    (member : c ∈ duration.text.toList) : Json.escapeChar c = [c] := by
  have letters (unit : Duration.Unit) :
      (unit.suffix.toList.all fun d => Json.escapeChar d == [d]) = true := by
    cases unit <;> decide
  rw [toList_text] at member
  rcases List.mem_append.mp member with digit | letter
  · have bounds := Char.isDigit_iff_toNat.mp (isDigit_of_mem_toDigits digit)
    have first : '0'.toNat = 48 := rfl
    unfold Json.escapeChar
    split
    case h_8 => exact if_neg (by omega)
    all_goals exact absurd bounds (by decide)
  · exact beq_iff_eq.mp (List.all_eq_true.mp (letters duration.unit) c letter)

/-- An interval is written as JSON in the way of every string. -/
theorem toJson_eq_pretty (duration : Duration) :
    duration.toJson = (Json.Form.string duration.text).pretty := by
  have plain : duration.text.toList.flatMap Json.escapeChar = duration.text.toList := by
    rw [List.flatMap_congr fun c member => escapeChar_of_mem_text member, List.flatMap_singleton']
  rw [toJson, Json.Form.pretty, Json.Form.prettyAt, Json.stringChars, plain]

/-- **An interval written as JSON is read back.** -/
theorem read_toJson (duration : Duration) : ofJson duration.toJson = .ok duration := by
  rw [ofJson, Json.Document.read, toJson_eq_pretty, Json.Document.ofText_pretty]
  simp only [Json.Form.node, Json.Quoted.whole, Options.readTrigger, Json.Node.readString, ok_bind,
    parse_text]
  rfl

/-! ## The reader -/

/-- **Interval texts are read exactly, and what is written for an interval is read as that
interval.** -/
theorem parse_exact :
    (∀ (text : String) (amount : Nat) (unit : Duration.Unit),
      (∃ duration, parse text = .ok duration ∧ duration.amount = amount ∧ duration.unit = unit) ↔
        Denotes (Text.trim text.toList) amount unit) ∧
    (∀ (text : String) (error : Duration.ReadError),
      parse text = .error error ↔ Refuses (Text.trim text.toList) error) ∧
    ∀ duration : Duration,
      parse duration.text = .ok duration ∧ ofJson duration.toJson = .ok duration := by
  refine ⟨fun text amount unit => ⟨?_, Denotes.exists_parseTrimmed⟩,
    fun text error => ⟨fun fails => ?_, Refuses.parseTrimmed_eq⟩,
    fun duration => ⟨parse_text duration, read_toJson duration⟩⟩
  · rintro ⟨duration, reads, rfl, rfl⟩
    have decided := denotes_or_refuses (Text.trim text.toList)
    rcases decided with ⟨amount, unit, denotes⟩ | ⟨error, refuses⟩
    · obtain ⟨other, readsOther, rfl, rfl⟩ := denotes.exists_parseTrimmed
      obtain rfl := Except.ok.inj (readsOther.symm.trans reads)
      exact denotes
    · cases refuses.parseTrimmed_eq.symm.trans reads
  · have decided := denotes_or_refuses (Text.trim text.toList)
    rcases decided with ⟨amount, unit, denotes⟩ | ⟨other, refuses⟩
    · obtain ⟨duration, reads, -⟩ := denotes.exists_parseTrimmed
      cases reads.symm.trans fails
    · obtain rfl := Except.error.inj (refuses.parseTrimmed_eq.symm.trans fails)
      exact refuses

end BlockScript.Duration
