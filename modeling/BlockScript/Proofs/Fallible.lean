import Mathlib.Tactic.Common

/-!
# Steps that may fail

How computations that may fail are taken apart: a sequence of two succeeds when both do, and fails
with the failure of the first that does.

A computation that stops at its first failure is also described by everything that is wrong, in the
order in which it would be met, and by its value where nothing is: `report` puts the two together.
A sequence of reports is the report of all their failures (`report_bind`), so what a whole
computation reports follows from its steps.
-/

set_option autoImplicit false

namespace BlockScript

universe u v

variable {ε : Type u} {α β : Type v}

@[simp] theorem ok_bind (value : α) (next : α → Except ε β) :
    (Except.ok value >>= next) = next value :=
  rfl

@[simp] theorem error_bind (error : ε) (next : α → Except ε β) :
    (Except.error error >>= next) = Except.error error :=
  rfl

/-- A sequence succeeds when both of its steps do. -/
theorem bind_eq_ok_iff {first : Except ε α} {next : α → Except ε β} {result : β} :
    (first >>= next) = .ok result ↔ ∃ value, first = .ok value ∧ next value = .ok result := by
  cases first with
  | error error => simp
  | ok value => simp

/-- A sequence fails when its first step does, or the step after it. -/
theorem bind_eq_error_iff {first : Except ε α} {next : α → Except ε β} {error : ε} :
    (first >>= next) = .error error ↔
      first = .error error ∨ ∃ value, first = .ok value ∧ next value = .error error := by
  cases first with
  | error other => simp
  | ok value => simp

theorem mapError_eq_ok_iff {ε' : Type u} {first : Except ε α} {f : ε → ε'} {result : α} :
    first.mapError f = .ok result ↔ first = .ok result := by
  cases first with
  | error error => simp [Except.mapError]
  | ok value => simp [Except.mapError]

theorem map_eq_ok_iff {first : Except ε α} {f : α → β} {result : β} :
    first.map f = .ok result ↔ ∃ value, first = .ok value ∧ f value = result := by
  cases first with
  | error error => simp [Except.map]
  | ok value => simp [Except.map]

theorem map_eq_error_iff {first : Except ε α} {f : α → β} {error : ε} :
    first.map f = .error error ↔ first = .error error := by
  cases first with
  | error other => simp [Except.map]
  | ok value => simp [Except.map]

/-! ## The first of several failures -/

/-- The first of some failures; a value where there is none. -/
def report (failures : List ε) (value : α) : Except ε α :=
  match failures with
  | [] => .ok value
  | first :: _ => .error first

@[simp] theorem report_nil (value : α) : report ([] : List ε) value = .ok value := rfl

theorem report_cons (first : ε) (rest : List ε) (value : α) :
    report (first :: rest) value = .error first :=
  rfl

theorem report_eq_ok_iff {failures : List ε} {value result : α} :
    report failures value = .ok result ↔ failures = [] ∧ value = result := by
  cases failures with
  | nil => simp
  | cons first rest => simp [report_cons]

theorem report_eq_error_iff {failures : List ε} {value : α} {error : ε} :
    report failures value = .error error ↔ failures.head? = some error := by
  cases failures with
  | nil => simp
  | cons first rest => simp [report_cons]

/-- **A sequence reports the first failure of its steps.** -/
theorem report_bind {failures more : List ε} {value : α} {next : α → Except ε β} {result : β}
    (later : next value = report more result) :
    (report failures value >>= next) = report (failures ++ more) result := by
  cases failures with
  | nil => exact later
  | cons first rest => rfl

theorem report_map (failures : List ε) (value : α) (f : α → β) :
    (report failures value).map f = report failures (f value) := by
  cases failures with
  | nil => rfl
  | cons first rest => rfl

theorem report_mapError {ε' : Type u} (failures : List ε) (value : α) (f : ε → ε') :
    (report failures value).mapError f = report (failures.map f) value := by
  cases failures with
  | nil => rfl
  | cons first rest => rfl

/-- The first failure of two lists is that of the first, unless it is empty. -/
theorem head?_append_eq_some_iff {failures more : List ε} {error : ε} :
    (failures ++ more).head? = some error ↔
      failures.head? = some error ∨ failures = [] ∧ more.head? = some error := by
  cases failures with
  | nil => simp
  | cons first rest => simp

/-- The failure of a computation, where it fails. -/
def failuresOf : Except ε α → List ε
  | .ok _ => []
  | .error error => [error]

/-- A computation reports its failure, and the value that it can only have. -/
theorem eq_report_failuresOf {computation : Except ε α} {value : α}
    (only : ∀ result, computation = .ok result → result = value) :
    computation = report (failuresOf computation) value := by
  cases computation with
  | error error => rfl
  | ok result => rw [only result rfl, failuresOf, report_nil]

/-- A step that can only have one value, and what follows it. -/
theorem bind_eq_report {first : Except ε α} {value : α} {next : α → Except ε β} {more : List ε}
    {result : β} (only : ∀ other, first = .ok other → other = value)
    (later : next value = report more result) :
    (first >>= next) = report (failuresOf first ++ more) result := by
  conv_lhs => rw [eq_report_failuresOf only]
  exact report_bind later

theorem mem_failuresOf_iff {computation : Except ε α} {error : ε} :
    error ∈ failuresOf computation ↔ computation = .error error := by
  cases computation with
  | error other => simp [failuresOf, eq_comm]
  | ok result => simp [failuresOf]

theorem head?_failuresOf_iff {computation : Except ε α} {error : ε} :
    (failuresOf computation).head? = some error ↔ computation = .error error := by
  cases computation with
  | error other => simp [failuresOf]
  | ok result => simp [failuresOf]

theorem failuresOf_eq_nil_iff {computation : Except ε α} :
    failuresOf computation = [] ↔ ∃ value, computation = .ok value := by
  cases computation with
  | error error => simp [failuresOf]
  | ok result => simp [failuresOf]

end BlockScript
