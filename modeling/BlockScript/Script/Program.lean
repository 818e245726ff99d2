import BlockScript.Duration

/-!
# Programs

What a script says, apart from its layout: timed actions, each with a body of statements. A
statement publishes a payload under a topic, or chooses between two branches by a condition. The
condition is text of another language, which this library carries and never looks into.

An empty second branch means that there is no `ELSE`.
-/

set_option autoImplicit false

namespace BlockScript.Script

/-- A statement of an action. -/
inductive Statement where
  /-- Runs one of two branches, by a condition. -/
  | conditional (condition : String) (thenBranch elseBranch : List Statement)
  /-- Sends a payload under a topic. -/
  | publish (topic payload : String)

/-- A named list of statements that runs at regular intervals. -/
structure Action where
  /-- The name, by which the action is known. -/
  name : String
  /-- How often the action runs. -/
  every : Duration
  /-- What it does. -/
  body : List Statement

/-- The actions of a script, in order. -/
structure Program where
  /-- The actions, in order. -/
  actions : List Action

/-! ## Equality -/

mutual
/-- Equality of statements is decided branch by branch. -/
def Statement.decEq : (s t : Statement) → Decidable (s = t)
  | .publish topic payload, .publish topic' payload' =>
    if same : topic = topic' ∧ payload = payload' then isTrue (by simp [same])
    else isFalse (by simpa using same)
  | .publish .., .conditional .. => isFalse nofun
  | .conditional .., .publish .. => isFalse nofun
  | .conditional condition yes no, .conditional condition' yes' no' =>
    if same : condition = condition' then
      match Statement.decEqList yes yes' with
      | isFalse differ => isFalse (by simp [differ])
      | isTrue sameYes =>
        match Statement.decEqList no no' with
        | isFalse differ => isFalse (by simp [differ])
        | isTrue sameNo => isTrue (by simp [same, sameYes, sameNo])
    else isFalse (by simp [same])

/-- Equality of lists of statements. -/
def Statement.decEqList : (ss ts : List Statement) → Decidable (ss = ts)
  | [], [] => isTrue rfl
  | [], _ :: _ => isFalse nofun
  | _ :: _, [] => isFalse nofun
  | s :: ss, t :: ts =>
    match Statement.decEq s t with
    | isFalse differ => isFalse (by simp [differ])
    | isTrue sameHead =>
      match Statement.decEqList ss ts with
      | isFalse differ => isFalse (by simp [differ])
      | isTrue sameTail => isTrue (by simp [sameHead, sameTail])
end

instance : DecidableEq Statement := Statement.decEq

deriving instance DecidableEq for Action, Program

/-! ## Size -/

mutual
/-- The number of statements in a statement, itself included. -/
def Statement.count : Statement → Nat
  | .publish .. => 1
  | .conditional _ thenBranch elseBranch =>
    1 + Statement.countAll thenBranch + Statement.countAll elseBranch

/-- The number of statements in a list, nested ones included. -/
def Statement.countAll : List Statement → Nat
  | [] => 0
  | statement :: rest => statement.count + Statement.countAll rest
end

namespace Program

/-- The program without actions. -/
def empty : Program := ⟨[]⟩

/-- Holds of the program without actions. -/
def isEmpty (program : Program) : Bool := program.actions.isEmpty

/-- The number of statements of a program, nested ones included. -/
def statementCount (program : Program) : Nat :=
  program.actions.foldr (fun action count => Statement.countAll action.body + count) 0

end Program

end BlockScript.Script
