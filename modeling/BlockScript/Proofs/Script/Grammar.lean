import BlockScript.Proofs.Script.Sentence

/-!
# The grammar of scripts, and well-formed programs

Which lines spell which statements, said without the reader: `Spells depth lines statements` is the
grammar of a block, in which indentation alone says where a branch ends, and `SpellsActions` the
grammar of a whole script. Both look at the depth and the text of each line and not at its number.

A program is well formed when its actions have identifiers for names, no body and no first branch
is empty, and every condition is a solid text on one line. The lines of the writer spell every
well-formed program (`SpellsActions.of_wellFormed`), and lines without line feeds spell no other
(`SpellsActions.wellFormed`).
-/

set_option autoImplicit false

namespace BlockScript.Script

/-! ## The grammar -/

/-- Lines that spell statements at a depth, with branches one level deeper. -/
inductive Spells : Nat → List Line → List Statement → Prop where
  | nil (depth : Nat) : Spells depth [] []
  | publish {depth : Nat} {text : List Char} {topic payload : String} {rest : List Line}
      {statements : List Statement}
      (read : Sentence.read text = .ok (.publish topic payload))
      (later : Spells depth rest statements) :
      Spells depth (⟨depth, text⟩ :: rest) (.publish topic payload :: statements)
  | conditional {depth : Nat} {text : List Char} {condition : String} {yes rest : List Line}
      {thenBranch statements : List Statement}
      (read : Sentence.read text = .ok (.condition condition))
      (first : Spells (depth + 1) yes thenBranch) (firstNonempty : thenBranch ≠ [])
      (later : Spells depth rest statements) :
      Spells depth (⟨depth, text⟩ :: (yes ++ rest))
        (.conditional condition thenBranch [] :: statements)
  | alternative {depth : Nat} {text : List Char} {condition : String} {yes no rest : List Line}
      {thenBranch elseBranch statements : List Statement}
      (read : Sentence.read text = .ok (.condition condition))
      (first : Spells (depth + 1) yes thenBranch) (firstNonempty : thenBranch ≠ [])
      (second : Spells (depth + 1) no elseBranch) (secondNonempty : elseBranch ≠ [])
      (later : Spells depth rest statements) :
      Spells depth (⟨depth, text⟩ :: (yes ++ ⟨depth, Keyword.ELSE.chars⟩ :: (no ++ rest)))
        (.conditional condition thenBranch elseBranch :: statements)

/-- The first line of an action that is not the first one of its script. -/
def startsDefine (text : List Char) : Bool := "DEFINE ".toList.isPrefixOf text

/-- Lines that spell actions. Where another action follows, its header starts with the very text
by which the body before it ends. -/
inductive SpellsActions : List Line → List Action → Prop where
  | nil : SpellsActions [] []
  | cons {text : List Char} {action : Action} {body rest : List Line} {actions : List Action}
      (read : Header.read text = .ok ⟨action.name, action.every⟩)
      (own : Spells 0 body action.body) (nonempty : action.body ≠ [])
      (later : SpellsActions rest actions)
      (opens : ∀ line ∈ rest.head?, startsDefine line.text = true) :
      SpellsActions (⟨0, text⟩ :: (body ++ rest)) (action :: actions)

/-- Blocks at one depth that follow each other are one block. -/
theorem Spells.append {depth : Nat} {lines more : List Line} {statements others : List Statement}
    (first : Spells depth lines statements) (second : Spells depth more others) :
    Spells depth (lines ++ more) (statements ++ others) := by
  induction first with
  | nil => exact second
  | publish read _ ih => exact .publish read (ih second)
  | conditional read yes firstNonempty _ _ ih =>
      rw [List.cons_append, List.append_assoc]
      exact .conditional read yes firstNonempty (ih second)
  | alternative read yes firstNonempty no secondNonempty _ _ _ ih =>
      rw [List.cons_append, List.append_assoc, List.cons_append, List.append_assoc]
      exact .alternative read yes firstNonempty no secondNonempty (ih second)

/-- Scripts that follow each other are one script, if the second one opens as a further action
has to. -/
theorem SpellsActions.append {lines more : List Line} {actions others : List Action}
    (first : SpellsActions lines actions) (second : SpellsActions more others)
    (opens : lines ≠ [] → ∀ line ∈ more.head?, startsDefine line.text = true) :
    SpellsActions (lines ++ more) (actions ++ others) := by
  induction first with
  | nil => exact second
  | @cons text action body rest actions read own nonempty _ opensNext ih =>
      have opensMore := opens (List.cons_ne_nil _ _)
      rw [List.cons_append, List.append_assoc, List.cons_append]
      refine .cons read own nonempty (ih fun _ => opensMore) fun line starts => ?_
      cases rest with
      | nil => exact opensMore line starts
      | cons next rest => exact opensNext line starts

/-- A further action after spelled ones. -/
theorem SpellsActions.concat {lines body : List Line} {actions : List Action} {text : List Char}
    {action : Action} (earlier : SpellsActions lines actions)
    (read : Header.read text = .ok ⟨action.name, action.every⟩)
    (own : Spells 0 body action.body) (nonempty : action.body ≠ [])
    (opens : lines ≠ [] → startsDefine text = true) :
    SpellsActions (lines ++ ⟨0, text⟩ :: body) (actions ++ [action]) := by
  have alone := SpellsActions.cons read own nonempty .nil (by simp)
  rw [List.append_nil] at alone
  refine earlier.append alone fun something line starts => ?_
  cases starts
  exact opens something

/-! ## Well-formed programs -/

mutual
/-- A statement that a script can say: its conditions are solid texts on one line, and no first
branch is empty. -/
def Statement.WellFormed : Statement → Prop
  | .publish .. => True
  | .conditional condition thenBranch elseBranch =>
    (condition ≠ "" ∧ Text.trimmed condition = condition ∧ '\n' ∉ condition.toList) ∧
      thenBranch ≠ [] ∧ Statement.WellFormedAll thenBranch ∧ Statement.WellFormedAll elseBranch

/-- Every statement of a list is well formed. -/
def Statement.WellFormedAll : List Statement → Prop
  | [] => True
  | statement :: rest => statement.WellFormed ∧ Statement.WellFormedAll rest
end

/-- An action that a script can say. -/
structure Action.WellFormed (action : Action) : Prop where
  /-- The name is an identifier. -/
  identifier : isIdentifier action.name = true
  /-- There is a statement in the body. -/
  nonempty : action.body ≠ []
  /-- Every statement is well formed. -/
  body : Statement.WellFormedAll action.body

/-- A program that a script can say. -/
def Program.WellFormed (program : Program) : Prop := ∀ action ∈ program.actions, action.WellFormed

theorem Statement.wellFormedAll_append {statements others : List Statement} :
    Statement.WellFormedAll (statements ++ others) ↔
      Statement.WellFormedAll statements ∧ Statement.WellFormedAll others := by
  induction statements with
  | nil => simp [Statement.WellFormedAll]
  | cons statement statements ih => simp [Statement.WellFormedAll, ih, and_assoc]

/-- A condition that is not empty and equal to its trimmed form is a solid text. -/
theorem solid_toList_iff {text : String} :
    Text.Solid text.toList ↔ text ≠ "" ∧ Text.trimmed text = text := by
  have empty : text.toList ≠ [] ↔ text ≠ "" := by simp
  have same : Text.trim text.toList = text.toList ↔ Text.trimmed text = text := by
    rw [Text.trimmed, ← String.toList_inj, String.toList_ofList]
  rw [Text.solid_iff, empty, same]

/-! ## Spelled programs are well formed -/

/-- What lines without line feeds spell is well formed. -/
theorem Spells.wellFormed {depth : Nat} {lines : List Line} {statements : List Statement}
    (spells : Spells depth lines statements) (noFeed : ∀ line ∈ lines, '\n' ∉ line.text) :
    Statement.WellFormedAll statements := by
  have condition {text : List Char} {condition : String}
      (read : Sentence.read text = .ok (.condition condition)) (ownNoFeed : '\n' ∉ text) :
      condition ≠ "" ∧ Text.trimmed condition = condition ∧ '\n' ∉ condition.toList := by
    obtain ⟨solid, part⟩ := Sentence.solid_of_read read
    obtain ⟨nonempty, same⟩ := solid_toList_iff.mp solid
    exact ⟨nonempty, same, fun feed => ownNoFeed (part _ feed)⟩
  induction spells with
  | nil => trivial
  | publish _ _ ih =>
      exact ⟨trivial, ih fun line member => noFeed line (List.mem_cons_of_mem _ member)⟩
  | conditional read _ firstNonempty _ ihFirst ihLater =>
      simp only [List.forall_mem_cons, List.forall_mem_append] at noFeed
      obtain ⟨own, first, later⟩ := noFeed
      exact ⟨⟨condition read own, firstNonempty, ihFirst first, trivial⟩, ihLater later⟩
  | alternative read _ firstNonempty _ _ _ ihFirst ihSecond ihLater =>
      simp only [List.forall_mem_cons, List.forall_mem_append] at noFeed
      obtain ⟨own, first, -, second, later⟩ := noFeed
      exact ⟨⟨condition read own, firstNonempty, ihFirst first, ihSecond second⟩, ihLater later⟩

/-- **What a script without line feeds in its lines spells is a well-formed program.** -/
theorem SpellsActions.wellFormed {lines : List Line} {actions : List Action}
    (spells : SpellsActions lines actions) (noFeed : ∀ line ∈ lines, '\n' ∉ line.text) :
    ∀ action ∈ actions, action.WellFormed := by
  induction spells with
  | nil => simp
  | cons read own nonempty _ _ ih =>
      simp only [List.forall_mem_cons, List.forall_mem_append] at noFeed
      obtain ⟨-, body, later⟩ := noFeed
      refine List.forall_mem_cons.mpr ⟨?_, ih later⟩
      exact ⟨Header.isIdentifier_of_read read, nonempty, own.wellFormed body⟩

/-! ## The lines of the writer -/

/-- **The lines of well-formed statements spell them.** -/
theorem Spells.linesAll : (depth : Nat) → (statements : List Statement) →
    Statement.WellFormedAll statements →
      Spells depth (Statement.linesAll depth statements) statements
  | depth, [], _ => .nil depth
  | depth, .publish topic payload :: rest, wellFormed => by
      rw [Statement.linesAll, Statement.lines, List.singleton_append]
      exact .publish (Sentence.read_publishLine topic payload) (linesAll depth rest wellFormed.2)
  | depth, .conditional condition thenBranch elseBranch :: rest, wellFormed => by
      obtain ⟨⟨⟨nonempty, same, -⟩, firstNonempty, first, second⟩, later⟩ := wellFormed
      have read := Sentence.read_ifLine (solid_toList_iff.mpr ⟨nonempty, same⟩)
      have yes := linesAll (depth + 1) thenBranch first
      have others := linesAll depth rest later
      rw [Statement.linesAll, Statement.lines]
      cases elseBranch with
      | nil =>
          rw [List.isEmpty_nil, if_pos rfl, List.append_nil, List.cons_append]
          exact .conditional read yes firstNonempty others
      | cons statement statements =>
          have no := linesAll (depth + 1) (statement :: statements) second
          rw [List.isEmpty_cons, if_neg Bool.false_ne_true, List.cons_append, List.cons_append,
            List.append_assoc, List.cons_append]
          exact .alternative read yes firstNonempty no (List.cons_ne_nil _ _) others

/-- **The lines of a well-formed program spell it.** -/
theorem SpellsActions.of_wellFormed {actions : List Action}
    (wellFormed : ∀ action ∈ actions, action.WellFormed) :
    SpellsActions (actions.flatMap Action.lines) actions := by
  induction actions with
  | nil => exact .nil
  | cons action actions ih =>
      obtain ⟨own, later⟩ := List.forall_mem_cons.mp wellFormed
      rw [List.flatMap_cons, Action.lines, List.cons_append]
      refine .cons (Header.read_header own.identifier) (Spells.linesAll 0 action.body own.body)
        own.nonempty (ih later) fun line starts => ?_
      cases actions with
      | nil => cases starts
      | cons next actions =>
          cases starts
          exact startsDefine_header next

end BlockScript.Script
