import BlockScript.Proofs.Script.Reading
import BlockScript.Proofs.Script.Layout
import BlockScript.Proofs.Script.Wording

/-!
# The indentation grammar of scripts

Which texts are scripts, and of which programs, said without the reader. A text has lines, each
with a depth (`LaidOut`); the lines of a statement and of a block are given by their depth and
wording alone (`DerivesStatement`, `DerivesBlock`), and a script is a sequence of headers at depth
zero, each with a block (`DerivesActions`).

The reader decides this grammar: it reads a text as a program exactly when the lines of the text
derive that program, and lines derive one program at most (`Program.parse_eq_ok_iff_derives`).
-/

set_option autoImplicit false

namespace BlockScript.Script

/-! ## The grammar -/

mutual
/-- Lines that make up one statement at a depth. The branches of a conditional lie one level
deeper, and its `ELSE` at its own depth. -/
inductive DerivesStatement : Nat → List Line → Statement → Prop where
  | publish {depth : Nat} {text : List Char} {topic payload : String}
      (line : PublishLine topic payload text) :
      DerivesStatement depth [⟨depth, text⟩] (.publish topic payload)
  | conditional {depth : Nat} {text : List Char} {condition : String} {yes : List Line}
      {thenBranch : List Statement} (line : ConditionLine condition text)
      (first : DerivesBlock (depth + 1) yes thenBranch) :
      DerivesStatement depth (⟨depth, text⟩ :: yes) (.conditional condition thenBranch [])
  | alternative {depth : Nat} {text : List Char} {condition : String} {yes no : List Line}
      {thenBranch elseBranch : List Statement} (line : ConditionLine condition text)
      (first : DerivesBlock (depth + 1) yes thenBranch)
      (second : DerivesBlock (depth + 1) no elseBranch) :
      DerivesStatement depth (⟨depth, text⟩ :: (yes ++ ⟨depth, Keyword.ELSE.chars⟩ :: no))
        (.conditional condition thenBranch elseBranch)

/-- Lines that make up a block at a depth: one statement or more. -/
inductive DerivesBlock : Nat → List Line → List Statement → Prop where
  | one {depth : Nat} {lines : List Line} {statement : Statement}
      (own : DerivesStatement depth lines statement) : DerivesBlock depth lines [statement]
  | more {depth : Nat} {lines rest : List Line} {statement : Statement}
      {statements : List Statement} (own : DerivesStatement depth lines statement)
      (later : DerivesBlock depth rest statements) :
      DerivesBlock depth (lines ++ rest) (statement :: statements)
end

/-- Lines that make up actions. The first header of a script may have any blanks after its first
word; every other one starts with the text `DEFINE ` itself. -/
inductive DerivesActions : (isFirst : Bool) → List Line → List Action → Prop where
  | nil (isFirst : Bool) : DerivesActions isFirst [] []
  | cons {isFirst : Bool} {text : List Char} {action : Action} {body rest : List Line}
      {actions : List Action} (header : HeaderLine action.name action.every text)
      (opens : isFirst = false → "DEFINE ".toList <+: text)
      (own : DerivesBlock 0 body action.body) (later : DerivesActions false rest actions) :
      DerivesActions isFirst (⟨0, text⟩ :: (body ++ rest)) (action :: actions)

/-- Lines that make up a whole program. -/
def Derives (lines : List Line) (program : Program) : Prop :=
  DerivesActions true lines program.actions

/-! ## Derived lines are spelled -/

mutual
theorem DerivesStatement.spells {depth : Nat} {lines : List Line} {statement : Statement} :
    DerivesStatement depth lines statement → Spells depth lines [statement]
  | .publish line => .publish line.read_eq (.nil depth)
  | .conditional line first => by
      have spells := Spells.conditional (Sentence.read_eq_condition_iff.mpr line) first.spells.1
        first.spells.2 (.nil depth)
      rwa [List.append_nil] at spells
  | .alternative line first second => by
      have spells := Spells.alternative (Sentence.read_eq_condition_iff.mpr line) first.spells.1
        first.spells.2 second.spells.1 second.spells.2 (.nil depth)
      rwa [List.append_nil] at spells

theorem DerivesBlock.spells {depth : Nat} {lines : List Line} {statements : List Statement} :
    DerivesBlock depth lines statements → Spells depth lines statements ∧ statements ≠ []
  | .one own => ⟨own.spells, List.cons_ne_nil _ _⟩
  | .more own later => ⟨own.spells.append later.spells.1, List.cons_ne_nil _ _⟩
end

theorem DerivesActions.spells {isFirst : Bool} {lines : List Line} {actions : List Action}
    (derives : DerivesActions isFirst lines actions) :
    SpellsActions lines actions ∧
      (isFirst = false → ∀ line ∈ lines.head?, startsDefine line.text = true) := by
  induction derives with
  | nil => exact ⟨.nil, fun _ _ none => by cases none⟩
  | cons header opens own _ ih =>
      obtain ⟨later, opensLater⟩ := ih
      refine ⟨.cons (Header.read_eq_ok_iff.mpr header) own.spells.1 own.spells.2 later
        (opensLater rfl), ?_⟩
      intro notFirst line starts
      cases starts
      exact List.isPrefixOf_iff_prefix.mpr (opens notFirst)

/-! ## Spelled lines are derived -/

/-- A statement before the rest of its block. -/
theorem DerivesStatement.before {depth : Nat} {lines rest : List Line} {statement : Statement}
    {statements : List Statement} (own : DerivesStatement depth lines statement)
    (later : Spells depth rest statements)
    (derives : statements ≠ [] → DerivesBlock depth rest statements) :
    DerivesBlock depth (lines ++ rest) (statement :: statements) := by
  cases statements with
  | nil =>
      cases later
      rw [List.append_nil]
      exact .one own
  | cons next statements => exact .more own (derives (List.cons_ne_nil _ _))

theorem Spells.derives {depth : Nat} {lines : List Line} {statements : List Statement}
    (spells : Spells depth lines statements)
    (ends : ∀ line ∈ lines, ∀ c ∈ line.text.getLast?, Text.isBlank c = false) :
    statements ≠ [] → DerivesBlock depth lines statements := by
  induction spells with
  | nil => exact fun nonempty => absurd rfl nonempty
  | publish read later ih =>
      rw [List.forall_mem_cons] at ends
      intro _
      have own := (Sentence.read_eq_publish_iff ends.1).mp read
      exact DerivesStatement.before (.publish own) later (ih ends.2)
  | conditional read _ firstNonempty later ihFirst ihLater =>
      simp only [List.forall_mem_cons, List.forall_mem_append] at ends
      intro _
      have own := Sentence.read_eq_condition_iff.mp read
      exact DerivesStatement.before (.conditional own (ihFirst ends.2.1 firstNonempty)) later
        (ihLater ends.2.2)
  | @alternative _ _ _ yes no rest _ _ _ read _ firstNonempty _ secondNonempty later ihFirst
      ihSecond ihLater =>
      simp only [List.forall_mem_cons, List.forall_mem_append] at ends
      obtain ⟨-, yesEnds, -, noEnds, restEnds⟩ := ends
      intro _
      have own := Sentence.read_eq_condition_iff.mp read
      have whole := DerivesStatement.before (.alternative own (ihFirst yesEnds firstNonempty)
        (ihSecond noEnds secondNonempty)) later (ihLater restEnds)
      rwa [List.cons_append, List.append_assoc, List.cons_append] at whole

theorem SpellsActions.derives {lines : List Line} {actions : List Action}
    (spells : SpellsActions lines actions)
    (ends : ∀ line ∈ lines, ∀ c ∈ line.text.getLast?, Text.isBlank c = false) (isFirst : Bool)
    (opens : isFirst = false → ∀ line ∈ lines.head?, startsDefine line.text = true) :
    DerivesActions isFirst lines actions := by
  induction spells generalizing isFirst with
  | nil => exact .nil isFirst
  | @cons text _ _ _ _ read own nonempty _ opensLater ih =>
      simp only [List.forall_mem_cons, List.forall_mem_append] at ends
      obtain ⟨-, bodyEnds, restEnds⟩ := ends
      refine .cons (Header.read_eq_ok_iff.mp read) (fun notFirst => ?_)
        (own.derives bodyEnds nonempty) (ih restEnds false fun _ => opensLater)
      exact List.isPrefixOf_iff_prefix.mp (opens notFirst ⟨0, text⟩ rfl)

/-! ## The reader -/

/-- Lines that do not end with blanks derive what they spell. -/
theorem derives_iff {lines : List Line} {program : Program}
    (ends : ∀ line ∈ lines, ∀ c ∈ line.text.getLast?, Text.isBlank c = false) :
    Derives lines program ↔ SpellsActions lines program.actions :=
  ⟨fun derives => derives.spells.1, fun spells => spells.derives ends true nofun⟩

/-- Lines derive one program at most. -/
theorem Derives.unique {lines : List Line} {program other : Program}
    (derives : Derives lines program) (derivesOther : Derives lines other) : program = other := by
  let numbered : List NumberedLine := lines.map fun line => ⟨line, 0⟩
  have same : numbered.map (·.toLine) = lines := by
    rw [List.map_map]
    exact List.map_id lines
  have read {program : Program} (derives : Derives lines program) :
      Program.ofLines numbered = .ok program :=
    ofLines_of_spellsActions (same ▸ derives.spells.1)
  exact Except.ok.inj ((read derives).symm.trans (read derivesOther))

/-- The lines that a text has do not end with blanks. -/
theorem LaidOut.ends {width : Nat} {source : List Char} {lines : List Line}
    (laidOut : LaidOut width source lines) :
    ∀ line ∈ lines, ∀ c ∈ line.text.getLast?, Text.isBlank c = false := by
  unfold LaidOut at laidOut
  generalize (Text.lines source).filter (fun raw => !Text.isAllBlank raw) = raws at laidOut
  induction laidOut with
  | nil => exact List.forall_mem_nil _
  | cons lies _ ih => exact List.forall_mem_cons.mpr ⟨lies.ends, ih⟩

/-- **The reader accepts exactly the indentation grammar.** A text is read as a program when it is
laid out in lines that derive the program, and then only; and no lines derive two programs. -/
theorem Program.parse_eq_ok_iff_derives {width : Nat} (positive : 1 ≤ width) (source : String) :
    (∀ program, Program.parse width source = .ok program ↔
      ∃ lines, LaidOut width source.toList lines ∧ Derives lines program) ∧
    ∀ lines program other, Derives lines program → Derives lines other → program = other := by
  refine ⟨fun program => ?_, fun _ _ _ => Derives.unique⟩
  have visible : max 1 width = width := Nat.max_eq_right positive
  constructor
  · intro reads
    rw [Program.parse, visible] at reads
    split at reads
    · cases reads
    · next numbered scanned =>
      have laidOut := (scanAll_eq_ok_iff positive).mp ⟨numbered, rfl, scanned⟩
      exact ⟨_, laidOut, (derives_iff laidOut.ends).mpr (ofLines_eq_ok_iff.mp reads)⟩
  · rintro ⟨lines, laidOut, derives⟩
    obtain ⟨numbered, rfl, scanned⟩ := (scanAll_eq_ok_iff positive).mpr laidOut
    rw [Program.parse, visible, scanned]
    exact ofLines_eq_ok_iff.mpr ((derives_iff laidOut.ends).mp derives)

/-- A script in which an `ELSE` belongs to the inner one of two conditionals, and a later header has
more than one blank between its words. -/
theorem Program.parse_eq_ok_iff_derives_inner :
    let source := "DEFINE\tACTION lamp ON EVERY 15 DO\r\nIF a THEN\n   IF b THEN\n" ++
      "      PUBLISH TOPIC \"t\" \"1\"\n   ELSE\n      PUBLISH TOPIC\t\"t\"  \"0\"\n\n" ++
      "DEFINE  ACTION fan ON EVERY 5m DO\nPUBLISH TOPIC \"f\" \"\""
    let program : Program := ⟨[⟨"lamp", .standard, [.conditional "a"
        [.conditional "b" [.publish "t" "1"] [.publish "t" "0"]] []]⟩,
      ⟨"fan", ⟨5, .minutes, by decide, by decide⟩, [.publish "f" ""]⟩]⟩
    1 ≤ 3 ∧ Program.parse 3 source = .ok program ∧
      ∃ lines, LaidOut 3 source.toList lines ∧ Derives lines program := by
  intro source program
  have reads : Program.parse 3 source = .ok program := by decide +kernel
  exact ⟨by decide, reads, ((parse_eq_ok_iff_derives (by decide) source).1 program).mp reads⟩

end BlockScript.Script
