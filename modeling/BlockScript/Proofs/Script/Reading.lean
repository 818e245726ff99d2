import BlockScript.Proofs.Script.Grammar

/-!
# The reader accepts the grammar

The reader goes through the lines once and closes a block only when a later line, or the end,
shows that it is over. `OpenAction.Settles` looks through that delay: it says what is open down to
some depth once everything deeper is closed (`Closes`), and a line at that depth or above it is
placed as if the deeper blocks were closed already (`OpenAction.Settles.place_eq`).

Completeness follows the grammar. Lines that spell statements at a depth take an action that settles
there to one that settles there with those statements added (`Spells.adds`), and lines that spell
actions are read as these actions (`ofLines_of_spellsActions`).

Soundness follows the reader. A line has few places to go (`OpenAction.Lands`,
`OpenAction.placeFrom_cases`).
`Pending` says which lines have led to what is open, every line that the reader takes keeps it
(`Progress.Took.step`), and so a program that is read is spelled by its lines
(`spellsActions_of_ofLines`). After such lines the reader still has the last action open, with a
complete body (`Program.exists_settles_of_ofLines`).
-/

set_option autoImplicit false

namespace BlockScript.Script

/-! ## One line, seen from a depth -/

theorem isElse_eq_true_iff {line : NumberedLine} :
    isElse line = true ↔ line.text = Keyword.ELSE.chars := by
  simp [isElse]

theorem isElse_of_read {line : NumberedLine} {sentence : Sentence}
    (read : Sentence.read line.text = .ok sentence) : isElse line = false :=
  Bool.eq_false_iff.mpr fun isElse =>
    Sentence.ne_else_of_read read (isElse_eq_true_iff.mp isElse)

theorem isElse_of_startsDefine {line : NumberedLine} (starts : startsDefine line.text = true) :
    isElse line = false := by
  refine Bool.eq_false_iff.mpr fun isElse => ?_
  rw [isElse_eq_true_iff.mp isElse] at starts
  exact absurd starts (by decide)

/-! ## Closing inner blocks -/

/-- Closing the innermost blocks of `ifs` one after the other, the first of which has the
statements `block`, comes to `outer` with the statements `around`. -/
inductive Closes : List OpenIf → List Statement → List OpenIf → List Statement → Prop where
  | here (ifs : List OpenIf) (block : List Statement) : Closes ifs block ifs block
  | inner {conditional : OpenIf} {ifs outer : List OpenIf} {block middle around : List Statement}
      (closes : conditional.close block = .ok middle) (later : Closes ifs middle outer around) :
      Closes (conditional :: ifs) block outer around

theorem Closes.length_le {ifs outer : List OpenIf} {block around : List Statement}
    (closes : Closes ifs block outer around) : outer.length ≤ ifs.length := by
  induction closes with
  | here => exact Nat.le_refl _
  | inner _ _ ih => exact Nat.le_succ_of_le ih

/-- One more block is closed after the others. -/
theorem Closes.concat {ifs outer : List OpenIf} {conditional : OpenIf}
    {block inside around : List Statement}
    (closes : Closes ifs block (conditional :: outer) inside)
    (last : conditional.close inside = .ok around) : Closes ifs block outer around := by
  generalize whole : conditional :: outer = all at closes
  induction closes with
  | here =>
      subst whole
      exact .inner last (.here _ _)
  | inner first _ ih => exact .inner first (ih last whole)

/-- All blocks are closed. -/
theorem closes_nil_iff {ifs : List OpenIf} {block body : List Statement} :
    ifs.foldlM (fun block conditional => conditional.close block) block = .ok body ↔
      Closes ifs block [] body := by
  induction ifs generalizing block with
  | nil =>
      constructor
      · intro same
        obtain rfl := Except.ok.inj same
        exact .here _ _
      · intro closes
        cases closes
        rfl
  | cons conditional ifs ih =>
      rw [List.foldlM_cons, bind_eq_ok_iff]
      constructor
      · rintro ⟨middle, closes, rest⟩
        exact .inner closes (ih.mp rest)
      · intro closes
        cases closes with
        | inner first later => exact ⟨_, first, ih.mpr later⟩

namespace OpenAction

/-- The blocks that are deeper than `ifs` and still open close to the statements `block`. -/
def Settles (action : OpenAction) (ifs : List OpenIf) (block : List Statement) : Prop :=
  Closes action.ifs action.block ifs block

/-- An action settles where nothing deeper is open. -/
theorem settles_with (action : OpenAction) (ifs : List OpenIf) (block : List Statement) :
    Settles { action with ifs := ifs, block := block } ifs block :=
  .here ifs block

theorem Settles.close {action : OpenAction} {conditional : OpenIf} {ifs : List OpenIf}
    {block around : List Statement} (settles : action.Settles (conditional :: ifs) block)
    (closes : conditional.close block = .ok around) : action.Settles ifs around :=
  Closes.concat settles closes

/-- A line that lies no deeper than some open blocks closes the blocks inside them. An `ELSE` at
their very depth is left out here: it may belong to one of the blocks inside. -/
theorem placeFrom_of_closes (action : OpenAction) {line : NumberedLine} {ifs outer : List OpenIf}
    {block around : List Statement} (closes : Closes ifs block outer around)
    (shallow : line.depth ≤ outer.length)
    (elseShallow : isElse line = true → line.depth < outer.length) :
    action.placeFrom line ifs block = action.placeFrom line outer around := by
  induction closes with
  | here => rfl
  | @inner conditional ifs outer block middle around first later ih =>
      have nested := later.length_le
      have below : line.depth ≤ ifs.length := by omega
      have notHere : (isElse line && line.depth == ifs.length) = false := by
        rw [Bool.and_eq_false_imp]
        intro isElse
        have strictly := elseShallow isElse
        exact beq_eq_false_iff_ne.mpr (by omega)
      rw [placeFrom]
      simp only [below, first, notHere, Bool.and_assoc, Bool.and_false, ok_bind, decide_true,
        Bool.true_or, ↓reduceIte, Bool.false_eq_true]
      exact ih shallow elseShallow

/-- A line is placed as if everything deeper were closed. -/
theorem Settles.place_eq {action : OpenAction} {line : NumberedLine} {ifs : List OpenIf}
    {block : List Statement} (settles : action.Settles ifs block)
    (shallow : line.depth ≤ ifs.length)
    (elseShallow : isElse line = true → line.depth < ifs.length) :
    action.place line = action.placeFrom line ifs block := by
  rw [place]
  exact action.placeFrom_of_closes settles shallow elseShallow

/-- A sentence at the depth of some open blocks is said in the innermost of them. -/
theorem Settles.place_sentence {action : OpenAction} {line : NumberedLine} {ifs : List OpenIf}
    {block : List Statement} (settles : action.Settles ifs block)
    (depth : line.depth = ifs.length) {sentence : Sentence}
    (read : Sentence.read line.text = .ok sentence) :
    action.place line = (action.say line ifs block).map .inside := by
  have noElse := isElse_of_read read
  have noHeader : startsHeader line = false := Sentence.not_define_of_read read
  rw [settles.place_eq depth.le (by simp [noElse])]
  cases ifs with
  | nil =>
      have flat : ¬ 0 < line.depth := by simp [depth]
      simp only [placeFrom, noElse, noHeader, flat, Bool.false_eq_true, ↓reduceIte]
  | cons conditional ifs =>
      rw [List.length_cons] at depth
      have deep : ¬ line.depth ≤ ifs.length := by omega
      have notDeeper : ¬ ifs.length + 1 < line.depth := by omega
      simp only [placeFrom, noElse, deep, notDeeper, decide_false, Bool.or_self,
        Bool.false_eq_true, ↓reduceIte]

/-- A publishing statement is added to the innermost of the blocks at its depth. -/
theorem Settles.place_publish {action : OpenAction} {line : NumberedLine} {ifs : List OpenIf}
    {block : List Statement} (settles : action.Settles ifs block)
    (depth : line.depth = ifs.length) {topic payload : String}
    (read : Sentence.read line.text = .ok (.publish topic payload)) :
    action.place line =
      .ok (.inside { action with ifs := ifs, block := .publish topic payload :: block }) := by
  rw [settles.place_sentence depth read, say, read]
  rfl

/-- A condition opens a first branch inside the blocks at its depth. -/
theorem Settles.place_condition {action : OpenAction} {line : NumberedLine} {ifs : List OpenIf}
    {block : List Statement} (settles : action.Settles ifs block)
    (depth : line.depth = ifs.length) {condition : String}
    (read : Sentence.read line.text = .ok (.condition condition)) :
    action.place line = .ok (.inside
      { action with ifs := ⟨line.number, block, condition, none⟩ :: ifs, block := [] }) := by
  rw [settles.place_sentence depth read, say, read]
  rfl

/-- An `ELSE` at the depth of a conditional whose first branch settles opens its second branch. -/
theorem Settles.place_else {action : OpenAction} {line : NumberedLine} {conditional : OpenIf}
    {ifs : List OpenIf} {block : List Statement}
    (settles : action.Settles (conditional :: ifs) block)
    (isElse : line.text = Keyword.ELSE.chars) (depth : line.depth = ifs.length)
    (first : conditional.thenBranch? = none) (nonempty : block ≠ []) :
    action.place line = .ok (.inside
      { action with
        ifs := { conditional with line := line.number, thenBranch? := some block.reverse } :: ifs
        block := [] }) := by
  have second := isElse_eq_true_iff.mpr isElse
  have notEmpty := List.isEmpty_eq_false_iff.mpr nonempty
  rw [settles.place_eq (by rw [List.length_cons]; omega) (by rw [List.length_cons]; omega)]
  simp only [placeFrom, second, depth, first, OpenIf.close, notEmpty, Bool.or_true, Bool.and_self,
    Option.isNone_none, beq_self_eq_true, ok_bind, ↓reduceIte, Bool.false_eq_true]
  rfl

/-- The header of a further action ends an action whose body settles. -/
theorem Settles.place_define {action : OpenAction} {line : NumberedLine} {block : List Statement}
    (settles : action.Settles [] block) (starts : startsDefine line.text = true)
    (depth : line.depth = 0) (nonempty : block ≠ []) :
    action.place line =
      .ok (.after ⟨action.header.name, action.header.every, block.reverse⟩) := by
  have noElse := isElse_of_startsDefine starts
  have header : startsHeader line = true := starts
  have flat : ¬ 0 < line.depth := by omega
  have notEmpty := List.isEmpty_eq_false_iff.mpr nonempty
  rw [settles.place_eq depth.le (by simp [noElse])]
  simp only [placeFrom, noElse, flat, header, closeBody, notEmpty, Bool.false_eq_true, ↓reduceIte]
  rfl

/-- The end of the script ends an action whose body settles. -/
theorem Settles.close_eq {action : OpenAction} {block : List Statement}
    (settles : action.Settles [] block) (nonempty : block ≠ []) :
    action.close = .ok ⟨action.header.name, action.header.every, block.reverse⟩ := by
  have notEmpty := List.isEmpty_eq_false_iff.mpr nonempty
  rw [OpenAction.close, closes_nil_iff.mpr settles]
  simp only [ok_bind, closeBody, notEmpty, Bool.false_eq_true, ↓reduceIte]

end OpenAction

/-! ## Completeness -/

/-- Reading lines takes one open action to another, whatever was finished before. -/
structure Leads (lines : List NumberedLine) (action next : OpenAction) : Prop where
  /-- The action is the same one. -/
  header : next.header = action.header
  /-- The lines are read one after the other. -/
  steps : ∀ finished, lines.foldlM Progress.step ⟨finished, some action⟩ =
    .ok ⟨finished, some next⟩

theorem Leads.refl (action : OpenAction) : Leads [] action action := ⟨rfl, fun _ => rfl⟩

theorem Leads.append {lines more : List NumberedLine} {action middle next : OpenAction}
    (first : Leads lines action middle) (second : Leads more middle next) :
    Leads (lines ++ more) action next where
  header := second.header.trans first.header
  steps finished := by
    rw [List.foldlM_append, first.steps, ok_bind, second.steps]

/-- A line that is placed inside the action, before further lines. -/
theorem Leads.cons {line : NumberedLine} {more : List NumberedLine}
    {action middle next : OpenAction} (places : action.place line = .ok (.inside middle))
    (same : middle.header = action.header) (later : Leads more middle next) :
    Leads (line :: more) action next where
  header := later.header.trans same
  steps finished := by
    have step : Progress.step ⟨finished, some action⟩ line = .ok ⟨finished, some middle⟩ := by
      simp only [Progress.step, places]
    rw [List.foldlM_cons, step, ok_bind, later.steps]

/-- Lines add statements at a depth: wherever an action settles there, they lead to one that settles
there with the statements added. -/
def Adds (depth : Nat) (lines : List NumberedLine) (statements : List Statement) : Prop :=
  ∀ (action : OpenAction) (ifs : List OpenIf) (block : List Statement), ifs.length = depth →
    action.Settles ifs block →
      ∃ next, Leads lines action next ∧ next.Settles ifs (statements.reverse ++ block)

/-- Lines that add one statement, before lines that add others. -/
theorem Adds.cons {depth : Nat} {own rest : List NumberedLine} {statement : Statement}
    {statements : List Statement}
    (first : ∀ (action : OpenAction) (ifs : List OpenIf) (block : List Statement),
      ifs.length = depth → action.Settles ifs block →
        ∃ next, Leads own action next ∧ next.Settles ifs (statement :: block))
    (later : Adds depth rest statements) : Adds depth (own ++ rest) (statement :: statements) := by
  intro action ifs block deep settles
  obtain ⟨middle, leads, settlesMiddle⟩ := first action ifs block deep settles
  obtain ⟨next, leadsNext, settlesNext⟩ := later middle ifs _ deep settlesMiddle
  refine ⟨next, leads.append leadsNext, ?_⟩
  rwa [List.reverse_cons, List.append_assoc]

/-- A line that publishes adds its statement. -/
theorem leads_publish {line : NumberedLine} {topic payload : String}
    (read : Sentence.read line.text = .ok (.publish topic payload)) (action : OpenAction)
    (ifs : List OpenIf) (block : List Statement) (deep : ifs.length = line.depth)
    (settles : action.Settles ifs block) :
    ∃ next, Leads [line] action next ∧ next.Settles ifs (.publish topic payload :: block) :=
  ⟨_, .cons (settles.place_publish deep.symm read) rfl (.refl _), action.settles_with ifs _⟩

/-- A condition and the lines of its first branch, which is still open. -/
theorem leads_first {line : NumberedLine} {condition : String}
    (read : Sentence.read line.text = .ok (.condition condition)) {inside : List NumberedLine}
    {thenBranch : List Statement} (branch : Adds (line.depth + 1) inside thenBranch)
    (action : OpenAction) (ifs : List OpenIf) (block : List Statement)
    (deep : ifs.length = line.depth) (settles : action.Settles ifs block) :
    ∃ next, Leads (line :: inside) action next ∧
      next.Settles (⟨line.number, block, condition, none⟩ :: ifs) thenBranch.reverse := by
  have places := settles.place_condition deep.symm read
  obtain ⟨next, leads, settlesNext⟩ := branch _ _ [] (congrArg (· + 1) deep)
    (action.settles_with (⟨line.number, block, condition, none⟩ :: ifs) [])
  rw [List.append_nil] at settlesNext
  exact ⟨next, .cons places rfl leads, settlesNext⟩

/-- A condition and its one branch add a conditional. -/
theorem leads_conditional {line : NumberedLine} {condition : String}
    (read : Sentence.read line.text = .ok (.condition condition)) {inside : List NumberedLine}
    {thenBranch : List Statement} (branch : Adds (line.depth + 1) inside thenBranch)
    (nonempty : thenBranch ≠ []) (action : OpenAction) (ifs : List OpenIf) (block : List Statement)
    (deep : ifs.length = line.depth) (settles : action.Settles ifs block) :
    ∃ next, Leads (line :: inside) action next ∧
      next.Settles ifs (.conditional condition thenBranch [] :: block) := by
  obtain ⟨next, leads, settlesNext⟩ := leads_first read branch action ifs block deep settles
  -- The branch stays open until a later line; what is read next sees it closed.
  exact ⟨next, leads, settlesNext.close (by simp [OpenIf.close, nonempty])⟩

/-- A condition and its two branches, with the `ELSE` between them, add a conditional. -/
theorem leads_alternative {line elseLine : NumberedLine} {condition : String}
    (read : Sentence.read line.text = .ok (.condition condition))
    (isElse : elseLine.text = Keyword.ELSE.chars) (sameDepth : elseLine.depth = line.depth)
    {inside insideElse : List NumberedLine} {thenBranch elseBranch : List Statement}
    (first : Adds (line.depth + 1) inside thenBranch) (firstNonempty : thenBranch ≠ [])
    (second : Adds (line.depth + 1) insideElse elseBranch) (secondNonempty : elseBranch ≠ [])
    (action : OpenAction) (ifs : List OpenIf) (block : List Statement)
    (deep : ifs.length = line.depth) (settles : action.Settles ifs block) :
    ∃ next, Leads (line :: inside ++ elseLine :: insideElse) action next ∧
      next.Settles ifs (.conditional condition thenBranch elseBranch :: block) := by
  obtain ⟨middle, leads, settlesFirst⟩ := leads_first read first action ifs block deep settles
  have turns := settlesFirst.place_else isElse (sameDepth.trans deep.symm) rfl
    (by simpa using firstNonempty)
  rw [List.reverse_reverse] at turns
  obtain ⟨next, leadsSecond, settlesSecond⟩ := second _ _ [] (congrArg (· + 1) deep)
    (middle.settles_with (⟨elseLine.number, block, condition, some thenBranch⟩ :: ifs) [])
  rw [List.append_nil] at settlesSecond
  exact ⟨next, leads.append (.cons turns rfl leadsSecond),
    settlesSecond.close (by simp [OpenIf.close, secondNonempty])⟩

/-- **Lines that spell statements add them to the block in which they stand.** -/
theorem Spells.adds {depth : Nat} {lines : List Line} {statements : List Statement}
    (spells : Spells depth lines statements) {numbered : List NumberedLine}
    (spelled : numbered.map (·.toLine) = lines) : Adds depth numbered statements := by
  induction spells generalizing numbered with
  | nil =>
      obtain rfl := List.map_eq_nil_iff.mp spelled
      exact fun action _ _ _ settles => ⟨action, .refl action, settles⟩
  | publish read _ ih =>
      obtain ⟨line, rest, rfl, own, spelledRest⟩ := List.map_eq_cons_iff.mp spelled
      obtain ⟨rfl, rfl⟩ := Line.mk.inj own
      exact .cons (leads_publish read) (ih spelledRest)
  | conditional read _ nonempty _ ihFirst ihLater =>
      obtain ⟨line, others, rfl, own, spelledOthers⟩ := List.map_eq_cons_iff.mp spelled
      obtain ⟨inside, rest, rfl, spelledYes, spelledRest⟩ :=
        List.map_eq_append_iff.mp spelledOthers
      obtain ⟨rfl, rfl⟩ := Line.mk.inj own
      exact .cons (leads_conditional read (ihFirst spelledYes) nonempty) (ihLater spelledRest)
  | alternative read _ firstNonempty _ secondNonempty _ ihFirst ihSecond ihLater =>
      obtain ⟨line, others, rfl, own, spelledOthers⟩ := List.map_eq_cons_iff.mp spelled
      obtain ⟨inside, others, rfl, spelledYes, spelledOthers⟩ :=
        List.map_eq_append_iff.mp spelledOthers
      obtain ⟨elseLine, others, rfl, elseOwn, spelledOthers⟩ :=
        List.map_eq_cons_iff.mp spelledOthers
      obtain ⟨insideElse, rest, rfl, spelledNo, spelledRest⟩ :=
        List.map_eq_append_iff.mp spelledOthers
      obtain ⟨rfl, rfl⟩ := Line.mk.inj own
      obtain ⟨sameDepth, isElse⟩ := Line.mk.inj elseOwn
      have adds := Adds.cons (leads_alternative read isElse sameDepth (ihFirst spelledYes)
        firstNonempty (ihSecond spelledNo) secondNonempty) (ihLater spelledRest)
      simpa using adds

/-- The body of an action that has just been opened. -/
theorem Spells.leads_start {body : List Line} {statements : List Statement}
    (own : Spells 0 body statements) {numbered : List NumberedLine}
    (spelled : numbered.map (·.toLine) = body) (number : Nat) (header : Header) :
    ∃ next, Leads numbered (.start number header) next ∧ next.Settles [] statements.reverse := by
  obtain ⟨next, leads, settles⟩ :=
    own.adds spelled _ [] [] rfl ((OpenAction.start number header).settles_with [] [])
  rw [List.append_nil] at settles
  exact ⟨next, leads, settles⟩

theorem openAction_eq {line : NumberedLine} {header : Header} (depth : line.depth = 0)
    (read : Header.read line.text = .ok header) (finished : List Action) :
    Progress.openAction finished line = .ok ⟨finished, some (.start line.number header)⟩ := by
  simp [Progress.openAction, depth, read]

/-- Lines that spell further actions, after an action whose body is complete. -/
theorem SpellsActions.run {lines : List Line} {actions : List Action}
    (spells : SpellsActions lines actions) {numbered : List NumberedLine}
    (spelled : numbered.map (·.toLine) = lines)
    (opens : ∀ line ∈ lines.head?, startsDefine line.text = true) (finished : List Action)
    {current : OpenAction} {block : List Statement} (settles : current.Settles [] block)
    (nonempty : block ≠ []) :
    (numbered.foldlM Progress.step ⟨finished, some current⟩ >>= Progress.finish) =
      .ok ⟨finished.reverse ++
        ⟨current.header.name, current.header.every, block.reverse⟩ :: actions⟩ := by
  induction spells generalizing numbered finished current block with
  | nil =>
      obtain rfl := List.map_eq_nil_iff.mp spelled
      rw [List.foldlM_nil, pure_bind]
      simp [Progress.finish, settles.close_eq nonempty, Except.map]
  | @cons _ action _ _ actions read own ownNonempty _ opensNext ih =>
      obtain ⟨line, others, rfl, ownLine, spelledOthers⟩ := List.map_eq_cons_iff.mp spelled
      obtain ⟨body, after, rfl, spelledBody, spelledRest⟩ := List.map_eq_append_iff.mp spelledOthers
      obtain ⟨depth, rfl⟩ := Line.mk.inj ownLine
      -- The header ends the action in hand, and its own body is then in hand for the rest.
      have starts : startsDefine line.text = true := opens ⟨0, line.text⟩ rfl
      have ends := settles.place_define starts depth nonempty
      obtain ⟨next, leads, settlesNext⟩ :=
        own.leads_start spelledBody line.number ⟨action.name, action.every⟩
      let done : Action := ⟨current.header.name, current.header.every, block.reverse⟩
      have rest := ih spelledRest opensNext (done :: finished) settlesNext
        (by simpa using ownNonempty)
      have step : Progress.step ⟨finished, some current⟩ line =
          .ok ⟨done :: finished,
            some (.start line.number ⟨action.name, action.every⟩)⟩ := by
        simp only [Progress.step, ends]
        exact openAction_eq depth read _
      rw [List.foldlM_cons, step, ok_bind, List.foldlM_append, leads.steps, ok_bind, rest]
      simp [leads.header, OpenAction.start, done]

/-- **The reader accepts every script of the grammar.** -/
theorem ofLines_of_spellsActions {lines : List NumberedLine} {actions : List Action}
    (spells : SpellsActions (lines.map (·.toLine)) actions) :
    Program.ofLines lines = .ok ⟨actions⟩ := by
  generalize spelled : lines.map (·.toLine) = texts at spells
  cases spells with
  | nil =>
      obtain rfl := List.map_eq_nil_iff.mp spelled
      rfl
  | @cons _ action _ _ actions read own nonempty later opens =>
      obtain ⟨line, others, rfl, ownLine, spelledOthers⟩ := List.map_eq_cons_iff.mp spelled
      obtain ⟨body, after, rfl, spelledBody, spelledRest⟩ := List.map_eq_append_iff.mp spelledOthers
      obtain ⟨depth, rfl⟩ := Line.mk.inj ownLine
      obtain ⟨next, leads, settles⟩ :=
        own.leads_start spelledBody line.number ⟨action.name, action.every⟩
      have rest := later.run spelledRest opens [] settles (by simpa using nonempty)
      have step : Progress.step .start line =
          .ok ⟨[], some (.start line.number ⟨action.name, action.every⟩)⟩ :=
        openAction_eq depth read []
      rw [Program.ofLines, List.foldlM_cons, step, ok_bind, List.foldlM_append, leads.steps,
        ok_bind, rest]
      simp [leads.header, OpenAction.start]

/-! ## Soundness -/

/-- Lines that have led to the statements `block`, last first, of the innermost block inside the
conditionals `ifs`. -/
inductive Pending : List OpenIf → List Statement → List Line → Prop where
  | body {block : List Statement} {lines : List Line} (spells : Spells 0 lines block.reverse) :
      Pending [] block lines
  | first {ifs : List OpenIf} {number : Nat} {before block : List Statement}
      {outer inner : List Line} {text : List Char} {condition : String}
      (around : Pending ifs before outer) (read : Sentence.read text = .ok (.condition condition))
      (inside : Spells (ifs.length + 1) inner block.reverse) :
      Pending (⟨number, before, condition, none⟩ :: ifs) block
        (outer ++ ⟨ifs.length, text⟩ :: inner)
  | second {ifs : List OpenIf} {number : Nat} {before block thenBranch : List Statement}
      {outer yes inner : List Line} {text : List Char} {condition : String}
      (around : Pending ifs before outer) (read : Sentence.read text = .ok (.condition condition))
      (first : Spells (ifs.length + 1) yes thenBranch) (nonempty : thenBranch ≠ [])
      (inside : Spells (ifs.length + 1) inner block.reverse) :
      Pending (⟨number, before, condition, some thenBranch⟩ :: ifs) block
        (outer ++ ⟨ifs.length, text⟩ :: (yes ++ ⟨ifs.length, Keyword.ELSE.chars⟩ :: inner))

/-- A statement at the depth of the innermost block goes on with it. -/
theorem Pending.concat {ifs : List OpenIf} {block : List Statement} {lines more : List Line}
    {statement : Statement} (pending : Pending ifs block lines)
    (spells : Spells ifs.length more [statement]) :
    Pending ifs (statement :: block) (lines ++ more) := by
  cases pending with
  | body before =>
      have together := before.append spells
      rw [← List.reverse_cons] at together
      exact .body together
  | first around read inside =>
      have together := inside.append spells
      rw [← List.reverse_cons] at together
      rw [List.append_assoc, List.cons_append]
      exact .first around read together
  | second around read yes nonempty inside =>
      have together := inside.append spells
      rw [← List.reverse_cons] at together
      rw [List.append_assoc, List.cons_append, List.append_assoc, List.cons_append]
      exact .second around read yes nonempty together

/-- Closing the innermost branch leaves the block around its conditional. -/
theorem Pending.close {ifs : List OpenIf} {conditional : OpenIf} {block around : List Statement}
    {lines : List Line} (pending : Pending (conditional :: ifs) block lines)
    (closes : conditional.close block = .ok around) : Pending ifs around lines := by
  cases pending with
  | @first ifs number before block outer inner text condition outerPending read inside =>
      by_cases empty : block = []
      · simp [OpenIf.close, empty] at closes
      · obtain rfl : .conditional condition block.reverse [] :: before = around := by
          simpa [OpenIf.close, empty] using closes
        have statement := Spells.conditional read inside (by simpa using empty) (.nil ifs.length)
        rw [List.append_nil] at statement
        exact outerPending.concat statement
  | @second ifs number before block thenBranch outer yes inner text condition outerPending read
      firstBranch nonempty inside =>
      by_cases empty : block = []
      · simp [OpenIf.close, empty] at closes
      · obtain rfl : .conditional condition thenBranch block.reverse :: before = around := by
          simpa [OpenIf.close, empty] using closes
        have statement := Spells.alternative read firstBranch nonempty inside
          (by simpa using empty) (.nil ifs.length)
        rw [List.append_nil] at statement
        exact outerPending.concat statement

/-- Closing several branches leaves the block around all of them. -/
theorem Pending.of_closes {ifs outer : List OpenIf} {block around : List Statement}
    {lines : List Line} (pending : Pending ifs block lines)
    (closes : Closes ifs block outer around) : Pending outer around lines := by
  induction closes with
  | here => exact pending
  | inner first _ ih => exact ih (pending.close first)

theorem Pending.spells {body : List Statement} {lines : List Line}
    (pending : Pending [] body lines) : Spells 0 lines body.reverse := by
  cases pending with
  | body spells => exact spells

/-- An `ELSE` after a first branch opens the second one. -/
theorem Pending.turn {ifs : List OpenIf} {number next : Nat} {before block : List Statement}
    {condition : String} {lines : List Line}
    (pending : Pending (⟨number, before, condition, none⟩ :: ifs) block lines)
    (nonempty : block ≠ []) :
    Pending (⟨next, before, condition, some block.reverse⟩ :: ifs) []
      (lines ++ [⟨ifs.length, Keyword.ELSE.chars⟩]) := by
  cases pending with
  | first around read inside =>
      rw [List.append_assoc, List.cons_append]
      exact .second around read inside (by simpa using nonempty) (.nil _)

namespace OpenAction

/-- A line that is said in the innermost block goes on with what is pending. -/
theorem pending_of_say {action next : OpenAction} {line : NumberedLine} {ifs : List OpenIf}
    {block : List Statement} {lines : List Line} (pending : Pending ifs block lines)
    (depth : line.depth = ifs.length) (adds : action.say line ifs block = .ok next) :
    next.header = action.header ∧ Pending next.ifs next.block (lines ++ [line.toLine]) := by
  have own : line.toLine = ⟨ifs.length, line.text⟩ := by rw [← depth]
  unfold say at adds
  rw [own]
  split at adds
  · cases adds
  · next topic payload read =>
    obtain rfl := Except.ok.inj adds
    exact ⟨rfl, pending.concat (.publish read (.nil _))⟩
  · next condition read =>
    obtain rfl := Except.ok.inj adds
    exact ⟨rfl, .first pending read (.nil _)⟩

theorem ne_nil_of_closeBody {action : OpenAction} {block : List Statement} {done : Action}
    (closes : action.closeBody block = .ok done) :
    block ≠ [] ∧ done = ⟨action.header.name, action.header.every, block.reverse⟩ := by
  unfold closeBody at closes
  split at closes
  · cases closes
  · next nonempty => exact ⟨by simpa using nonempty, (Except.ok.inj closes).symm⟩

/-- What a line does where it closes no more blocks, which are `ifs` around the statements `block`:
it is a sentence in the innermost one, or the `ELSE` of its conditional, or it ends the action. -/
inductive Lands (action : OpenAction) (line : NumberedLine) :
    List OpenIf → List Statement → Placed → Prop where
  | sentence {ifs : List OpenIf} {block : List Statement} {next : OpenAction}
      (depth : line.depth = ifs.length) (adds : action.say line ifs block = .ok next) :
      Lands action line ifs block (.inside next)
  | turn {number : Nat} {before : List Statement} {condition : String} {rest : List OpenIf}
      {block : List Statement} (own : line.toLine = ⟨rest.length, Keyword.ELSE.chars⟩)
      (nonempty : block ≠ []) :
      Lands action line (⟨number, before, condition, none⟩ :: rest) block (.inside { action with
        ifs := ⟨line.number, before, condition, some block.reverse⟩ :: rest
        block := [] })
  | done {block : List Statement} {done : Action}
      (stops : line.text = Keyword.ELSE.chars ∨ startsDefine line.text = true)
      (closes : action.closeBody block = .ok done) : Lands action line [] block (.after done)

/-- Where no block is open, a line is a sentence in the body, or it ends the action. -/
theorem lands_of_placeFrom_nil {action : OpenAction} {line : NumberedLine} {block : List Statement}
    {placed : Placed} (places : action.placeFrom line [] block = .ok placed) :
    Lands action line [] block placed := by
  rw [placeFrom] at places
  split at places
  · next isElse =>
    obtain ⟨done, closes, rfl⟩ := map_eq_ok_iff.mp places
    exact .done (.inl (isElse_eq_true_iff.mp isElse)) closes
  split at places
  · cases places
  next flat =>
  split at places
  · next starts =>
    obtain ⟨done, closes, rfl⟩ := map_eq_ok_iff.mp places
    exact .done (.inr starts) closes
  · obtain ⟨next, adds, rfl⟩ := map_eq_ok_iff.mp places
    exact .sentence (Nat.eq_zero_of_not_pos flat) adds

/-- Where a block is open, a line lands in it, or it closes the block and is placed outside. -/
theorem lands_or_closes_of_placeFrom_cons {action : OpenAction} {line : NumberedLine}
    {conditional : OpenIf} {ifs : List OpenIf} {block : List Statement} {placed : Placed}
    (places : action.placeFrom line (conditional :: ifs) block = .ok placed) :
    Lands action line (conditional :: ifs) block placed ∨
      ∃ middle, conditional.close block = .ok middle ∧
        action.placeFrom line ifs middle = .ok placed := by
  rw [placeFrom] at places
  split at places
  · obtain ⟨middle, closes, rest⟩ := bind_eq_ok_iff.mp places
    split at rest
    · next turns =>
      -- The branch that the `ELSE` stops is closed once, only to see that it is not empty.
      simp only [Bool.and_eq_true, Option.isNone_iff_eq_none, beq_iff_eq] at turns
      obtain ⟨⟨first, isElse⟩, depth⟩ := turns
      obtain ⟨number, before, condition, thenBranch?⟩ := conditional
      obtain rfl : thenBranch? = none := first
      obtain rfl := Except.ok.inj rest
      have own : line.toLine = ⟨ifs.length, Keyword.ELSE.chars⟩ := by
        rw [← depth, ← isElse_eq_true_iff.mp isElse]
      have nonempty : block ≠ [] := by
        rintro rfl
        cases closes
      exact .inl (.turn own nonempty)
    · exact .inr ⟨middle, closes, rest⟩
  next deep =>
  split at places
  · cases places
  · obtain ⟨next, adds, rfl⟩ := map_eq_ok_iff.mp places
    have depth : line.depth = ifs.length + 1 := by
      simp only [Bool.or_eq_true, decide_eq_true_eq, not_or] at deep
      omega
    exact .inl (.sentence depth adds)

/-- **Where a line can be placed**: it closes some of the blocks, and then it lands. -/
theorem placeFrom_cases {action : OpenAction} {line : NumberedLine} {ifs : List OpenIf}
    {block : List Statement} {placed : Placed}
    (places : action.placeFrom line ifs block = .ok placed) :
    ∃ outer around, Closes ifs block outer around ∧ Lands action line outer around placed := by
  induction ifs generalizing block with
  | nil => exact ⟨[], block, .here _ _, lands_of_placeFrom_nil places⟩
  | cons conditional ifs ih =>
      rcases lands_or_closes_of_placeFrom_cons places with lands | ⟨middle, closes, rest⟩
      · exact ⟨_, block, .here _ _, lands⟩
      · obtain ⟨outer, around, later, lands⟩ := ih rest
        exact ⟨outer, around, .inner closes later, lands⟩

/-- **A line that is placed inside an action goes on with what is pending.** -/
theorem pending_of_inside {action next : OpenAction} {line : NumberedLine} {lines : List Line}
    (pending : Pending action.ifs action.block lines)
    (places : action.place line = .ok (.inside next)) :
    next.header = action.header ∧ Pending next.ifs next.block (lines ++ [line.toLine]) := by
  obtain ⟨outer, around, closes, lands⟩ := placeFrom_cases places
  have settled := pending.of_closes closes
  cases lands with
  | sentence depth adds => exact pending_of_say settled depth adds
  | turn own nonempty =>
      rw [own]
      exact ⟨rfl, settled.turn nonempty⟩

/-- **A line that ends an action ends one that the lines before it spell.** The line is an `ELSE`,
or the first one of a further action. -/
theorem spells_of_after {action : OpenAction} {line : NumberedLine} {lines : List Line}
    {done : Action} (pending : Pending action.ifs action.block lines)
    (places : action.place line = .ok (.after done)) :
    Spells 0 lines done.body ∧ done.body ≠ [] ∧
      action.header = ⟨done.name, done.every⟩ ∧
      (line.text = Keyword.ELSE.chars ∨ startsDefine line.text = true) := by
  obtain ⟨outer, around, closes, lands⟩ := placeFrom_cases places
  have settled := pending.of_closes closes
  cases lands with
  | done stops ends =>
      obtain ⟨nonempty, rfl⟩ := ne_nil_of_closeBody ends
      exact ⟨settled.spells, by simpa using nonempty, rfl, stops⟩

end OpenAction

namespace Progress

/-- The lines that have been read so far: complete actions, a header, and what is pending. -/
inductive Took : Progress → List Line → Prop where
  | start : Took .start []
  | reading {finished : List Action} {action : OpenAction} {lines own : List Line}
      {text : List Char} (earlier : SpellsActions lines finished.reverse)
      (read : Header.read text = .ok action.header)
      (opens : lines ≠ [] → startsDefine text = true)
      (pending : Pending action.ifs action.block own) :
      Took ⟨finished, some action⟩ (lines ++ ⟨0, text⟩ :: own)

theorem Took.open_action (finished : List Action) {lines : List Line} {line : NumberedLine}
    {next : Progress} (earlier : SpellsActions lines finished.reverse)
    (opens : ∀ header, Header.read line.text = .ok header →
      lines ≠ [] → startsDefine line.text = true)
    (opened : openAction finished line = .ok next) : next.Took (lines ++ [line.toLine]) := by
  unfold openAction at opened
  split at opened
  · cases opened
  · next flat =>
    have own : line.toLine = ⟨0, line.text⟩ := by rw [← not_not.mp flat]
    split at opened
    · cases opened
    · next header read =>
      obtain rfl := Except.ok.inj opened
      rw [own]
      exact .reading earlier read (opens header read) (.body (.nil 0))

/-- **Every line that is read is accounted for.** -/
theorem Took.step {progress next : Progress} {lines : List Line} {line : NumberedLine}
    (took : progress.Took lines) (steps : progress.step line = .ok next) :
    next.Took (lines ++ [line.toLine]) := by
  cases took with
  | start => exact .open_action [] .nil (fun _ _ differs => absurd rfl differs) steps
  | @reading finished action lines own text earlier read opens pending =>
      simp only [Progress.step] at steps
      split at steps
      · cases steps
      · next inner places =>
        obtain rfl := Except.ok.inj steps
        obtain ⟨same, pendingNext⟩ := OpenAction.pending_of_inside pending places
        rw [List.append_assoc, List.cons_append]
        exact .reading earlier (read.trans (congrArg _ same.symm)) opens pendingNext
      · next done places =>
        obtain ⟨spells, nonempty, header, kind⟩ := OpenAction.spells_of_after pending places
        have actions := earlier.concat (read.trans (congrArg _ header)) spells nonempty opens
        rw [← List.reverse_cons] at actions
        -- An `ELSE` ends the action too, but then it is no header and the step fails.
        refine .open_action _ actions (fun _ readLine _ => ?_) steps
        exact kind.resolve_left (Header.ne_else_of_read readLine)

theorem Took.run {progress last : Progress} {lines : List Line} {more : List NumberedLine}
    (took : progress.Took lines) (runs : more.foldlM Progress.step progress = .ok last) :
    last.Took (lines ++ more.map (·.toLine)) := by
  induction more generalizing progress lines with
  | nil =>
      obtain rfl := Except.ok.inj runs
      rwa [List.map_nil, List.append_nil]
  | cons line more ih =>
      rw [List.foldlM_cons] at runs
      obtain ⟨next, steps, rest⟩ := bind_eq_ok_iff.mp runs
      have whole := ih (took.step steps) rest
      rwa [List.append_assoc, List.singleton_append] at whole

theorem Took.finish {progress : Progress} {lines : List Line} {program : Program}
    (took : progress.Took lines) (finishes : progress.finish = .ok program) :
    SpellsActions lines program.actions := by
  cases took with
  | start =>
      obtain rfl := Except.ok.inj finishes
      exact .nil
  | @reading finished action lines own text earlier read opens pending =>
      obtain ⟨done, closes, rfl⟩ := map_eq_ok_iff.mp finishes
      obtain ⟨body, closesAll, closesBody⟩ := bind_eq_ok_iff.mp closes
      have spells := (pending.of_closes (closes_nil_iff.mp closesAll)).spells
      obtain ⟨nonempty, rfl⟩ := OpenAction.ne_nil_of_closeBody closesBody
      rw [List.reverse_cons]
      exact earlier.concat read spells (by simpa using nonempty) opens

end Progress

/-- **What the reader makes of lines is what they spell.** -/
theorem spellsActions_of_ofLines {lines : List NumberedLine} {program : Program}
    (reads : Program.ofLines lines = .ok program) :
    SpellsActions (lines.map (·.toLine)) program.actions := by
  obtain ⟨last, runs, finishes⟩ := bind_eq_ok_iff.mp reads
  exact (Progress.Took.start.run runs).finish finishes

/-- **The reader decides the grammar.** -/
theorem ofLines_eq_ok_iff {lines : List NumberedLine} {program : Program} :
    Program.ofLines lines = .ok program ↔
      SpellsActions (lines.map (·.toLine)) program.actions :=
  ⟨spellsActions_of_ofLines, fun spells => ofLines_of_spellsActions spells⟩

/-! ## After some actions -/

/-- After the lines of some actions the last of them is still open, and its body is complete. -/
theorem Program.exists_settles_of_ofLines {lines : List NumberedLine} {program : Program}
    (reads : Program.ofLines lines = .ok program) (nonempty : program.actions ≠ []) :
    ∃ finished action body, lines.foldlM Progress.step .start = .ok ⟨finished, some action⟩ ∧
      action.Settles [] body ∧ body ≠ [] := by
  obtain ⟨⟨finished, current?⟩, runs, finishes⟩ := bind_eq_ok_iff.mp reads
  cases current? with
  | none =>
      have took := Progress.Took.start.run runs
      generalize [] ++ lines.map (·.toLine) = read at took
      cases took
      obtain rfl := Except.ok.inj finishes
      exact absurd rfl nonempty
  | some action =>
      obtain ⟨done, closes, -⟩ := map_eq_ok_iff.mp finishes
      obtain ⟨body, closesAll, closesBody⟩ := bind_eq_ok_iff.mp closes
      exact ⟨finished, action, body, runs, closes_nil_iff.mp closesAll,
        (OpenAction.ne_nil_of_closeBody closesBody).1⟩

/-- After the lines of any actions a header that opens plainly opens the next action. -/
theorem Program.exists_run_header {lines : List NumberedLine} {program : Program}
    (reads : Program.ofLines lines = .ok program) {line : NumberedLine} (depth : line.depth = 0)
    {header : Header} (read : Header.read line.text = .ok header)
    (starts : startsDefine line.text = true) :
    ∃ finished, (lines ++ [line]).foldlM Progress.step .start =
      .ok ⟨finished, some (.start line.number header)⟩ := by
  by_cases nonempty : program.actions = []
  · have spells := ofLines_eq_ok_iff.mp reads
    rw [nonempty] at spells
    generalize spelled : lines.map (·.toLine) = texts at spells
    cases spells with
    | nil =>
        obtain rfl := List.map_eq_nil_iff.mp spelled
        exact ⟨[], (bind_pure _).trans (openAction_eq depth read [])⟩
  · obtain ⟨finished, action, body, runs, settles, filled⟩ :=
      exists_settles_of_ofLines reads nonempty
    let done : Action := ⟨action.header.name, action.header.every, body.reverse⟩
    have ends : action.place line = .ok (.after done) := settles.place_define starts depth filled
    refine ⟨done :: finished, ?_⟩
    rw [List.foldlM_append, runs, ok_bind, List.foldlM_cons, Progress.step]
    simp only [ends, openAction_eq depth read, ok_bind, List.foldlM_nil]
    rfl

end BlockScript.Script
