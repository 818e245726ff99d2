import BlockScript.Proofs.Compile.ErrorTruth
import BlockScript.Proofs.Duration
import BlockScript.Proofs.Text.Lines

/-!
# Rendered paths

The text of a path leads to one block only (`Block.Path.text_exact`). A step is read off the start
of a text: a slot's name ends at the first opening bracket, as long as it has none itself, and an
index ends where its digits do (`stepText_append_inj`). Step by step, the text of a path gives back
the path (`steps_eq_of_text_eq`).

The paths that errors show lead through slots that some kind of blocks has (`Workspace.Reaches`),
and the names of these slots have no brackets in them. What a path reaches is determined by the
path (`Workspace.Reaches.unique`), and so by its text.
-/

set_option autoImplicit false

namespace BlockScript

namespace Block.Path

/-- A path that starts at the workspace, or at one of its blocks, and leads through slots without an
opening bracket in their names. -/
inductive Regular : Block.Path → Prop where
  | root : Regular root
  | topLevel (index : Nat) : Regular (topLevel index)
  | child {path : Block.Path} {slot : String} (outer : Regular path)
      (noBracket : '[' ∉ slot.toList) (index : Nat) : Regular (path.child slot index)

/-- The name of a slot on a regular path has no opening bracket in it. -/
theorem Regular.noBracket {path : Block.Path} (regular : path.Regular) :
    ∀ step ∈ path.steps, ∀ slot ∈ step.slot?, '[' ∉ slot.toList := by
  induction regular with
  | root => exact List.forall_mem_nil _
  | topLevel index => exact List.forall_mem_singleton.mpr nofun
  | child _ noBracket index ih =>
      refine List.forall_mem_append.mpr ⟨ih, List.forall_mem_singleton.mpr fun own found => ?_⟩
      obtain rfl := Option.some.inj found
      exact noBracket

/-! ## One step -/

/-- An index in brackets ends at its closing bracket. -/
theorem index_append_inj {index other : Nat} {rest more : List Char}
    (same : index.repr.toList ++ ']' :: rest = other.repr.toList ++ ']' :: more) :
    index = other ∧ rest = more := by
  have stops (rest : List Char) : ∀ c ∈ (']' :: rest).head?, c.isDigit = false := by
    intro c first
    obtain rfl := Option.some.inj first
    rfl
  rw [Nat.toList_repr, Nat.toList_repr] at same
  obtain ⟨digits, after⟩ := Text.run_append_inj Char.isDigit
    (fun _ => Duration.isDigit_of_mem_toDigits) (fun _ => Duration.isDigit_of_mem_toDigits)
    (stops rest) (stops more) same
  have indices := congrArg (Nat.ofDigitChars 10 · 0) digits
  simp only [Nat.ofDigitChars_ten_toDigits] at indices
  exact ⟨indices, (List.cons.inj after).2⟩

/-- The name of a slot ends at the bracket of the index. -/
theorem slot_append_inj {slot other : String} (noBracket : '[' ∉ slot.toList)
    (noBracketToo : '[' ∉ other.toList) {rest more : List Char}
    (same : slot.toList ++ '[' :: rest = other.toList ++ '[' :: more) :
    slot = other ∧ rest = more := by
  have inside {slot : String} (noBracket : '[' ∉ slot.toList) :
      ∀ c ∈ slot.toList, (c != '[') = true := by
    intro c member
    exact bne_iff_ne.mpr fun bracket => noBracket (bracket ▸ member)
  have stops (rest : List Char) : ∀ c ∈ ('[' :: rest).head?, (c != '[') = false := by
    intro c first
    obtain rfl := Option.some.inj first
    rfl
  obtain ⟨slots, after⟩ := Text.run_append_inj (· != '[') (inside noBracket) (inside noBracketToo)
    (stops rest) (stops more) same
  exact ⟨String.toList_inj.mp slots, (List.cons.inj after).2⟩

theorem stepText_none_append (index : Nat) (rest : List Char) :
    (stepText ⟨none, index⟩).toList ++ rest = '[' :: (index.repr.toList ++ ']' :: rest) := by
  simp [stepText]

theorem stepText_some_append (slot : String) (index : Nat) (rest : List Char) :
    (stepText ⟨some slot, index⟩).toList ++ rest =
      '.' :: (slot.toList ++ '[' :: (index.repr.toList ++ ']' :: rest)) := by
  simp [stepText]

/-- **A step is read off the start of a text in one way.** -/
theorem stepText_append_inj {step other : Step} (noBracket : ∀ slot ∈ step.slot?, '[' ∉ slot.toList)
    (noBracketToo : ∀ slot ∈ other.slot?, '[' ∉ slot.toList) {rest more : List Char}
    (same : (stepText step).toList ++ rest = (stepText other).toList ++ more) :
    step = other ∧ rest = more := by
  obtain ⟨_ | slot, index⟩ := step
  · obtain ⟨_ | slot', index'⟩ := other
    · rw [stepText_none_append, stepText_none_append] at same
      obtain ⟨rfl, rfl⟩ := index_append_inj (List.cons.inj same).2
      exact ⟨rfl, rfl⟩
    · rw [stepText_none_append, stepText_some_append] at same
      exact absurd (List.cons.inj same).1 (by decide)
  · obtain ⟨_ | slot', index'⟩ := other
    · rw [stepText_some_append, stepText_none_append] at same
      exact absurd (List.cons.inj same).1 (by decide)
    · rw [stepText_some_append, stepText_some_append] at same
      obtain ⟨rfl, after⟩ := slot_append_inj (noBracket slot rfl) (noBracketToo slot' rfl)
        (List.cons.inj same).2
      obtain ⟨rfl, rfl⟩ := index_append_inj after
      exact ⟨rfl, rfl⟩

/-- A step has a text. -/
theorem stepText_append_ne_nil (step : Step) (rest : List Char) :
    (stepText step).toList ++ rest ≠ [] := by
  obtain ⟨_ | slot, index⟩ := step
  · rw [stepText_none_append]
    exact List.cons_ne_nil _ _
  · rw [stepText_some_append]
    exact List.cons_ne_nil _ _

/-! ## Whole paths -/

theorem steps_inj {steps others : List Step}
    (noBracket : ∀ step ∈ steps, ∀ slot ∈ step.slot?, '[' ∉ slot.toList)
    (noBracketToo : ∀ step ∈ others, ∀ slot ∈ step.slot?, '[' ∉ slot.toList)
    (same : (steps.flatMap fun step => (stepText step).toList) =
      others.flatMap fun step => (stepText step).toList) : steps = others := by
  induction steps generalizing others with
  | nil =>
      cases others with
      | nil => rfl
      | cons other others => exact absurd same.symm (stepText_append_ne_nil other _)
  | cons step steps ih =>
      cases others with
      | nil => exact absurd same (stepText_append_ne_nil step _)
      | cons other others =>
          obtain ⟨own, later⟩ := List.forall_mem_cons.mp noBracket
          obtain ⟨ownToo, laterToo⟩ := List.forall_mem_cons.mp noBracketToo
          rw [List.flatMap_cons, List.flatMap_cons] at same
          obtain ⟨rfl, rest⟩ := stepText_append_inj own ownToo same
          rw [ih later laterToo rest]

theorem toList_text (path : Block.Path) :
    path.text.toList =
      "workspace".toList ++ path.steps.flatMap fun step => (stepText step).toList := by
  rw [text, String.toList_append, String.toList_join, List.flatMap_map]

/-- **The text of a regular path gives back its steps.** -/
theorem steps_eq_of_text_eq {path other : Block.Path} (regular : path.Regular)
    (regularToo : other.Regular) (same : path.text = other.text) : path.steps = other.steps := by
  have texts := congrArg String.toList same
  rw [toList_text, toList_text] at texts
  exact steps_inj regular.noBracket regularToo.noBracket (List.append_cancel_left texts)

/-! ## Paths that differ in their last step -/

theorem child_inj {path other : Block.Path} {slot slot' : String} {index index' : Nat}
    (same : path.child slot index = other.child slot' index') :
    path = other ∧ slot = slot' ∧ index = index' := by
  obtain ⟨steps⟩ := path
  obtain ⟨others⟩ := other
  obtain ⟨rfl, last⟩ := List.append_inj' (Block.Path.mk.inj same) rfl
  obtain ⟨slots, rfl⟩ := Step.mk.inj (List.cons.inj last).1
  exact ⟨rfl, Option.some.inj slots, rfl⟩

theorem child_ne_topLevel {path : Block.Path} {slot : String} {index place : Nat} :
    path.child slot index ≠ topLevel place := by
  intro same
  have last := congrArg (fun path => path.steps.getLast?) same
  simp [child, topLevel] at last

end Block.Path

/-! ## Blocks that are reached -/

/-- The slots that blocks have, of whatever kind. -/
theorem Block.Kind.mem_of_declares {kind : Block.Kind} {slot : String}
    (declared : Block.Declares kind.schema.slots slot) :
    slot ∈ ["do", "then", "else", "statements"] := by
  have each : ∀ member ∈ kind.schema.slots,
      member.name ∈ ["do", "then", "else", "statements"] := by
    cases kind <;> decide
  obtain ⟨member, found, rfl⟩ := declared
  exact each member found

namespace Workspace.Reaches

variable {vocabulary other : Vocabulary} {workspace : Workspace} {path : Block.Path}
  {block found : Block}

/-- A path to a block leads through slots that some kind has. -/
theorem slots_mem (reached : workspace.Reaches vocabulary path block) :
    ∀ step ∈ path.steps, ∀ slot ∈ step.slot?, slot ∈ ["do", "then", "else", "statements"] := by
  induction reached with
  | top _ => exact List.forall_mem_singleton.mpr nofun
  | inside _ _ declared _ ih =>
      refine List.forall_mem_append.mpr ⟨ih, List.forall_mem_singleton.mpr fun own found => ?_⟩
      obtain rfl := Option.some.inj found
      exact Block.Kind.mem_of_declares declared

theorem regular (reached : workspace.Reaches vocabulary path block) : path.Regular := by
  have plain : ∀ slot ∈ ["do", "then", "else", "statements"], '[' ∉ slot.toList := by decide
  induction reached with
  | top _ => exact .topLevel _
  | inside _ _ declared _ ih => exact ih.child (plain _ (Block.Kind.mem_of_declares declared)) _

/-- **A path reaches one block**, whichever types are understood on the way. -/
theorem unique (reached : workspace.Reaches vocabulary path block)
    (reachedToo : workspace.Reaches other path found) : block = found := by
  induction reached generalizing found with
  | @top index block there =>
      generalize same : Block.Path.topLevel index = path at reachedToo
      cases reachedToo with
      | top thereToo =>
          obtain rfl := (Block.Path.Step.mk.inj (List.cons.inj (Block.Path.mk.inj same)).1).2
          exact Option.some.inj (there.symm.trans thereToo)
      | inside _ _ _ _ => exact absurd same.symm Block.Path.child_ne_topLevel
  | @inside path parent _ slot index block _ _ _ there ih =>
      generalize same : path.child slot index = whole at reachedToo
      cases reachedToo with
      | top _ => exact absurd same Block.Path.child_ne_topLevel
      | inside outer _ _ thereToo =>
          obtain ⟨rfl, rfl, rfl⟩ := Block.Path.child_inj same
          obtain rfl := ih outer
          exact Option.some.inj (there.symm.trans thereToo)

end Workspace.Reaches

/-! ## Paths that errors show -/

/-- The paths in the message of an error: that of the block that it is about, and that of an action
that has a name already. -/
inductive Compile.Error.Shows : Compile.Error → Block.Path → Prop where
  | about (path : Block.Path) (fault : BlockFault) : Shows (.block path fault) path
  | declared (path first : Block.Path) (field name : String) :
      Shows (.block path (.invalidField field (.duplicateAction name (.action first)))) first

/-- What a true error shows are paths to blocks. -/
theorem Compile.Error.Holds.reaches {compiler : Compiler} {workspace : Workspace}
    {error : Compile.Error} (holds : error.Holds compiler workspace) {path : Block.Path}
    (shown : error.Shows path) : ∃ block, workspace.Reaches compiler.vocabulary path block := by
  cases shown with
  | about path fault =>
      obtain ⟨block, first, -⟩ := holds
      exact ⟨block, first.reaches⟩
  | declared path first field name =>
      obtain ⟨block, -, text, -, -, -, -, declares⟩ := holds
      obtain ⟨_, place, action, -, -, rfl, there, -⟩ := declares
      exact ⟨action, .top there⟩

/-- What an error of the compiler shows are paths to blocks. -/
theorem Compiler.reaches_of_lower_eq_error {compiler : Compiler} {workspace : Workspace}
    {error : Compile.Error} (fails : compiler.lower workspace = .error error) {path : Block.Path}
    (shown : error.Shows path) : ∃ block, workspace.Reaches compiler.vocabulary path block := by
  rw [lower_eq, report_eq_error_iff] at fails
  have holds : error.Holds compiler workspace := by
    rcases head?_append_eq_some_iff.mp fails with own | ⟨clean, default⟩
    · exact holds_of_head?_pieceFaults [] rfl nofun own
    · exact holds_of_defaultFaults clean (List.mem_of_mem_head? default)
  exact holds.reaches shown

/-- **A rendered path names one block.** Paths that start at the workspace or at one of its blocks
and lead through slots without an opening bracket in their names have the same steps if they have
the same text. The paths that an error of the compiler shows are such, since their slots are the
ones that kinds of blocks have, and they lead to blocks. So two blocks of a workspace whose paths
have the same text are the same block, in the same place. -/
theorem Block.Path.text_exact :
    (∀ path other : Block.Path, path.Regular → other.Regular → path.text = other.text →
      path.steps = other.steps) ∧
    (∀ (compiler : Compiler) (workspace : Workspace) (error : Compile.Error) (path : Block.Path),
      compiler.lower workspace = .error error → error.Shows path →
        path.Regular ∧
        (∀ step ∈ path.steps, ∀ slot ∈ step.slot?, slot ∈ ["do", "then", "else", "statements"]) ∧
        ∃ block, workspace.Reaches compiler.vocabulary path block) ∧
    ∀ (workspace : Workspace) (vocabulary others : Vocabulary) (path other : Block.Path)
      (block found : Block), workspace.Reaches vocabulary path block →
        workspace.Reaches others other found → path.text = other.text →
          path = other ∧ block = found := by
  refine ⟨fun path other => steps_eq_of_text_eq, ?_, ?_⟩
  · intro compiler workspace error path fails shown
    obtain ⟨block, reached⟩ := Compiler.reaches_of_lower_eq_error fails shown
    exact ⟨reached.regular, reached.slots_mem, block, reached⟩
  · intro workspace vocabulary others path other block found reached reachedToo same
    obtain ⟨steps⟩ := path
    obtain ⟨otherSteps⟩ := other
    obtain rfl : steps = otherSteps :=
      steps_eq_of_text_eq reached.regular reachedToo.regular same
    exact ⟨rfl, reached.unique reachedToo⟩

/-- An action with the name of an earlier one, which its error shows as well, and a path through a
slot whose name looks like the text of a path. -/
theorem Block.Path.text_exact_duplicate :
    let lamp := ((Block.ofType "publish").withField "topic" "lamp").withField "payload" "on"
    let blink := (((Block.ofType "action").withField "name" "Blink").withField "every"
      "5s").withSlot "do" [lamp]
    let workspace : Workspace := ⟨[blink, blink]⟩
    let standard := Compiler.standard.vocabulary
    let error := Compile.Error.block (.topLevel 1)
      (.invalidField "name" (.duplicateAction "Blink" (.action (.topLevel 0))))
    let path := ((topLevel 12).child "0].do" 3).child "else" 0
    let other : Block.Path := ⟨[⟨none, 12⟩, ⟨some "0].do", 3⟩, ⟨some "else", 0⟩]⟩
    path.text = "workspace[12].0].do[3].else[0]" ∧ path.steps = other.steps ∧
      Compiler.standard.lower workspace = .error error ∧ (topLevel 0).Regular ∧
      ∃ block, workspace.Reaches standard (.topLevel 0) block ∧
        ∀ found, workspace.Reaches standard (.topLevel 0) found → block = found := by
  intro lamp blink workspace standard error path other
  have regular : path.Regular := ((Regular.topLevel 12).child (by decide) 3).child (by decide) 0
  have regularToo : other.Regular := regular
  have fails : Compiler.standard.lower workspace = .error error := by decide +kernel
  obtain ⟨start, -, block, reached⟩ := text_exact.2.1 .standard workspace error (.topLevel 0) fails
    (.declared _ _ _ _)
  have steps := text_exact.1 path other regular regularToo rfl
  refine ⟨by decide, steps, fails, start, block, reached, fun found reachedToo => ?_⟩
  exact (text_exact.2.2 workspace standard standard _ _ block found reached reachedToo rfl).2

end BlockScript
