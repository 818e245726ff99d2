import BlockScript.Proofs.Compile.RoundTrip
import BlockScript.Script.Outline

/-!
# Outlines tell programs apart

Two programs without line feeds in their names and conditions that have the same outline are the
same program (`outline_exact`).

An outline is taken apart in the order in which it was made. Its lines can be told apart, as none of
them has a line feed in it. The lines of sibling trees belong to the first tree up to the next line
that starts with the mark of a node, since the lines below a node start with a margin (`isBelow`);
so the drawing gives back the labels and how they lie below each other, whatever the labels say
(`linesAll_inj`). A label in turn gives back what it was made of: the interval at the end of an
action's label is a word without blanks (`Action.label_inj`), and a literal in the label of a
statement ends with its quote (`Statement.publishLabel_inj`).
-/

set_option autoImplicit false

namespace BlockScript.Script

/-! ## Drawings -/

namespace Outline

/-- Holds of a line that starts with a margin, and so stands below a node. -/
def isBelow (line : List Char) : Bool := line.head? == some ' ' || line.head? == some '│'

theorem isBelow_margin_append (isLast : Bool) (line : List Char) :
    isBelow (margin isLast ++ line) = true := by
  cases isLast <;> rfl

theorem isBelow_marker_append (isLast : Bool) (label : List Char) :
    isBelow (marker isLast ++ label) = false := by
  cases isLast <;> rfl

/-- The mark of a node says whether the node is the last one, and the rest is its label. -/
theorem marker_append_inj {isLast isLastToo : Bool} {label other : List Char}
    (same : marker isLast ++ label = marker isLastToo ++ other) :
    isLast = isLastToo ∧ label = other := by
  have long (last : Bool) : (marker last).length = 4 := by cases last <;> rfl
  obtain ⟨marks, labels⟩ := List.append_inj same ((long isLast).trans (long isLastToo).symm)
  refine ⟨?_, labels⟩
  revert marks
  cases isLast <;> cases isLastToo <;> decide

theorem isBelow_of_mem_map_margin {isLast : Bool} {lines : List (List Char)} {line : List Char}
    (member : line ∈ lines.map (margin isLast ++ ·)) : isBelow line = true := by
  obtain ⟨inner, -, rfl⟩ := List.mem_map.mp member
  exact isBelow_margin_append isLast inner

/-- A drawing starts with the mark of a node. -/
theorem isBelow_of_mem_head?_linesAll : {trees : List Outline} → {line : List Char} →
    line ∈ (linesAll trees).head? → isBelow line = false
  | .node label _ :: rest, _, first => by
      obtain rfl := Option.some.inj first
      exact isBelow_marker_append rest.isEmpty label

/-- **A drawing shows one list of trees only.** -/
theorem linesAll_inj : {trees others : List Outline} → linesAll trees = linesAll others →
    trees = others
  | [], [], _ => rfl
  | [], .node _ _ :: _, same => nomatch same
  | .node _ _ :: _, [], same => nomatch same
  | .node label below :: rest, .node label' below' :: others, same => by
      rw [linesAll, lines, linesAll, lines] at same
      obtain ⟨first, later⟩ := List.cons.inj same
      obtain ⟨sameLast, rfl⟩ := marker_append_inj first
      rw [← sameLast] at later
      obtain ⟨inside, after⟩ := Text.run_append_inj isBelow
        (fun _ => isBelow_of_mem_map_margin) (fun _ => isBelow_of_mem_map_margin)
        (fun _ => isBelow_of_mem_head?_linesAll) (fun _ => isBelow_of_mem_head?_linesAll) later
      have cancel : Function.Injective (margin rest.isEmpty ++ ·) :=
        fun _ _ => List.append_cancel_left
      obtain rfl := linesAll_inj (List.map_injective_iff.mpr cancel inside)
      obtain rfl := linesAll_inj after
      rfl

mutual
/-- No label of a tree has a line feed in it. -/
def Unbroken : Outline → Prop
  | .node label below => '\n' ∉ label ∧ UnbrokenAll below

/-- No label of some trees has a line feed in it. -/
def UnbrokenAll : List Outline → Prop
  | [] => True
  | tree :: rest => tree.Unbroken ∧ UnbrokenAll rest
end

theorem newline_notMem_of_mem_linesAll : (trees : List Outline) → UnbrokenAll trees →
    ∀ line ∈ linesAll trees, '\n' ∉ line
  | [], _ => nofun
  | .node label below :: rest, unbroken => by
      obtain ⟨⟨own, inside⟩, later⟩ := unbroken
      have marks : '\n' ∉ marker rest.isEmpty := by cases rest.isEmpty <;> decide
      have margins : '\n' ∉ margin rest.isEmpty := by cases rest.isEmpty <;> decide
      have below := newline_notMem_of_mem_linesAll below inside
      have others := newline_notMem_of_mem_linesAll rest later
      rw [linesAll, lines, List.cons_append, List.forall_mem_cons, List.forall_mem_append,
        List.forall_mem_map]
      refine ⟨?_, fun line member => ?_, others⟩
      · exact List.mem_append.not.mpr (not_or.mpr ⟨marks, own⟩)
      · exact List.mem_append.not.mpr (not_or.mpr ⟨margins, below line member⟩)

end Outline

/-! ## Statements -/

namespace Statement

/-- A label gives back the topic and the payload. -/
theorem publishLabel_inj {topic topic' payload payload' : String}
    (same : "Publish ".toList ++ quoteChars topic.toList ++ ' ' :: quoteChars payload.toList =
      "Publish ".toList ++ quoteChars topic'.toList ++ ' ' :: quoteChars payload'.toList) :
    topic = topic' ∧ payload = payload' := by
  rw [List.append_assoc, List.append_assoc] at same
  obtain ⟨topics, rest⟩ := quoteChars_append_inj (List.append_cancel_left same)
  have payloads := congrArg (· ++ []) (List.cons.inj rest).2
  exact ⟨String.toList_inj.mp topics, String.toList_inj.mp (quoteChars_append_inj payloads).1⟩

/-- A missing second branch is not shown, and every other one is. -/
theorem elseOutline_inj {no no' : List Statement}
    (same : (if no.isEmpty then [] else [Outline.node "Else".toList (outlineAll no)]) =
      if no'.isEmpty then [] else [Outline.node "Else".toList (outlineAll no')]) :
    outlineAll no = outlineAll no' := by
  cases no <;> cases no' <;> simp_all

/-- **The outlines of statements tell them apart.** -/
theorem outlineAll_inj : {statements others : List Statement} →
    outlineAll statements = outlineAll others → statements = others
  | [], [], _ => rfl
  | [], _ :: _, same => nomatch same
  | _ :: _, [], same => nomatch same
  | .publish topic payload :: rest, .publish topic' payload' :: others, same => by
      obtain ⟨first, later⟩ := List.cons.inj same
      obtain ⟨labels, -⟩ := Outline.node.inj first
      obtain ⟨rfl, rfl⟩ := publishLabel_inj labels
      obtain rfl := outlineAll_inj later
      rfl
  | .conditional condition yes no :: rest, .conditional condition' yes' no' :: others, same => by
      obtain ⟨first, later⟩ := List.cons.inj same
      obtain ⟨labels, branches⟩ := Outline.node.inj first
      obtain ⟨yesBranch, noBranch⟩ := List.cons.inj branches
      obtain rfl := String.toList_inj.mp (List.append_cancel_left labels)
      obtain rfl := outlineAll_inj (Outline.node.inj yesBranch).2
      obtain rfl := outlineAll_inj (elseOutline_inj noBranch)
      obtain rfl := outlineAll_inj later
      rfl
  | .publish _ _ :: _, .conditional _ _ _ :: _, same => by
      obtain ⟨labels, -⟩ := Outline.node.inj (List.cons.inj same).1
      exact absurd (congrArg List.head? labels) (by simp)
  | .conditional _ _ _ :: _, .publish _ _ :: _, same => by
      obtain ⟨labels, -⟩ := Outline.node.inj (List.cons.inj same).1
      exact absurd (congrArg List.head? labels) (by simp)

theorem unbrokenAll_outlineAll : (statements : List Statement) → UnbrokenAll statements →
    Outline.UnbrokenAll (outlineAll statements)
  | [], _ => trivial
  | .publish topic payload :: rest, unbroken => by
      refine ⟨⟨?_, trivial⟩, unbrokenAll_outlineAll rest unbroken.2⟩
      simp [newline_notMem_quoteChars]
  | .conditional condition yes no :: rest, unbroken => by
      obtain ⟨⟨noFeed, first, second⟩, later⟩ := unbroken
      have thenBranch := unbrokenAll_outlineAll yes first
      have elseBranch := unbrokenAll_outlineAll no second
      have noFeedThen : '\n' ∉ "Then".toList := by decide
      have noFeedElse : '\n' ∉ "Else".toList := by decide
      refine ⟨⟨?_, ⟨noFeedThen, thenBranch⟩, ?_⟩, unbrokenAll_outlineAll rest later⟩
      · simp [noFeed]
      · split
        · trivial
        · exact ⟨⟨noFeedElse, elseBranch⟩, trivial⟩

end Statement

/-! ## Actions -/

/-- **A label gives back the name and the interval of an action**, also where the name ends like a
label itself. -/
theorem Action.label_inj {action other : Action} (same : action.label = other.label) :
    action.name = other.name ∧ action.every = other.every := by
  unfold label at same
  -- the interval is what stands between the last blank and the bracket at the end
  have notBlank (action : Action) : ∀ c ∈ action.every.text.toList, (!Text.isBlank c) = true := by
    intro c member
    rw [Duration.notBlank_of_mem_text member, Bool.not_false]
  have blank (action : Action) : ∀ c ∈ ("Action ".toList ++ action.name.toList ++
      " (every ".toList).getLast?, (!Text.isBlank c) = false := by
    intro c last
    rw [List.getLast?_append] at last
    obtain rfl := Option.some.inj last
    decide
  obtain ⟨names, everys⟩ := Text.append_run_inj _ (notBlank action) (notBlank other) (blank action)
    (blank other) (List.append_cancel_right same)
  have name := List.append_cancel_left (List.append_cancel_right names)
  have every := congrArg Duration.parse (String.toList_inj.mp everys)
  rw [Duration.parse_text, Duration.parse_text] at every
  exact ⟨String.toList_inj.mp name, Except.ok.inj every⟩

theorem Action.outline_inj {action other : Action} (same : action.outline = other.outline) :
    action = other := by
  obtain ⟨labels, bodies⟩ := Outline.node.inj same
  obtain ⟨name, every, body⟩ := action
  obtain ⟨rfl, rfl⟩ := label_inj labels
  obtain rfl := Statement.outlineAll_inj bodies
  rfl

theorem Action.Unbroken.outline {action : Action} (unbroken : action.Unbroken) :
    action.outline.Unbroken := by
  have every : '\n' ∉ action.every.text.toList :=
    newline_notMem_of_notBlank fun _ => Duration.notBlank_of_mem_text
  refine ⟨?_, Statement.unbrokenAll_outlineAll action.body unbroken.body⟩
  unfold label
  simp only [List.mem_append, not_or]
  exact ⟨⟨⟨⟨by decide, unbroken.name⟩, by decide⟩, every⟩, by decide⟩

/-! ## Programs -/

theorem Outline.unbrokenAll_map_outline : {actions : List Action} →
    (∀ action ∈ actions, action.Unbroken) → Outline.UnbrokenAll (actions.map Action.outline)
  | [], _ => trivial
  | _ :: _, unbroken => by
      obtain ⟨own, others⟩ := List.forall_mem_cons.mp unbroken
      exact ⟨own.outline, unbrokenAll_map_outline others⟩

theorem Program.newline_notMem_title (program : Program) : '\n' ∉ program.title := by
  have digits : '\n' ∉ program.actions.length.repr.toList := by
    rw [Nat.toList_repr]
    exact newline_notMem_of_notBlank fun _ member =>
      Text.isBlank_eq_false_of_isDigit (Duration.isDigit_of_mem_toDigits member)
  unfold title
  simp only [List.mem_append, not_or]
  exact ⟨⟨by decide, digits⟩, by decide⟩

/-- The lines of an outline have no line feeds in them. -/
theorem Program.Unbroken.newline_notMem_outline {program : Program} (unbroken : program.Unbroken) :
    ∀ line ∈ program.title :: Outline.linesAll (program.actions.map Action.outline),
      '\n' ∉ line := by
  rw [List.forall_mem_cons]
  exact ⟨program.newline_notMem_title,
    Outline.newline_notMem_of_mem_linesAll _ (Outline.unbrokenAll_map_outline unbroken)⟩

/-- Programs without line feeds in their names and conditions differ in their outlines. -/
theorem Program.eq_of_outline_eq {program other : Program} (unbroken : program.Unbroken)
    (unbrokenToo : other.Unbroken) (same : program.outline = other.outline) : program = other := by
  have lines := Text.flatMap_newline_inj unbroken.newline_notMem_outline
    unbrokenToo.newline_notMem_outline (String.ofList_inj.mp same)
  have trees := Outline.linesAll_inj (List.cons.inj lines).2
  have single : Function.Injective Action.outline := fun _ _ => Action.outline_inj
  obtain ⟨actions⟩ := program
  obtain rfl := List.map_injective_iff.mpr single trees
  rfl

/-- **The outline of a program loses nothing.** Two programs with the same outline are the same
program, if no name and no condition in them has a line feed in it. Every program that is compiled
from a workspace or read from a script is of this kind. -/
theorem Program.outline_exact :
    (∀ program other : Program, program.Unbroken → other.Unbroken →
      program.outline = other.outline → program = other) ∧
    (∀ (compiler : Compiler) (workspace : Workspace) (program : Program),
      compiler.lower workspace = .ok program → program.Unbroken) ∧
    ∀ (width : Nat) (source : String) (program : Program),
      Program.parse width source = .ok program → program.Unbroken := by
  refine ⟨fun program other => eq_of_outline_eq, ?_, ?_⟩
  · intro compiler workspace program lowered
    exact (Compiler.wellFormed_of_lower lowered).unbroken
  · intro width source program reads
    exact (wellFormed_of_parse reads).unbroken

/-- A workspace and a script, with a condition and a payload that look like lines of an outline. -/
theorem Program.outline_exact_misleading :
    let warn := ((Block.ofType "publish").withField "topic" "lamp").withField "payload" "└── Else"
    let workspace : Workspace :=
      ⟨[((Block.ofType "if").withField "condition" "│   (every 1s)").withSlot "then" [warn]]⟩
    let source := "DEFINE ACTION MyAction ON EVERY 15 DO\nIF │   (every 1s) THEN\n" ++
      "  PUBLISH TOPIC \"lamp\"   \"└── Else\""
    ∃ lowered read, Compiler.standard.lower workspace = .ok lowered ∧
      Program.parse 2 source = .ok read ∧ lowered.outline = read.outline ∧ lowered = read := by
  intro warn workspace source
  let lamp : Program := ⟨[⟨"MyAction", .standard, [.conditional "│   (every 1s)"
    [.publish "lamp" "└── Else"] []]⟩]⟩
  have lowers : Compiler.standard.lower workspace = .ok lamp := by decide +kernel
  have reads : Program.parse 2 source = .ok lamp := by decide +kernel
  refine ⟨lamp, lamp, lowers, reads, rfl, ?_⟩
  exact outline_exact.1 lamp lamp (outline_exact.2.1 .standard workspace lamp lowers)
    (outline_exact.2.2 2 source lamp reads) rfl

end BlockScript.Script
