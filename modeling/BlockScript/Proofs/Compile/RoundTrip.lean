import BlockScript.CommandLine.Run
import BlockScript.Proofs.Compile.Faultless
import BlockScript.Proofs.Script.RoundTrip

/-!
# Compiled scripts read back

Every program that the compiler makes is well formed (`Compiler.wellFormed_of_lower`): the checks of
names, conditions and slots are just what the reader of scripts needs. So the script of a workspace
is read back as the program that the workspace stands for, whatever texts its blocks have
(`Compiler.parse_compile`), and a run that is asked to verify its script never finds fault with it.
-/

set_option autoImplicit false

namespace BlockScript

open Script (Program Statement isIdentifier)

/-! ## Statements -/

theorem Block.wellFormed_flattenAll {vocabulary : Vocabulary} {blocks : List Block}
    (each : ∀ block ∈ blocks, Statement.WellFormedAll (block.flatten vocabulary)) :
    Statement.WellFormedAll (Block.flattenAll vocabulary blocks) := by
  induction blocks with
  | nil => trivial
  | cons block blocks ih =>
      obtain ⟨own, others⟩ := List.forall_mem_cons.mp each
      exact Statement.wellFormedAll_append.mpr ⟨own, ih others⟩

/-- What a slot of a faultless block holds is well formed when the blocks in it are. -/
theorem Block.Faultless.wellFormed_flattenSlot {vocabulary : Vocabulary} {path : Block.Path}
    {nested : Bool} {kind : Block.Kind} {block : Block}
    (faultless : block.Faultless vocabulary path nested kind)
    (each : ∀ slot, ∀ child ∈ block.inSlot slot, ∀ path nested,
      child.faults vocabulary path nested = [] →
        Statement.WellFormedAll (child.flatten vocabulary))
    {slot : Member} (member : slot ∈ kind.schema.slots) :
    Statement.WellFormedAll (block.flattenSlot vocabulary slot.name) := by
  refine Block.wellFormed_flattenAll fun child inside => ?_
  obtain ⟨index, found⟩ := List.mem_iff_getElem?.mp inside
  exact each slot.name child inside _ true (faultless.inside slot member index child found)

/-- **The statements of a block with which nothing is wrong are well formed.** -/
theorem Block.wellFormed_flatten {vocabulary : Vocabulary} {block : Block} :
    ∀ path nested, block.faults vocabulary path nested = [] →
      Statement.WellFormedAll (block.flatten vocabulary) := by
  induction block using Block.induction with
  | step block ih =>
      intro path nested clean
      obtain ⟨kind, faultless⟩ := Block.faults_eq_nil_iff.mp clean
      have slots {slot : Member} (member : slot ∈ kind.schema.slots) :=
        faultless.wellFormed_flattenSlot ih member
      rw [Block.flatten_eq, faultless.known]
      cases kind with
      | action => trivial
      | conditional =>
          obtain ⟨text, found, nonempty, noFeed, -⟩ := faultless.texts
          have thenMember : ⟨"then", true⟩ ∈ Block.Kind.conditional.schema.slots := by decide
          have elseMember : ⟨"else", false⟩ ∈ Block.Kind.conditional.schema.slots := by decide
          rw [← Lowering.text_eq_of_field? found] at nonempty noFeed
          exact ⟨⟨⟨nonempty, Text.trimmed_trimmed _, noFeed⟩,
            faultless.filled _ thenMember rfl, slots thenMember, slots elseMember⟩, trivial⟩
      | publish => exact ⟨trivial, trivial⟩
      | sequence =>
          have member : ⟨"statements", false⟩ ∈ Block.Kind.sequence.schema.slots := by decide
          exact slots member

/-! ## Programs -/

/-- The action for which a faultless block stands is well formed. -/
theorem Block.Faultless.wellFormed_declared {vocabulary : Vocabulary} {path : Block.Path}
    {nested : Bool} {block : Block} (faultless : block.Faultless vocabulary path nested .action) :
    (block.declared vocabulary).WellFormed := by
  obtain ⟨⟨text, found, identifier⟩, -⟩ := faultless.texts
  have member : ⟨"do", true⟩ ∈ Block.Kind.action.schema.slots := by decide
  rw [← Lowering.text_eq_of_field? found] at identifier
  refine ⟨identifier, faultless.filled _ member rfl, ?_⟩
  exact faultless.wellFormed_flattenSlot (fun _ _ _ => Block.wellFormed_flatten) member

/-- An action of an assembled program comes from a piece, or is the default action. -/
theorem mem_assemble {action : Script.Action} {default? : Option Script.Action}
    {pieces : List Lowering.Piece} (member : action ∈ Lowering.assemble default? pieces) :
    (∃ path, .action path action ∈ pieces) ∨ default? = some action := by
  induction pieces generalizing default? with
  | nil => cases member
  | cons piece pieces ih =>
      have later (member : (∃ path, .action path action ∈ pieces)) :
          ∃ path, .action path action ∈ piece :: pieces := by
        obtain ⟨path, found⟩ := member
        exact ⟨path, List.mem_cons_of_mem _ found⟩
      cases piece with
      | action path own =>
          rcases List.mem_cons.mp member with rfl | rest
          · exact .inl ⟨path, List.mem_cons_self⟩
          · exact (ih rest).imp_left later
      | loose statements =>
          rcases List.mem_append.mp member with default | rest
          · exact .inr (Option.mem_toList.mp default)
          · exact .inl (later ((ih rest).resolve_right nofun))

namespace Compiler

/-- **Every program that the compiler makes is well formed.** -/
theorem wellFormed_of_lower {compiler : Compiler} {workspace : Workspace} {program : Program}
    (lowered : compiler.lower workspace = .ok program) : program.WellFormed := by
  rw [lower_eq, report_eq_ok_iff] at lowered
  obtain ⟨clean, rfl⟩ := lowered
  obtain ⟨each, -, default⟩ := faults_eq_nil_iff.mp clean
  intro action member
  rcases mem_assemble member with ⟨path, found⟩ | made
  · obtain ⟨index, block, there, declares, rfl, rfl⟩ := Block.exists_of_action_mem_pieces found
    obtain ⟨kind, faultless⟩ := Block.faults_eq_nil_iff.mp (each index block there)
    obtain rfl := Option.some.inj (declares.symm.trans faultless.known)
    exact faultless.wellFormed_declared
  · rw [looseAction?] at made
    split at made
    · cases made
    · next nonempty =>
      obtain rfl := Option.some.inj made
      refine ⟨(default nonempty).1, nonempty, Block.wellFormed_flattenAll fun block inside => ?_⟩
      obtain ⟨index, there⟩ := List.mem_iff_getElem?.mp inside
      exact Block.wellFormed_flatten _ _ (each index block there)

/-- A script that was compiled is read back as its program. -/
theorem parse_render_of_lower {compiler : Compiler} {workspace : Workspace} {program : Program}
    (lowered : compiler.lower workspace = .ok program) :
    Program.parse compiler.indent.spaces (compiler.render program) = .ok program :=
  (wellFormed_of_lower lowered).parse_render compiler.indent

end Compiler

/-! ## Runs that verify their script -/

namespace CommandLine

/-- Holds of the failures that find fault with a script after it was compiled. -/
def Failure.OfScript : Failure → Prop
  | .unreadable _ | .different => True
  | _ => False

theorem not_ofScript_of_mapError {ε α : Type} {result : Except ε α} {make : ε → Failure}
    (others : ∀ error, ¬ (make error).OfScript) {failure : Failure}
    (fails : result.mapError make = .error failure) : ¬ failure.OfScript := by
  cases result with
  | ok value => cases fails
  | error error =>
      obtain rfl := Except.error.inj fails
      exact others error

/-- What goes wrong with the configuration is not the script's fault. -/
theorem Invocation.not_ofScript_of_compiler {invocation : Invocation} {files : Files}
    {failure : Failure} (fails : invocation.compiler files = .error failure) :
    ¬ failure.OfScript := by
  rcases bind_eq_error_iff.mp fails with reading | ⟨options, -, building⟩
  · unfold readOptions at reading
    split at reading
    · cases reading
    split at reading
    · obtain rfl := Except.error.inj reading
      exact id
    · exact not_ofScript_of_mapError (fun _ => id) reading
  · exact not_ofScript_of_mapError (fun _ => id) building

/-- What goes wrong with the workspace is not the script's fault. -/
theorem Invocation.not_ofScript_of_workspace {invocation : Invocation} {files : Files}
    {failure : Failure} (fails : invocation.workspace files = .error failure) :
    ¬ failure.OfScript := by
  unfold workspace at fails
  split at fails
  · obtain rfl := Except.error.inj fails
    exact id
  · exact not_ofScript_of_mapError (fun _ => id) fails

/-- What is compiled, and by which compiler. -/
def Invocation.prepared (invocation : Invocation) (files : Files) :
    Except Failure (Compiler × Program) := do
  let compiler ← invocation.compiler files
  let workspace ← invocation.workspace files
  let program ← (compiler.lower workspace).mapError .compilation
  return (compiler, program)

theorem Invocation.result_outcome (invocation : Invocation) (files : Files) :
    (invocation.outcome files).result =
      invocation.prepared files >>= fun (compiler, program) =>
        (if invocation.verify then
            verified compiler.indent.spaces (compiler.render program) program
          else .ok ()).map fun _ =>
            ⟨compiler.render program, program.actions.length, invocation.outputPath?⟩ := by
  unfold outcome
  rw [← prepared]
  cases invocation.prepared files <;> rfl

/-- A program that is compiled is the one for which some workspace stands. -/
theorem Invocation.exists_lower_of_prepared {invocation : Invocation} {files : Files}
    {compiler : Compiler} {program : Program}
    (prepared : invocation.prepared files = .ok (compiler, program)) :
    ∃ workspace, compiler.lower workspace = .ok program := by
  obtain ⟨_, -, prepared⟩ := bind_eq_ok_iff.mp prepared
  obtain ⟨workspace, -, prepared⟩ := bind_eq_ok_iff.mp prepared
  obtain ⟨_, lowering, same⟩ := bind_eq_ok_iff.mp prepared
  obtain ⟨rfl, rfl⟩ := Prod.mk.inj (Except.ok.inj same)
  exact ⟨workspace, mapError_eq_ok_iff.mp lowering⟩

/-- The script of a program that is compiled is found to be right. -/
theorem Invocation.verified_of_prepared {invocation : Invocation} {files : Files}
    {compiler : Compiler} {program : Program}
    (prepared : invocation.prepared files = .ok (compiler, program)) :
    verified compiler.indent.spaces (compiler.render program) program = .ok () := by
  obtain ⟨workspace, lowered⟩ := exists_lower_of_prepared prepared
  rw [verified, Compiler.parse_render_of_lower lowered]
  exact if_pos rfl

/-- What goes wrong before anything is compiled is not the script's fault. -/
theorem Invocation.not_ofScript_of_prepared {invocation : Invocation} {files : Files}
    {failure : Failure} (fails : invocation.prepared files = .error failure) :
    ¬ failure.OfScript := by
  rcases bind_eq_error_iff.mp fails with configuring | ⟨compiler, -, fails⟩
  · exact not_ofScript_of_compiler configuring
  rcases bind_eq_error_iff.mp fails with loading | ⟨workspace, -, fails⟩
  · exact not_ofScript_of_workspace loading
  rcases bind_eq_error_iff.mp fails with lowering | ⟨program, -, fails⟩
  · exact not_ofScript_of_mapError (fun _ => id) lowering
  · cases fails

/-- **A run never finds fault with the script that it compiled.** -/
theorem Invocation.not_ofScript_of_outcome {invocation : Invocation} {files : Files}
    {failure : Failure} (fails : (invocation.outcome files).result = .error failure) :
    ¬ failure.OfScript := by
  rw [result_outcome] at fails
  rcases bind_eq_error_iff.mp fails with preparing | ⟨⟨compiler, program⟩, prepared, checking⟩
  · exact not_ofScript_of_prepared preparing
  · simp only [verified_of_prepared prepared, ite_self] at checking
    cases checking

end CommandLine

/-! ## All of it -/

/-- **What the compiler writes is what the reader reads.** The script of every workspace that can
be lowered is read back as the very program that was lowered, so no run that verifies its script
fails for that script's sake. -/
theorem Compiler.parse_compile (compiler : Compiler) (workspace : Workspace) :
    (∀ program, compiler.lower workspace = .ok program →
      ∃ code, compiler.compile workspace = .ok code ∧
        Program.parse compiler.indent.spaces code = .ok program) ∧
    ∀ (invocation : CommandLine.Invocation) (files : CommandLine.Files),
      (invocation.outcome files).result ≠ .error .different ∧
        ∀ error, (invocation.outcome files).result ≠ .error (.unreadable error) := by
  refine ⟨fun program lowered => ⟨compiler.render program, ?_, parse_render_of_lower lowered⟩,
    fun invocation files => ⟨fun fails => ?_, fun error fails => ?_⟩⟩
  · rw [compile, lowered]
    rfl
  · exact CommandLine.Invocation.not_ofScript_of_outcome fails trivial
  · exact CommandLine.Invocation.not_ofScript_of_outcome fails trivial

/-- A statement outside every action, whose payload looks like further lines of a script. -/
theorem Compiler.parse_compile_payload :
    ∃ code, Compiler.standard.compile ⟨[((Block.ofType "publish").withField "topic"
        "lamp").withField "payload" "on\"\nELSE"]⟩ = .ok code ∧
      Program.parse 2 code =
        .ok ⟨[⟨"MyAction", .standard, [.publish "lamp" "on\"\nELSE"]⟩]⟩ :=
  (parse_compile .standard _).1 _ rfl

end BlockScript
