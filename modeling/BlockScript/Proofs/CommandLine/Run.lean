import BlockScript.CommandLine.Execution
import BlockScript.Proofs.CommandLine.Arguments
import BlockScript.Proofs.CommandLine.Directory
import BlockScript.Proofs.Compile.RoundTrip

/-!
# What a run comes to

A run that is asked for a compilation delivers a script or nothing, in every file system.
`Invocation.Compiles` says which script it is, stage by stage and in terms of the library alone, and
`Delivers` says where it goes. A run succeeds exactly if there is such a script and it can be
written where it goes; every other run leaves the files as they were and shows nothing on standard
output (`run_delivers`).

What a run shows on standard error is the only thing that depends on the outline and on the
verification: `run_eq_conclude` says what the rest depends on.
-/

set_option autoImplicit false

namespace BlockScript.CommandLine

/-! ## The script of a compilation -/

namespace Invocation

/-- The options that a compilation starts from: those of the options file, where one is named. -/
inductive Configured (invocation : Invocation) (files : Files) : Options → Prop where
  | standard (unnamed : invocation.configPath? = none) : Configured invocation files .standard
  | file {path text : String} {options : Options} (named : invocation.configPath? = some path)
      (reads : files path = .ok text) (holds : Options.ofJson text = .ok options) :
      Configured invocation files options

/-- A compilation has a script: the script of the workspace in the workspace file, by the compiler
of the options, of which the arguments replace three. -/
inductive Compiles (invocation : Invocation) (files : Files) : String → Prop where
  | script {options : Options} {compiler : Compiler} {text : String} {workspace : Workspace}
      {code : String} (configured : invocation.Configured files options)
      (usable : Compiler.ofOptions
        { defaultActionName := invocation.actionName?.getD options.defaultActionName
          defaultTrigger := invocation.every?.getD options.defaultTrigger
          indentWidth := invocation.indent?.getD options.indentWidth
          typeMappings := options.typeMappings } = .ok compiler)
      (reads : files invocation.workspacePath = .ok text)
      (loads : Workspace.load invocation.format text = .ok workspace)
      (compiles : compiler.compile workspace = .ok code) : Compiles invocation files code

theorem readOptions_eq_ok_iff {invocation : Invocation} {files : Files} {options : Options} :
    invocation.readOptions files = .ok options ↔ invocation.Configured files options := by
  unfold readOptions
  constructor
  · intro reading
    split at reading
    · next unnamed =>
      obtain rfl := Except.ok.inj reading
      exact .standard unnamed
    · next path named =>
      split at reading
      · cases reading
      · next text reads => exact .file named reads (mapError_eq_ok_iff.mp reading)
  · rintro (unnamed | ⟨named, reads, holds⟩)
    · rw [unnamed]
    · simp only [named, reads]
      exact mapError_eq_ok_iff.mpr holds

theorem compiler_eq_ok_iff {invocation : Invocation} {files : Files} {compiler : Compiler} :
    invocation.compiler files = .ok compiler ↔
      ∃ options, invocation.readOptions files = .ok options ∧
        Compiler.ofOptions (invocation.override options) = .ok compiler := by
  simp only [Invocation.compiler, bind_eq_ok_iff, mapError_eq_ok_iff]

theorem workspace_eq_ok_iff {invocation : Invocation} {files : Files} {workspace : Workspace} :
    invocation.workspace files = .ok workspace ↔
      ∃ text, files invocation.workspacePath = .ok text ∧
        Workspace.load invocation.format text = .ok workspace := by
  unfold Invocation.workspace
  cases files invocation.workspacePath with
  | error reason => simp
  | ok text => simp [mapError_eq_ok_iff]

/-- The script of a compilation, or what is wrong. -/
def script (invocation : Invocation) (files : Files) : Except Failure String :=
  (invocation.prepared files).map fun (compiler, program) => compiler.render program

/-- **A compilation that gets as far as its program has the script of that program**, and one that
has a script gets there. -/
theorem script_eq_ok_iff {invocation : Invocation} {files : Files} {code : String} :
    invocation.script files = .ok code ↔ invocation.Compiles files code := by
  rw [script, map_eq_ok_iff]
  constructor
  · rintro ⟨⟨compiler, program⟩, preparing, rfl⟩
    obtain ⟨own, configuring, preparing⟩ := bind_eq_ok_iff.mp preparing
    obtain ⟨workspace, loading, preparing⟩ := bind_eq_ok_iff.mp preparing
    obtain ⟨lowered, lowering, same⟩ := bind_eq_ok_iff.mp preparing
    obtain ⟨rfl, rfl⟩ := Prod.mk.inj (Except.ok.inj same)
    obtain ⟨options, configured, usable⟩ := compiler_eq_ok_iff.mp configuring
    obtain ⟨text, reads, loads⟩ := workspace_eq_ok_iff.mp loading
    refine .script (readOptions_eq_ok_iff.mp configured) usable reads loads ?_
    exact map_eq_ok_iff.mpr ⟨lowered, mapError_eq_ok_iff.mp lowering, rfl⟩
  · rintro ⟨configured, usable, reads, loads, compiles⟩
    obtain ⟨program, lowered, rfl⟩ := map_eq_ok_iff.mp compiles
    refine ⟨(_, program), ?_, rfl⟩
    refine bind_eq_ok_iff.mpr ⟨_, compiler_eq_ok_iff.mpr
      ⟨_, readOptions_eq_ok_iff.mpr configured, usable⟩, ?_⟩
    refine bind_eq_ok_iff.mpr ⟨_, workspace_eq_ok_iff.mpr ⟨_, reads, loads⟩, ?_⟩
    exact bind_eq_ok_iff.mpr ⟨program, mapError_eq_ok_iff.mpr lowered, rfl⟩

/-- **The verification changes nothing.** Whether a script is read back or not, what comes of it is
the script of the program, as it is read back as that program. -/
theorem result_outcome_eq (invocation : Invocation) (files : Files) :
    (invocation.outcome files).result =
      (invocation.prepared files).map fun (compiler, program) =>
        ⟨compiler.render program, program.actions.length, invocation.outputPath?⟩ := by
  rw [result_outcome]
  cases prepared : invocation.prepared files with
  | error failure => rfl
  | ok pair =>
      simp only [ok_bind, verified_of_prepared prepared, ite_self]
      rfl

/-- Two compilations differ at most in whether the outline is shown and the script is read back. -/
def SameScript (invocation other : Invocation) : Prop :=
  { invocation with tree := other.tree, verify := other.verify } = other

theorem SameScript.script_eq {invocation other : Invocation} (same : invocation.SameScript other)
    (files : Files) : invocation.script files = other.script files := by
  rw [← same]
  rfl

theorem SameScript.outputPath?_eq {invocation other : Invocation}
    (same : invocation.SameScript other) : invocation.outputPath? = other.outputPath? := by
  rw [← same]

end Invocation

/-! ## Where the script goes -/

variable {State : Type} [FileSystem State]

/-- A script can be written where it goes. -/
def Invocation.Deliverable (invocation : Invocation) (code : String) (before : State) : Prop :=
  ∀ path, invocation.outputPath? = some path →
    ∃ after, FileSystem.write before path code = .ok after

/-- A script is delivered: to standard output where no path is named for it, and otherwise to the
file to which the path leads, and nowhere else. -/
structure Delivers (path? : Option String) (code : String) (before : State)
    (result : Result State) : Prop where
  /-- Without a path the script is all of standard output, and no file changes. -/
  shown : path? = none → result.stdout = code ∧ result.files = before
  /-- With a path nothing is shown on standard output, and the files are those after the script has
  been written at the path, and nothing else. -/
  written : ∀ path, path? = some path →
    result.stdout = "" ∧ FileSystem.write before path code = .ok result.files
  /-- The script is what the file then holds to which the path leads, and what is read there. -/
  held : ∀ path file, path? = some path → FileSystem.file? before path = some file →
    FileSystem.content? result.files file = some code ∧
      FileSystem.read result.files path = .ok code
  /-- Every other file holds what it held. -/
  kept : ∀ path other, path? = some path → FileSystem.file? before path ≠ some other →
    FileSystem.content? result.files other = FileSystem.content? before other

theorem delivers_shown (code stderr : String) (before : State) :
    Delivers none code before ⟨0, code, stderr, before⟩ :=
  ⟨fun _ => ⟨rfl, rfl⟩, nofun, nofun, nofun⟩

/-- **What is written is delivered.** -/
theorem delivers_of_write [LawfulFileSystem State] {path code : String} {before after : State}
    (writes : FileSystem.write before path code = .ok after) (stderr : String) :
    Delivers (some path) code before ⟨0, "", stderr, after⟩ where
  shown := nofun
  written := by
    rintro _ ⟨⟩
    exact ⟨rfl, writes⟩
  held := by
    rintro _ file ⟨⟩ leads
    exact ⟨LawfulFileSystem.content?_write writes leads, FileSystem.read_write writes leads⟩
  kept := by
    rintro _ other ⟨⟩ elsewhere
    exact LawfulFileSystem.content?_write_of_ne writes elsewhere

/-! ## Runs -/

/-- What a run comes to that has a script, or none, and a text for standard error. -/
def conclude (path? : Option String) (before : State) (stderr : String)
    (script : Except Failure String) : Result State :=
  match script, path? with
  | .error _, _ => ⟨1, "", stderr, before⟩
  | .ok code, none => ⟨0, code, stderr, before⟩
  | .ok code, some path =>
    match FileSystem.write before path code with
    | .error _ => ⟨1, "", stderr, before⟩
    | .ok after => ⟨0, "", stderr, after⟩

/-- **Apart from standard error, a run comes to what its script and its path come to.** -/
theorem run_eq_conclude {arguments : List String} {invocation : Invocation}
    (asked : read arguments = .compile invocation) (before : State) :
    ∃ stderr, run arguments before = conclude invocation.outputPath? before stderr
      (invocation.script (FileSystem.read before)) := by
  rw [run, asked]
  simp only [Invocation.run, Invocation.script, Invocation.result_outcome_eq]
  cases invocation.prepared (FileSystem.read before) with
  | error failure => exact ⟨_, rfl⟩
  | ok pair =>
      simp only [Except.map, conclude]
      cases invocation.outputPath? with
      | none => exact ⟨_, rfl⟩
      | some path =>
          simp only
          cases FileSystem.write before path (pair.1.render pair.2) with
          | error reason => exact ⟨_, rfl⟩
          | ok after => exact ⟨_, rfl⟩

theorem exitCode_conclude_eq_zero_iff {path? : Option String} {before : State} {stderr : String}
    {script : Except Failure String} :
    (conclude path? before stderr script).exitCode = 0 ↔
      ∃ code, script = .ok code ∧
        ∀ path, path? = some path → ∃ after, FileSystem.write before path code = .ok after := by
  cases script with
  | error failure => simp [conclude]
  | ok code =>
      cases path? with
      | none => simp [conclude]
      | some path =>
          simp only [conclude, Except.ok.injEq, exists_eq_left', Option.some.injEq, forall_eq']
          cases FileSystem.write before path code <;> simp

theorem delivers_conclude [LawfulFileSystem State] {path? : Option String} {before : State}
    {stderr code : String} (succeeds : (conclude path? before stderr (.ok code)).exitCode = 0) :
    Delivers path? code before (conclude path? before stderr (.ok code)) := by
  cases path? with
  | none => exact delivers_shown code stderr before
  | some path =>
      simp only [conclude] at succeeds ⊢
      cases writes : FileSystem.write before path code with
      | error reason =>
          rw [writes] at succeeds
          cases succeeds
      | ok after => exact delivers_of_write writes stderr

theorem conclude_of_exitCode_ne_zero {path? : Option String} {before : State} {stderr : String}
    {script : Except Failure String}
    (fails : (conclude path? before stderr script).exitCode ≠ 0) :
    (conclude path? before stderr script).stdout = "" ∧
      (conclude path? before stderr script).files = before := by
  unfold conclude at fails ⊢
  split
  · exact ⟨rfl, rfl⟩
  · exact absurd rfl fails
  · split
    · exact ⟨rfl, rfl⟩
    · next writes =>
      simp only [writes] at fails
      exact absurd rfl fails

theorem conclude_of_stderr (path? : Option String) (before : State) (stderr other : String)
    (script : Except Failure String) :
    (conclude path? before stderr script).exitCode =
        (conclude path? before other script).exitCode ∧
      (conclude path? before stderr script).stdout =
        (conclude path? before other script).stdout ∧
      (conclude path? before stderr script).files =
        (conclude path? before other script).files := by
  unfold conclude
  split
  · exact ⟨rfl, rfl, rfl⟩
  · exact ⟨rfl, rfl, rfl⟩
  · split <;> exact ⟨rfl, rfl, rfl⟩

/-- **A run delivers its script or nothing.** In every file system, of a run whose arguments ask
neither for the version nor for help:

* it succeeds exactly if its arguments ask for a compilation that has a script, and the script can
  be written where it goes;
* if it succeeds, the script is delivered there, and nowhere else;
* if it fails, nothing is shown on standard output and no file changes;
* whether the outline is shown and the script is read back makes no difference to the exit code,
  standard output and the files. -/
theorem run_delivers [LawfulFileSystem State] {arguments : List String}
    (noVersion : ¬ AsksFor .version arguments) (noHelp : ¬ AsksFor .help arguments)
    (before : State) :
    ((run arguments before).exitCode = 0 ↔ ∃ invocation code, Asks arguments invocation ∧
      invocation.Compiles (FileSystem.read before) code ∧ invocation.Deliverable code before) ∧
    (∀ invocation code, Asks arguments invocation →
      invocation.Compiles (FileSystem.read before) code → (run arguments before).exitCode = 0 →
        Delivers invocation.outputPath? code before (run arguments before)) ∧
    ((run arguments before).exitCode ≠ 0 →
      (run arguments before).stdout = "" ∧ (run arguments before).files = before) ∧
    ∀ invocation others other, Asks arguments invocation → Asks others other →
      invocation.SameScript other →
        (run arguments before).exitCode = (run others before).exitCode ∧
          (run arguments before).stdout = (run others before).stdout ∧
          (run arguments before).files = (run others before).files := by
  simp only [← read_eq_compile_iff]
  rw [← read_eq_version_iff] at noVersion
  rw [← read_eq_help_iff] at noHelp
  cases asked : read arguments with
  | version => exact absurd asked noVersion
  | help => exact absurd asked noHelp
  | misuse =>
      have misused : run arguments before = ⟨2, "", misuseText, before⟩ := by
        rw [run, asked]
      rw [misused]
      refine ⟨⟨fun succeeds => ?_, ?_⟩, ?_, fun _ => ⟨rfl, rfl⟩, ?_⟩
      · exact absurd succeeds (Nat.succ_ne_zero 1)
      · rintro ⟨_, _, compiles, -⟩
        cases compiles
      · intro _ _ compiles
        cases compiles
      · intro _ _ _ compiles
        cases compiles
  | compile invocation =>
      obtain ⟨stderr, concludes⟩ := run_eq_conclude asked before
      rw [concludes]
      refine ⟨?_, ?_, conclude_of_exitCode_ne_zero, ?_⟩
      · rw [exitCode_conclude_eq_zero_iff]
        simp [Invocation.script_eq_ok_iff, Invocation.Deliverable]
      · rintro own code same compiles succeeds
        obtain rfl := Request.compile.inj same
        rw [Invocation.script_eq_ok_iff.mpr compiles] at succeeds ⊢
        exact delivers_conclude succeeds
      · intro own others other same askedOthers sameScript
        obtain rfl := Request.compile.inj same
        obtain ⟨otherStderr, concludesOther⟩ := run_eq_conclude askedOthers before
        rw [concludesOther, sameScript.script_eq, sameScript.outputPath?_eq]
        exact conclude_of_stderr ..

/-- A script that replaces a file. The options file names another type for a kind of blocks; its
name of the default action, its trigger and its indent width, which would not be permitted, have
others in their place. -/
theorem run_delivers_file :
    let config := "\x7b\"default_action_name\":\"A\",\"indent_width\":99," ++
      "\"type_mappings\":\x7b\"lamp\":\"publish\"\x7d\x7d"
    let lamp := "\x7b\"type\":\"lamp\",\"fields\":\x7b\"topic\":\"t\",\"payload\":\"\"\x7d\x7d"
    let text := "\x7b\"blocks\":[" ++ lamp ++ "]\x7d"
    let directory : Directory := ⟨.ofList [("c", config), ("out", "old"), ("ws", text)]⟩
    let arguments := ["--verify", "ws", "-o", "./out", "-fcanonical", "--config=c", "--indent",
      "+4", "--action-name=Blink", "--every", "5m"]
    let code := "DEFINE ACTION Blink ON EVERY 5m DO\nPUBLISH TOPIC \"t\" \"\"\n"
    ¬ AsksFor .version arguments ∧ ¬ AsksFor .help arguments ∧
      (run arguments directory).exitCode = 0 ∧
      Delivers (some "./out") code directory (run arguments directory) ∧
      FileSystem.file? directory "./out" = some "out" := by
  intro config lamp text directory arguments code
  let every : Duration := ⟨5, .minutes, by decide, by decide⟩
  let invocation : Invocation :=
    { workspacePath := "ws"
      outputPath? := some "./out"
      format := .canonical
      configPath? := some "c"
      actionName? := some "Blink"
      every? := some every
      indent? := some 4
      tree := false
      verify := true }
  let workspace : Workspace := ⟨[⟨"lamp", none, [("payload", ""), ("topic", "t")], []⟩]⟩
  let compiler : Compiler :=
    ⟨Vocabulary.standard.addAlias "lamp" "publish", ⟨"Blink", every⟩, ⟨4, by decide, by decide⟩⟩
  have asked : read arguments = .compile invocation := by decide +kernel
  have noVersion : ¬ AsksFor .version arguments := by
    rw [← read_eq_version_iff, asked]
    nofun
  have noHelp : ¬ AsksFor .help arguments := by
    rw [← read_eq_help_iff, asked]
    nofun
  have options : Options.ofJson config =
      .ok { defaultActionName := "A", indentWidth := 99
            typeMappings := .ofList [("lamp", "publish")] } := by
    decide +kernel
  have loads : Workspace.load .canonical text = .ok workspace := by decide +kernel
  have compiles : compiler.compile workspace = .ok code := by decide +kernel
  have script : invocation.Compiles (FileSystem.read directory) code :=
    .script (.file rfl (by decide +kernel) options) rfl (by decide +kernel) loads compiles
  have deliverable : invocation.Deliverable code directory := by
    rintro _ ⟨⟩
    exact ⟨_, rfl⟩
  obtain ⟨succeeds, delivers, -, -⟩ := run_delivers noVersion noHelp directory
  have zero := succeeds.mpr ⟨invocation, code, read_eq_compile_iff.mp asked, script, deliverable⟩
  have delivered := delivers invocation code (read_eq_compile_iff.mp asked) script zero
  have leads : directory.fileName? "./out" = some "out" := by decide +kernel
  exact ⟨noVersion, noHelp, zero, delivered, leads⟩

end BlockScript.CommandLine
