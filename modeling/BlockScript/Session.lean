import BlockScript.Blockly.Conversion
import BlockScript.Compile.Options
import BlockScript.Script.Reader

/-!
# Editing sessions

A session holds a workspace that is being edited, a compiler that is being configured, the compiler
in use, and the program and the script that were made last. `Session.step` carries out one command
and says what came of it; a command that fails leaves the session as it was.
-/

set_option autoImplicit false

namespace BlockScript

open Script (Program ReadError)

/-- The state of a session. -/
structure Session where
  /-- The compiler that is being configured. -/
  draft : Compiler
  /-- The compiler in use. -/
  compiler : Compiler
  /-- The workspace that is being edited. -/
  workspace : Workspace
  /-- The program that was made last. -/
  program : Program
  /-- The script that was made last. -/
  code : String

/-- A session at its start. -/
def Session.start : Session := ⟨.standard, .standard, .empty, .empty, ""⟩

/-- What a session can be asked to do. -/
inductive Command where
  /-- Starts to configure a compiler anew. -/
  | newCompiler
  /-- Configures the compiler by the text of an options file. -/
  | useOptions (text : String)
  /-- Sets the name and the trigger, by its written form, of the default action. -/
  | setDefaultAction (name every : String)
  /-- Adds a name for a kind of blocks. -/
  | addAlias (name kindName : String)
  /-- Sets the indent width. -/
  | setIndent (spaces : Nat)
  /-- Takes the compiler that is being configured into use, and starts a new one. -/
  | useCompiler
  /-- Adds a block to the workspace. -/
  | addBlock (block : Block)
  /-- Removes all blocks of the workspace. -/
  | clear
  /-- Replaces the workspace by the one of a text. -/
  | load (format : Workspace.Format) (text : String)
  /-- Removes a block of the workspace. -/
  | removeBlock (index : Nat)
  /-- Exchanges a block of the workspace and the first one. -/
  | swapWithFirst (index : Nat)
  /-- Sets the type of a block of the workspace. -/
  | setType (index : Nat) (type : String)
  /-- Sets a field of a block of the workspace. -/
  | setField (index : Nat) (name value : String)
  /-- Removes a field of a block of the workspace. -/
  | unsetField (index : Nat) (name : String)
  /-- Sets a slot of a block of the workspace. -/
  | setSlot (index : Nat) (name : String) (blocks : List Block)
  /-- Looks at a block of the workspace, and in it at the field and the slot of one name. -/
  | lookAt (index : Nat) (name : String)
  /-- Looks at the workspace. -/
  | showWorkspace
  /-- Reads the workspace back from its own text. -/
  | reload
  /-- Makes a program of the workspace. -/
  | lower
  /-- Makes a script of the workspace. -/
  | compile
  /-- Makes a script of the workspace with the standard compiler. -/
  | compileStandard
  /-- Makes a script of the program that was made last. -/
  | render
  /-- Reads the script that was made last; the standard width is used where none is given. -/
  | parse (width? : Option Nat)

/-- What came of a command. -/
inductive Reply where
  | done
  /-- The indent width of the compiler now in use. -/
  | indentWidth (spaces : Nat)
  /-- The number of blocks of the workspace. -/
  | blockCount (count : Nat)
  /-- What was seen of a block: type and id, the text of a field, the size of a slot. -/
  | block (type : String) (id? field? : Option String) (slotSize? : Option Nat)
  | workspace (workspace : Workspace)
  /-- Whether two things are the same. -/
  | comparison (same : Bool)
  | program (program : Program)
  | code (code : String)
  /-- The number of actions and of statements that were read, and whether the program is the one
  that was made before. -/
  | reading (actions statements : Nat) (same : Bool)
  /-- No block lies at the place that the command names. -/
  | noSuchBlock
  | jsonFault (fault : Json.Fault)
  | durationError (fault : Duration.ReadError)
  | compileError (error : Compile.Error)
  | readError (error : ReadError)

namespace Session

/-- The session after an edit of its workspace, which fails where the edit finds no block. -/
def edited (session : Session) (workspace? : Option Workspace) : Session × Reply :=
  match workspace? with
  | none => (session, .noSuchBlock)
  | some workspace =>
    ({ session with workspace := workspace }, .blockCount workspace.blocks.length)

/-- The session after an attempt to make a script. -/
def coded (session : Session) (result : Except Compile.Error String) : Session × Reply :=
  match result with
  | .error error => (session, .compileError error)
  | .ok code => ({ session with code := code }, .code code)

/-- Carries out a command. -/
def step (session : Session) (command : Command) : Session × Reply :=
  let { draft, compiler, workspace, program, code } := session
  match command with
  | .newCompiler => ({ session with draft := .standard }, .done)
  | .useOptions text =>
    match Options.ofJson text with
    | .error fault => (session, .jsonFault fault)
    | .ok options =>
      match Compiler.ofOptions options with
      | .error error => (session, .compileError error)
      | .ok draft => ({ session with draft := draft }, .done)
  | .setDefaultAction name every =>
    match Duration.parse every with
    | .error fault => (session, .durationError fault)
    | .ok every => ({ session with draft := draft.withDefaultAction name every }, .done)
  | .addAlias name kindName => ({ session with draft := draft.withAlias name kindName }, .done)
  | .setIndent spaces => ({ session with draft := draft.withIndent spaces }, .done)
  | .useCompiler =>
    ({ session with draft := .standard, compiler := draft }, .indentWidth draft.indent.spaces)
  | .addBlock block => session.edited (workspace.add block)
  | .clear => session.edited (some .empty)
  | .load format text =>
    match Workspace.load format text with
    | .error error => (session, .compileError error)
    | .ok workspace => session.edited workspace
  | .removeBlock index => session.edited (workspace.remove? index)
  | .swapWithFirst index => session.edited (workspace.swapWithFirst? index)
  | .setType index type =>
    session.edited (workspace.modify? index fun block => { block with type := type })
  | .setField index name value =>
    session.edited (workspace.modify? index (·.withField name value))
  | .unsetField index name => session.edited (workspace.modify? index (·.withoutField name))
  | .setSlot index name blocks =>
    session.edited (workspace.modify? index (·.withSlot name blocks))
  | .lookAt index name =>
    match workspace.blocks[index]? with
    | none => (session, .noSuchBlock)
    | some block =>
      (session, .block block.type block.id? (block.field? name)
        ((block.slot? name).map List.length))
  | .showWorkspace => (session, .workspace workspace)
  | .reload =>
    match Workspace.ofJson workspace.toJson with
    | .error fault => (session, .jsonFault fault)
    | .ok reread => (session, .comparison (reread = workspace))
  | .lower =>
    match compiler.lower workspace with
    | .error error => (session, .compileError error)
    | .ok program => ({ session with program := program }, .program program)
  | .compile => session.coded (compiler.compile workspace)
  | .compileStandard => session.coded (Compiler.standard.compile workspace)
  | .render => session.coded (.ok (compiler.render program))
  | .parse width? =>
    match Program.parse (width?.getD Script.IndentWidth.standard.spaces) code with
    | .error error => (session, .readError error)
    | .ok reread =>
      ({ session with program := reread },
        .reading reread.actions.length reread.statementCount (reread = program))

/-- Carries out commands one after the other. -/
def run (session : Session) : List Command → List Reply
  | [] => []
  | command :: rest =>
    let (session, reply) := session.step command
    reply :: session.run rest

end Session

end BlockScript
