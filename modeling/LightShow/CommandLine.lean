import LightShow.Compile.Deployment
import LightShow.Settings.File
import LightShow.ShowFile.Reader
import LightShow.ShowFile.Tags
import LightShow.Text.Terminal

/-!
The command line: compiling a show file, or checking that it compiles for deployment. The
disk is whatever the caller reads from and writes to.
-/

namespace LightShow.CommandLine

inductive DiskFault where
  | notFound | notDirectory | isDirectory | nameTooLong
  | other (text : String)
  deriving DecidableEq, Repr

def DiskFault.message : DiskFault → String
  | .notFound => "No such file or directory (os error 2)"
  | .notDirectory => "Not a directory (os error 20)"
  | .isDirectory => "Is a directory (os error 21)"
  | .nameTooLong => "File name too long (os error 36)"
  | .other text => text

structure Disk (m : Type → Type) where
  read : String → m (Except DiskFault String)
  write : String → String → m (Except DiskFault Unit)

inductive Command where
  | compile (input : String) (output : Option String) (mode : Mode) (settings : Option String)
  | check (input : String) (settings : Option String)
  deriving DecidableEq, Repr

inductive Request where
  | run (c : Command)
  | version
  | help
  | refuse
  deriving DecidableEq, Repr

inductive Action where
  | compile | check
  deriving DecidableEq, Repr

inductive Choice where
  | output | mode | settings
  deriving DecidableEq, Repr

def Action.choice? : Action → String → Option Choice
  | .compile, "output" => some .output
  | .compile, "mode" => some .mode
  | _, "config" => some .settings
  | _, _ => none

/-- The operand and the options given so far. None of them may be given twice. -/
structure Given where
  input : Option String := none
  output : Option String := none
  mode : Option Mode := none
  settings : Option String := none

namespace Given

def once (old : Option String) (value : String) : Option (Option String) :=
  if old.isNone ∧ value ≠ "" then some (some value) else none

def operand (g : Given) (value : String) : Option Given :=
  (once g.input value).map fun input => { g with input }

def choose (g : Given) (value : String) : Choice → Option Given
  | .output => (once g.output value).map fun output => { g with output }
  | .settings => (once g.settings value).map fun settings => { g with settings }
  | .mode =>
    match g.mode, Mode.ofName? value with
    | none, some mode => some { g with mode := some mode }
    | _, _ => none

def finish (g : Given) : Action → Request
  | .compile =>
    match g.input with
    | some input => .run (.compile input g.output (g.mode.getD .deployment) g.settings)
    | none => .refuse
  | .check =>
    match g.input with
    | some input => .run (.check input g.settings)
    | none => .refuse

end Given

def operands (action : Action) : Given → List String → Request
  | g, [] => g.finish action
  | g, value :: rest =>
    match g.operand value with
    | some g => operands action g rest
    | none => .refuse

inductive Argument where
  | operand (value : String)
  | dashes
  | long (name : String) (value : Option String)
  | short (letter : Char) (rest : List Char)

def Argument.ofString (text : String) : Argument :=
  match text.toList with
  | ['-', '-'] => .dashes
  | '-' :: '-' :: body =>
    match Text.cut? '=' body with
    | some (name, value) => .long (String.ofList name) (some (String.ofList value))
    | none => .long (String.ofList body) none
  | '-' :: letter :: rest => .short letter rest
  | _ => .operand text

/-- The arguments of an action, one by one. With `waiting` the next one is the value of an
    option, which cannot look like an option itself. -/
def arguments (action : Action) : Option Choice → Given → List String → Request
  | none, g, [] => g.finish action
  | some _, _, [] => .refuse
  | some choice, g, text :: rest =>
    match Argument.ofString text with
    | .operand value =>
      match g.choose value choice with
      | some g => arguments action none g rest
      | none => .refuse
    | _ => .refuse
  | none, g, text :: rest =>
    match Argument.ofString text with
    | .dashes => operands action g rest
    | .operand value =>
      match g.operand value with
      | some g => arguments action none g rest
      | none => .refuse
    | .long "help" none => .help
    | .long name value =>
      match action.choice? name, value with
      | none, _ => .refuse
      | some choice, none => arguments action (some choice) g rest
      | some choice, some value =>
        match g.choose value choice with
        | some g => arguments action none g rest
        | none => .refuse
    | .short 'h' _ => .help
    | .short 'o' attached =>
      match action.choice? "output", attached with
      | none, _ => .refuse
      | some choice, [] => arguments action (some choice) g rest
      | some choice, attached =>
        let value := if attached.head? = some '=' then attached.drop 1 else attached
        match g.choose (String.ofList value) choice with
        | some g => arguments action none g rest
        | none => .refuse
    | .short _ _ => .refuse

def helpOn : List String → Request
  | [] => .help
  | [topic] => if topic ∈ ["compile", "check", "help"] then .help else .refuse
  | _ => .refuse

def request : List String → Request
  | [] => .refuse
  | text :: rest =>
    match Argument.ofString text with
    | .operand "compile" => arguments .compile none {} rest
    | .operand "check" => arguments .check none {} rest
    | .operand "help" => helpOn rest
    | .long "help" none => .help
    | .long "version" none => .version
    | .short 'h' _ => .help
    | .short 'V' _ => .version
    | _ => .refuse

inductive SettingsError where
  | disk (f : DiskFault)
  | malformed
  deriving DecidableEq, Repr

def SettingsError.message : SettingsError → String
  | .disk f => "I/O error: " ++ f.message
  | .malformed => "Parse error: ill-formed settings"

inductive Failure where
  | disk (path : String) (f : DiskFault)
  | settings (e : SettingsError)
  | read (path : String) (e : ShowFile.ReadError)
  | compile (e : CompileError)
  deriving DecidableEq, Repr

def Failure.message : Failure → String
  | .disk path f => path ++ ": " ++ f.message
  | .settings e => "Invalid configuration: " ++ e.message
  | .read path e => path ++ ": " ++ e.message
  | .compile e => "Compile failed: " ++ e.message

def Failure.line (f : Failure) : String := Text.forTerminal f.message

structure Outcome where
  code : Nat
  printed : String := ""
  failure : Option Failure := none
  notes : List Note := []

def checkLine (c : CompiledScene) : String :=
  "scene " ++ Text.ofNat c.scene.id.toNat ++ " '" ++ c.scene.name ++ "': " ++
    Text.ofNat c.scene.nodes.length ++ " authored, " ++ Text.ofNat c.filters.length ++
    " deployed\n"

section

variable {m : Type → Type} [Monad m] (disk : Disk m)

def loadSettings : Option String → m (Except Failure Settings)
  | none => return .ok {}
  | some path => do
    match ← disk.read path with
    | .error f => return .error (.settings (.disk f))
    | .ok text =>
      match Settings.ofString? text with
      | some s => return .ok s
      | none => return .error (.settings .malformed)

def loadShow (path : String) : m (Run Note Failure Show) := do
  match ← disk.read path with
  | .error f => return .fail (.disk path f)
  | .ok text => return (ShowFile.read text).mapError (.read path)

def build (settings : Settings) (mode : Mode) (d : Run Note Failure Show) :
    Run Note Failure (CompiledShow × String) := do
  let d ← d
  ((do
    let compiled ← compile .builtIn settings mode d
    let text ← ShowFile.write settings compiled
    return (compiled, text) : Stage (CompiledShow × String)).filterMap Entry.note?).mapError
    .compile

def check (settings : Settings) (d : Run Note Failure Show) : Run Note Failure CompiledShow := do
  let d ← d
  ((compile .builtIn settings .deployment d).filterMap Entry.note?).mapError .compile

def failed (f : Failure) (notes : List Note) : Outcome :=
  { code := 1, failure := some f, notes }

def perform : Command → m Outcome
  | .compile input output mode settings => do
    match ← loadSettings disk settings with
    | .error f => return failed f []
    | .ok settings =>
      let built := build settings mode (← loadShow disk input)
      match built.outcome, output with
      | .error f, _ => return failed f built.reports
      | .ok (_, text), none =>
        return { code := 0, printed := text ++ "\n", notes := built.reports }
      | .ok (_, text), some path =>
        match ← disk.write path text with
        | .error f => return failed (.disk path f) built.reports
        | .ok () => return { code := 0, notes := built.reports ++ [.fileWritten path] }
  | .check input settings => do
    match ← loadSettings disk settings with
    | .error f => return failed f []
    | .ok settings =>
      let checked := check settings (← loadShow disk input)
      match checked.outcome with
      | .error f => return failed f checked.reports
      | .ok compiled =>
        return { code := 0, printed := String.join (compiled.scenes.map checkLine),
                 notes := checked.reports }

def usage : String :=
  "Usage: showgraph compile [-o FILE] [--mode MODE] [--config FILE] SHOW\n" ++
    "       showgraph check [--config FILE] SHOW\n"

def respond (args : List String) : m Outcome :=
  match request args with
  | .run c => perform disk c
  | .version => return { code := 0, printed := "showgraph_cli 0.1.0\n" }
  | .help => return { code := 0, printed := usage }
  | .refuse => return { code := 2 }

end

end LightShow.CommandLine
