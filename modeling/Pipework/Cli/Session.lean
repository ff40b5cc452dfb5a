import Pipework.Cli.Report
import Pipework.Run.Runner
import Pipework.Machine.Sandbox
import Pipework.Shell.Parser
import Pipework.Shell.Render
import Pipework.Shell.Outline
import Pipework.Tcl.Exec
import Pipework.Run.TestFile

/-! One invocation of `rigor` on a machine: the request read from the command line is carried out
and leaves standard output, standard error and an exit status. -/

namespace Pipework.Cli

open Pipework.Host Pipework.Machine Pipework.Run Pipework.Shell Pipework.Tcl

/-- What a program leaves behind: its standard output and error and its exit status. -/
structure Reply where
  stdout : String := ""
  stderr : String := ""
  status : Nat := 0
  deriving Repr, DecidableEq, Inhabited

def Reply.failure (message : String) (status : Nat) : Reply :=
  { stderr := message ++ "\n", status }

/-- The command tree of a `parse` request, or the text of its refusal. A Tcl line has its
escapes resolved first, and refusals quote the resolved line. -/
def ParseRequest.tree (r : ParseRequest) : Except String CommandTree :=
  if r.tcl then
    let line := resolveEscapes r.line
    match readResolved line with
    | .unsplittable e => .error (e.message ++ ": " ++ line)
    | .control _ c => .error ("'" ++ String.ofList [c] ++ "' is not allowed in: " ++ line)
    | .built _ (.error e) => .error (e.message ++ ": " ++ line)
    | .built _ (.ok p) => .ok (.pipeline p)
  else
    match parse r.line r.pipefail r.win32 with
    | .ok t => .ok t
    | .error e => .error ((e.diagnostic? r.line).getD e.message)

/-- Carries out a `parse` request. Rendered text fails every pipeline on any failing command
when asked to, and always for a Tcl line. -/
def ParseRequest.reply (r : ParseRequest) : Reply :=
  match r.tree with
  | .error message => .failure message 1
  | .ok t =>
    if r.render then
      match t.render (r.pipefail || r.tcl) with
      | .ok text => { stdout := text ++ "\n" }
      | .error e => .failure ("error: " ++ e.message) 2
    else { stdout := t.outline.render 0 ++ "\n" }

/-- Why a file could not be read as text. -/
inductive ReadFault where
  | os (e : OsError)
  | notText
  deriving Repr, DecidableEq

def ReadFault.message : ReadFault → String
  | .os e => e.message
  | .notText => "stream did not contain valid UTF-8"

/-- The text of a file, read from the tree with paths relative to `cwd`. A directory cannot
be read, the null device reads as empty, and a file must be valid UTF-8. -/
def readText (t : FileTree) (cwd : Place) (path : String) : Except ReadFault String :=
  if path.isEmpty then .error (.os .noEntry)
  else
    match t.lookup cwd path with
    | .error e => .error (.os e)
    | .ok (_, .file data _) =>
      match String.fromUTF8? data with
      | some text => .ok text
      | none => .error .notText
    | .ok (_, .dir) => .error (.os .isDirectory)
    | .ok (_, .nullDevice) => .ok ""
    | .ok (_, .link _) => .error (.os .isDirectory)
    | .ok (_, .program _) => .error .notText
    | .ok (_, .zeroDevice) => .error .notText

/-- Why settings could not be loaded: the file could not be read, or its document was
refused. -/
inductive ConfigFault where
  | read (path : String) (fault : ReadFault)
  | invalid (path : String) (document : String) (problem : Pipework.Text.Toml.Problem)

def ConfigFault.message : ConfigFault → String
  | .read path fault => "failed to read config " ++ path ++ ": " ++ fault.message ++ ": " ++ fault.message
  | .invalid path doc problem =>
    let cause := problem.report doc
    "invalid config " ++ path ++ ": " ++ cause ++ ": " ++ cause

def loadSettings (t : FileTree) (path : String) (optional : Bool) : Except ConfigFault RunConfig :=
  match readText t workPlace path with
  | .error (.os .noEntry) => if optional then .ok {} else .error (.read path (.os .noEntry))
  | .error fault => .error (.read path fault)
  | .ok text =>
    match RunConfig.decode text with
    | .ok c => .ok c
    | .error p => .error (.invalid path text p)

/-- The settings of a run: the explicit file, else the file `RIGOR_CONFIG` names (when it is
not empty), else the defaults, since the user's configuration directory holds none. -/
def settingsFor (t : FileTree) (r : RunRequest) (env : List (String × String)) :
    Except ConfigFault RunConfig :=
  match r.config with
  | some path => loadSettings t path false
  | none =>
    match env.lookup "RIGOR_CONFIG" with
    | some path => if path.isEmpty then .ok {} else loadSettings t path true
    | none => .ok {}

/-- The working directory of a run, made absolute against the machine's: the one asked for,
else the script's directory, else the machine's own. -/
def workingDirFor (r : RunRequest) : String :=
  match r.cwd with
  | some cwd => absolutePath workDir cwd
  | none =>
    match parentPath r.script with
    | some dir => if dir.isEmpty then workDir else absolutePath workDir dir
    | none => workDir

def StrategyChoice.strategy : StrategyChoice → Strategy
  | .internal => .internal
  | .external => .external
  | .tcl => .tcl

def RunRequest.reply (r : RunRequest) (env : List (String × String)) : Sys Reply := do
  let t ← Sys.tree
  match settingsFor t r env with
  | .error fault => return .failure ("error: " ++ fault.message) 2
  | .ok config =>
  let config := config.withEnv fun name => env.lookup name
  let config := { config with alwaysShowOutput := config.alwaysShowOutput || r.showOutput }
  match readText t workPlace r.script with
  | .error fault => return .failure ("error: failed to read " ++ r.script ++ ": " ++ fault.message) 2
  | .ok text =>
  let spec : TestSpec :=
    { script := scriptLines text, cwd := workingDirFor r, env, unsupported := r.unsupported,
      expectFailure := r.expectFailure, tmpBase := r.tmpBase.map (joinPath workDir ·) }
  match ← (runTest config spec r.strategy.strategy).run with
  | .ok o => return { stdout := report r.format o r.script (wantsColour env), status := verdictStatus o.verdict }
  | .error (.interrupted command) => return .failure (ExecError.interrupted command).message 130
  | .error e => return .failure ("error: " ++ e.message) 2

def Request.reply (req : Request) (env : List (String × String)) : Sys Reply :=
  match req with
  | .run r => r.reply env
  | .parse r => pure r.reply
  | .inform text => pure { stdout := text.render (parserColour env) }
  | .refuse text => pure { stderr := text.render (parserColour env), status := 2 }

end Pipework.Cli
