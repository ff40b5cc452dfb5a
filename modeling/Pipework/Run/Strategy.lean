import Pipework.Run.Pipeline
import Pipework.Run.Verdict
import Pipework.Shell.Parser
import Pipework.Tcl.Exec

/-! The three ways of running a script. -/

namespace Pipework.Run

open Pipework.Host Pipework.Shell Pipework.Machine

/-- How a script run ended: it completed with output, errors and an exit code, or it never
ran and has a verdict already. -/
inductive ScriptOutcome where
  | completed (output errors : String) (code : Int)
  | verdict (v : Verdict) (diagnostic : String)
  deriving Inhabited

def ScriptOutcome.fail (diagnostic : String) : ScriptOutcome :=
  .verdict .fail diagnostic

/-- The strategies of running a script. -/
inductive Strategy where
  | internal
  | external
  | tcl
  deriving Repr, DecidableEq, Inhabited

/-- Runs a command tree: `;` runs both sides, `&&` the right side after an exit code of
zero, `||` after anything else, and `&` is refused. An empty pipeline gives no code.
Records pile up in `acc`, and stay when an error stops the run. -/
def runTree (ctx : Context) : CommandTree → Array Record → Sys (Array Record × Except ExecError (Option Int))
  | .pipeline p, acc => do
    if p.commands.isEmpty then return (acc, .ok none)
    match ← (runPipeline ctx p).run with
    | .ok (code, records) => return (acc ++ records.toArray, .ok (some code))
    | .error e => return (acc, .error e)
  | .sequence _ .background _, acc => return (acc, .error (.unsupported "shell operator '&'"))
  | .sequence left .semi right, acc => do
    let (acc, r) ← runTree ctx left acc
    match r with
    | .error e => return (acc, .error e)
    | .ok _ => runTree ctx right acc
  | .sequence left .and right, acc => do
    let (acc, r) ← runTree ctx left acc
    match r with
    | .ok (some 0) => runTree ctx right acc
    | other => return (acc, other)
  | .sequence left .or right, acc => do
    let (acc, r) ← runTree ctx left acc
    match r with
    | .ok (some 0) => return (acc, .ok (some 0))
    | .ok _ => runTree ctx right acc
    | .error e => return (acc, .error e)

/-- Runs a command tree in process. A program that cannot be found ends the run with a last
record of its own and exit code 255; the output is the transcript of the records. -/
def runInProcess (ctx : Context) (tree : CommandTree) : Engine ScriptOutcome := do
  let (records, r) ← (runTree ctx tree #[] : Sys _)
  match r with
  | .ok code => return .completed (transcript records.toList) "" (code.getD 0)
  | .error (.commandNotFound c) =>
    let last : Record :=
      { command := c, output := .empty, errors := ("'" ++ c.program ++ "': command not found\n").toUTF8, code := 255 }
    return .completed (transcript (records.push last).toList) "" 255
  | .error e => throw e

/-- The search path a program named without a slash is looked for in: that of the
commands, or the system's default. -/
def spawnSearchPath (ctx : Context) : String :=
  (ctx.env.lookup "PATH").getD "/bin:/usr/bin"

/-- Runs a whole script with the arguments given: the first names the program, found on
the search path if it has no slash. Its input is empty; its output and errors are taken
whole. An interrupt stops the run. -/
def runWholeScript (ctx : Context) (argv : List String) : Engine ScriptOutcome := do
  match argv with
  | [] => return .completed "" "" 0
  | program :: _ =>
    let here ← match ← workingPlace ctx with
      | .ok place => pure place
      | .error e => throw (.spawn program e)
    let t ← Sys.tree
    let path ← if program.contains '/' then pure program
      else
        let dirs := (spawnSearchPath ctx).splitOn ":"
        match (dirs.map fun d => joinPath (if d.isEmpty then "." else d) program).find? fun c =>
            isRunnable t (joinPath ctx.cwd c) with
        | some found => pure found
        | none => throw (.spawn program .noEntry)
    match resolveExec launchDepth t here path argv with
    | .error e => throw (.spawn program e)
    | .ok _ => pure ()
    let input ← Sys.newPipe
    let output ← Sys.newPipe
    let errors ← Sys.newPipe
    let pid ← Sys.newPid
    let proc : Proc := { argv, env := sortedEnvironment ctx.env, cwd := ctx.cwd, here, fds := [(0, input), (1, output), (2, errors)], pid }
    let st ← match ← launch launchDepth path proc with
      | .ok st => pure st
      | .error e => throw (.spawn program e)
    if isInterrupt st.code then throw (.interrupted program)
    let out ← collected [output]
    let err ← collected [errors]
    return .completed (Pipework.Text.decodeLossy out) (Pipework.Text.decodeLossy err) st.code

/-- Removes the file a path names, as the engine removes a file it wrote: a file that cannot
be removed, or is gone already, is left as it is and not reported. -/
def removeFile (path : String) : Sys Unit := do
  match (← Sys.tree).unlink engineProc.here path with
  | .ok t => Sys.setTree t
  | .error _ => pure ()

/-- Writes a script file, runs it with the arguments given followed by its path, and removes
it again, also when the run failed. -/
def runScriptFile (ctx : Context) (argv : List String) (path contents : String) : Engine ScriptOutcome := do
  match ← Sys.openPath engineProc path .truncate with
  | .error e => throw (.io ("writing " ++ path) e)
  | .ok d =>
    let _ ← Sys.writeDesc d contents.toUTF8
    let result ← tryCatch (do pure (Except.ok (← runWholeScript ctx (argv ++ [path]))))
      fun e => pure (Except.error e)
    removeFile path
    match result with
    | .ok outcome => return outcome
    | .error e => throw e

def scriptPath (tmpBase : String) (batch : Bool) : String :=
  tmpBase ++ ".script" ++ (if batch then ".bat" else "")

/-- Runs lines with an external shell (`/bin/sh` unless one is named), behind the
instrumentation. On a Windows host without a named shell they become a batch file for
`cmd /c`. -/
def runExternal (ctx : Context) (shell : Option String) (instrumentation lines : List String)
    (tmpBase : String) : Engine ScriptOutcome :=
  let batch := ctx.host.isWindows && shell.isNone
  let path := scriptPath tmpBase batch
  if batch then
    runScriptFile ctx ["cmd", "/c"] path ("\nif %ERRORLEVEL% NEQ 0 EXIT\n".intercalate lines ++ "\n")
  else
    runScriptFile ctx (instrumentation ++ [shell.getD "/bin/sh"]) path (" &&\n".intercalate lines ++ "\n")

/-- Reads legacy `exec` lines into one `&&` chain of pipelines, with the instrumentation in
front of the first command of each; or the verdict naming the first bad line. -/
def buildLegacy (instrumentation lines : List String) : Except ScriptOutcome (Option CommandTree) := do
  let mut pipelines : Array CommandTree := #[]
  for raw in lines do
    let line := Pipework.Tcl.resolveEscapes raw
    match Pipework.Tcl.readResolved line with
    | .unsplittable _ => throw (.fail ("Tcl lexer error on: " ++ line))
    | .control _ c => throw (.fail ("Invalid test line: " ++ line ++ " containing " ++ String.singleton c))
    | .built _ (.error _) => throw (.fail ("Tcl 'exec' parse error on: " ++ line))
    | .built _ (.ok p) =>
      let commands := match p.commands with
        | first :: rest => { first with args := instrumentation ++ first.args } :: rest
        | [] => []
      pipelines := pipelines.push (.pipeline { p with commands })
  return CommandTree.chain .and pipelines.toList

def runStrategy (config : RunConfig) (ctx : Context) (strategy : Strategy) (lines : List String)
    (tmpBase : String) : Engine ScriptOutcome := do
  match strategy with
  | .internal =>
    let text := " &&\n".intercalate lines
    match parse text false ctx.host.isWindows with
    | .error _ => return .fail ("shell parser error on: " ++ text)
    | .ok tree => runInProcess ctx tree
  | .external => runExternal ctx config.externalShellPath config.instrumentationArgs lines tmpBase
  | .tcl =>
    match buildLegacy config.instrumentationArgs lines with
    | .error outcome => return outcome
    | .ok none => return .completed "" "" 0
    | .ok (some tree) =>
      match (if config.legacyViaExternalShell then config.externalShellPath else none) with
      | some shell =>
        match tree.render true with
        | .error e => throw (.render e)
        | .ok text => runScriptFile ctx [shell] (scriptPath tmpBase false) ("set -o pipefail\n" ++ text ++ "\n")
      | none => runInProcess ctx tree

/-- Whether errors written by a passing script fail it under a strategy: only legacy lines
are judged so, unless told to ignore errors. -/
def stderrPolicy (config : RunConfig) : Strategy → StderrPolicy
  | .tcl => if config.ignoreStderrAsFailure then .ignore else .fails
  | _ => .ignore

end Pipework.Run
