import Pipework.Run.StreamPlan
import Pipework.Run.Record
import Pipework.Run.ExitCode
import Pipework.Run.Config
import Pipework.Machine.Exec

/-! Running a pipeline of simple commands on the machine. -/

namespace Pipework.Run

open Pipework.Host Pipework.Shell Pipework.Machine

/-- What commands run with: the working directory, the environment of the commands as a map in
the order a walk of it meets the variables, and the kind of host. -/
structure Context where
  cwd : String
  env : List (String × String)
  host : HostProfile

/-- An environment sorted by the bytes of the names, as the system hands it to a program it
starts. -/
def sortedEnvironment (env : List (String × String)) : List (String × String) :=
  env.mergeSort fun a b => compare a.1.toUTF8.toList b.1.toUTF8.toList != .gt

/-- Whether a variable names the search path: `PATH`, or on a Windows host any spelling of it in
ASCII letters of either case. -/
def namesSearchPath (host : HostProfile) (name : String) : Bool :=
  name == "PATH" || (host.isWindows && name.toLower == "path")

/-- The search path of the commands: the value of the first variable met in the walk of the
environment that names it. -/
def Context.pathVar (ctx : Context) : Option String :=
  (ctx.env.find? fun entry => namesSearchPath ctx.host entry.1).map (·.2)

/-- Actions of the engine: they act on the machine and may stop with an error. -/
abbrev Engine := ExceptT ExecError Sys

/-- The number of components of a path: the root, a leading `.`, and its other names
(`.` inside a path does not count). -/
def componentCount (name : String) : Nat :=
  let root := if name.startsWith "/" then 1 else 0
  let current := if name == "." || name.startsWith "./" then 1 else 0
  root + current + ((name.splitOn "/").filter fun p => p != "" && p != ".").length

def isRunnable (t : FileTree) (path : String) : Bool :=
  match t.lookup [] path with
  | .ok (_, .file _ executable) => executable
  | .ok (_, .program _) => true
  | _ => false

/-- Where a program name leads: a name of more than one component is taken relative to the
working directory; any other is looked for in each non-empty directory of the search path,
relative ones taken relative to the working directory. The first runnable candidate wins;
nothing is found for an empty name or without a search path. -/
def resolveProgram (t : FileTree) (cwd : String) (pathVar : Option String) (name : String) :
    Option String :=
  if name.isEmpty then none
  else if componentCount name > 1 then
    let candidate := joinPath cwd name
    if isRunnable t candidate then some candidate else none
  else
    match pathVar with
    | none => none
    | some pv =>
      let dirs := ((pv.splitOn ":").filter (· != "")).map fun d => if isAbsolute d then d else joinPath cwd d
      (dirs.map (joinPath · name)).find? (isRunnable t)

def collected (descs : List Nat) : Sys ByteArray := do
  let mut out := ByteArray.empty
  for i in descs do
    match ← Sys.desc? i with
    | some { backing := .pipe feed, .. } => out := out ++ feed.head
    | some { backing := .scratch data, .. } => out := out ++ data
    | _ => pure ()
  return out

/-- Where one stage's output and errors go: the descriptions of its descriptors 1 and 2,
what the next stage reads, and what is kept for its record. -/
structure Wiring where
  output : Nat
  errors : Nat
  handOn : Option Nat := none
  keptOutput : List Nat := []
  keptErrors : List Nat := []

/-- Wires a stage's output and errors. Only the last stage and output that the next stage
reads get pipes, other default output goes to a scratch file. Errors sent to the output go,
with the output, through one pipe or into one scratch file; after the output went to a file,
errors take its place in front of the next stage. -/
def wireOutputs (plan : StreamPlan) (files : List Nat) (last nextReads : Bool) : Sys Wiring := do
  let live := last || nextReads
  let fileAt (i : Nat) : Nat := files.getD i 0
  match plan.output with
  | .default _ =>
    if plan.errorFollowsOutput then
      if live then
        let pipe ← Sys.newPipe
        if nextReads then return { output := pipe, errors := pipe, handOn := some pipe }
        return { output := pipe, errors := pipe, keptOutput := [pipe] }
      let spill ← Sys.newScratch
      return { output := spill, errors := spill, keptOutput := [spill] }
    else if live then
      let pipe ← Sys.newPipe
      let errs ← wireErrors plan fileAt last nextReads
      if nextReads then return { errs with output := pipe, handOn := some pipe }
      return { errs with output := pipe, keptOutput := [pipe] }
    else
      let spill ← Sys.newScratch
      let errs ← wireErrors plan fileAt last nextReads
      return { errs with output := spill, keptOutput := [spill] }
  | .file i =>
    let errs ← wireErrors plan fileAt last nextReads
    return { errs with output := fileAt i }
where
  /-- Wires the errors once the output is settled (its description is filled in later). -/
  wireErrors (plan : StreamPlan) (fileAt : Nat → Nat) (last nextReads : Bool) : Sys Wiring := do
    let standsIn := plan.error == .default .output
    match plan.error with
    | .file i => return { output := 0, errors := fileAt i }
    | .default _ =>
      if last || (standsIn && nextReads) then
        let pipe ← Sys.newPipe
        if nextReads && plan.output != .default .output then
          return { output := 0, errors := pipe, handOn := some pipe }
        return { output := 0, errors := pipe, keptErrors := [pipe] }
      let spill ← Sys.newScratch
      return { output := 0, errors := spill, keptErrors := [spill] }

/-- A stage ready to run. -/
structure Stage where
  command : SimpleCommand
  program : String
  proc : Proc
  keptOutput : List Nat
  keptErrors : List Nat
  /-- The pipe the next stage reads this stage's output from. -/
  feeds : Option Nat := none

def engineProc : Proc := { argv := [], cwd := "/", here := [] }

/-- Opens a file a stage's redirections name: relative to the working directory, or, when
the host avoids the null device, a scratch file in its place. -/
def openTarget (ctx : Context) (target : FileTarget) : Engine Nat := do
  if ctx.host.avoidDevNull && target.path == "/dev/null" then return ← Sys.newScratch
  let path := joinPath ctx.cwd target.path
  let access := match target.mode with
    | .read => Access.read
    | .truncate => .truncate
    | .append => .append
  match ← Sys.openPath engineProc path access with
  | .ok d => return d
  | .error e => throw (.redirect path e)

def makeTempFile : Sys String := do
  let name ← Sys.tempName
  Sys.setTree ((← Sys.tree).set (pathParts name) (.file .empty false))
  return name

/-- The arguments after the program, each `/dev/null` replaced by a fresh temporary file
when the host avoids the null device; the temporary files are given too. -/
def substituteNullArgs (ctx : Context) (args : List String) : Sys (List String × List String) := do
  let mut out : Array String := #[]
  let mut temps : Array String := #[]
  for arg in args do
    if ctx.host.avoidDevNull && arg == "/dev/null" then
      let name ← makeTempFile
      out := out.push name
      temps := temps.push name
    else out := out.push arg
  return (out.toList, temps.toList)

def removeTemps (temps : List String) : Sys Unit := do
  for name in temps do
    Sys.setTree ((← Sys.tree).erase (pathParts name))

/-- Stops with an error once the temporary files made so far are removed. -/
def abandon {α : Type} (temps : List String) (e : ExecError) : Engine α := do
  removeTemps temps
  throw e

def workingPlace (ctx : Context) : Sys (Except OsError Place) := do
  match (← Sys.tree).lookup [] ctx.cwd with
  | .ok (place, .dir) => return .ok place
  | .ok _ => return .error .notDirectory
  | .error e => return .error e

/-- Prepares every stage: opens its files, makes its temporary arguments, wires its streams
and checks that its process can start. Gives the stages and the temporary files; a stage that
cannot be set up removes the temporary files made so far. -/
def prepareStages (ctx : Context) (commands : List (SimpleCommand × String × StreamPlan)) :
    Engine (List Stage × List String) := do
  let n := commands.length
  let plans := commands.map (·.2.2)
  let mut upstream : Option Nat := none
  let mut stages : Array Stage := #[]
  let mut temps : Array String := #[]
  for ((command, program, plan), i) in commands.zipIdx do
    let last := i + 1 == n
    let nextReads := !last && (plans.getD (i + 1) {}).readsPipelineInput
    let files ← tryCatch (plan.files.mapM (openTarget ctx)) (abandon temps.toList)
    let (args, made) ← substituteNullArgs ctx (command.args.drop 1)
    temps := temps ++ made.toArray
    let input ← match plan.input with
      | .file idx => pure (files.getD idx 0)
      | .default _ =>
        match upstream with
        | some d => pure d
        | none => Sys.newPipe
    upstream := none
    let w ← wireOutputs plan files last nextReads
    if nextReads then upstream := w.handOn
    let here ← match ← workingPlace ctx with
      | .ok place => pure place
      | .error e => abandon temps.toList (.spawn program e)
    let argv := program :: args
    match resolveExec launchDepth (← Sys.tree) here program argv with
    | .error e => abandon temps.toList (.spawn program e)
    | .ok _ => pure ()
    let pid ← Sys.newPid
    let proc : Proc := { argv, env := sortedEnvironment ctx.env, cwd := ctx.cwd, here, fds := [(0, input), (1, w.output), (2, w.errors)], pid }
    stages := stages.push { command, program, proc, keptOutput := w.keptOutput, keptErrors := w.keptErrors,
                            feeds := if nextReads then w.handOn else none }
  return (stages.toList, temps.toList)

def pipeCapacity : Nat := 65536

def runStages (stages : List Stage) : Engine (List (ByteArray × ByteArray × Int)) :=
  stages.mapM fun stage => do
    let code ← match ← launch launchDepth stage.program stage.proc with
      | .ok st => pure st.code
      | .error e => throw (.spawn stage.program e)
    return (← collected stage.keptOutput, ← collected stage.keptErrors, code)

/-- The pipes between stages whose writer wrote more than its reader took, by the time the
reader ended, plus what the pipe holds. With processes running side by side, such a writer
is still writing when its reader goes away, and is killed. Each pipe comes with the number
of bytes it takes before that. -/
def overflowing (stages : List Stage) : Sys (List (Nat × Nat)) :=
  stages.filterMapM fun stage => do
    match stage.feeds with
    | none => return none
    | some i =>
      match ← Sys.desc? i with
      | some { backing := .pipe feed, position, capacity := none, .. } =>
        if !feed.isEndless && feed.head.size > position + pipeCapacity then
          return some (i, position + pipeCapacity)
        return none
      | _ => return none

/-- Runs the stages so that no pipe holds more than it can. After a run in which some pipe
overflowed, the machine goes back to how it was before the stages started, those pipes
get their capacity, and the stages run again; each run limits at least one more pipe, so
one run per stage is enough. -/
def runWithin (stages : List Stage) : Nat → Engine (List (ByteArray × ByteArray × Int))
  | 0 => runStages stages
  | rounds + 1 => do
    let before : World ← get
    let results ← runStages stages
    let full ← overflowing stages
    if full.isEmpty then return results
    set (full.foldl (fun (w : World) (i, room) =>
      { w with table := w.table.modify i fun d => { d with capacity := some room } }) before)
    runWithin stages rounds

/-- The order in which stages are waited for: the last first, then the others in order. -/
def drainOrder (n : Nat) : List Nat :=
  if n == 0 then [] else (n - 1) :: List.range (n - 1)

/-- Finds every program on the search path, then plans every redirection list, before
anything is opened or started: the first program that cannot be found stops the pipeline,
whatever redirections come before it, and then the first plan that is refused. Gives each
command with its program and its stream plan. -/
def resolveCommands (ctx : Context) (t : FileTree) (commands : List SimpleCommand) :
    Except ExecError (List (SimpleCommand × String × StreamPlan)) := do
  let programs ← commands.mapM fun c =>
    match resolveProgram t ctx.cwd ctx.pathVar c.program with
    | some path => pure path
    | none => throw (.commandNotFound c)
  let plans ← commands.mapM fun c => StreamPlan.ofRedirects c.redirects
  return commands.zip (programs.zip plans)

/-- The drain of the stages, by stage index: each stage not waited for yet, with what it gives
when it is (its output, its error output and its exit code), and the output of each stage
waited for. -/
structure Drain where
  running : Array (Option (Stage × ByteArray × ByteArray × Int))
  outputs : Array (Option (ByteArray × ByteArray × Int))

def Drain.start (stages : List Stage) (results : List (ByteArray × ByteArray × Int)) : Drain where
  running := ((stages.zip results).map some).toArray
  outputs := Array.replicate stages.length none

/-- Waits for the stage at index `i`: a stage no longer running is passed over, one killed by an
interrupt stops the run, and any other stops running and leaves its output at its index. -/
def Drain.wait (d : Drain) (i : Nat) : Engine Drain :=
  match d.running[i]? with
  | some (some (stage, out, err, code)) =>
    if isInterrupt code then throw (.interrupted stage.command.program)
    else pure { running := d.running.setIfInBounds i none,
                outputs := d.outputs.setIfInBounds i (some (out, err, code)) }
  | _ => pure d

def drainStages (stages : List Stage) (results : List (ByteArray × ByteArray × Int)) :
    Engine (Array (Option (ByteArray × ByteArray × Int))) := do
  let d ← (drainOrder stages.length).foldlM Drain.wait (Drain.start stages results)
  return d.outputs

/-- Runs the stages of a pipeline whose programs and plans are known, and gives its exit
code, after folding and negation, and one record per command in command order: each stage
paired with the output kept at its index, or with empty output and code zero where none was
kept. The temporary files go at the end, whether the stages finish or stop. -/
def runResolved (ctx : Context) (p : Pipeline) (commands : List (SimpleCommand × String × StreamPlan)) :
    Engine (Int × List Record) := do
  let (stages, temps) ← prepareStages ctx commands
  let results ← tryCatch (runWithin stages stages.length) (abandon temps)
  let outputs ← tryCatch (drainStages stages results) (abandon temps)
  let records := (stages.zip outputs.toList).map fun (stage, output) =>
    let (out, err, code) := output.getD (ByteArray.empty, ByteArray.empty, 0)
    ({ command := stage.command, output := out, errors := err, code } : Record)
  let code := foldExitCodes (records.map (·.code)) p.pipeFail
  let code := if p.negate then negateExitCode code else code
  removeTemps temps
  return (code, records)

/-- Runs a pipeline and gives its exit code, after folding and negation, and one record
per command in command order. -/
def runPipeline (ctx : Context) (p : Pipeline) : Engine (Int × List Record) := do
  if p.commands.isEmpty then return (0, [])
  match resolveCommands ctx (← Sys.tree) p.commands with
  | .error e => throw e
  | .ok commands => runResolved ctx p commands

end Pipework.Run
