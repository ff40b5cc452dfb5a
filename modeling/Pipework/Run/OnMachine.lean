import Pipework.Run.Runner
import Pipework.Machine.Sandbox

/-! A test run on a fresh machine, with its working directory listed afterwards. -/

namespace Pipework.Run

open Pipework.Host Pipework.Machine

/-- A test as it arrives: its script, strategy and settings, and the files, directories,
executable files and environment changes of its working directory. A variable changed to
none is removed. The base of temporary scripts is relative to the working directory. -/
structure MachineTest where
  script : List String
  strategy : Strategy := .internal
  config : RunConfig := {}
  expectFailure : Bool := false
  unsupported : Bool := false
  files : List (String × ByteArray) := []
  dirs : List String := []
  executable : List String := []
  env : List (String × Option String) := []
  tmpBase : Option String := none

/-- The environment of a test's commands: the search path, changed by the test. The system
fixes no order for a walk of the map, and it differs from run to run; here a walk meets the
variables the test sets, the last set first, before the search path it starts from. -/
def testEnvironment (changes : List (String × Option String)) : List (String × String) :=
  changes.foldl (fun env (name, value) =>
    let rest := env.filter (·.1 != name)
    match value with
    | some v => (name, v) :: rest
    | none => rest) [("PATH", "/usr/bin:/bin")]

/-- What a test run gives: its outcome or the error that stopped it, and the listing of the
working directory afterwards. -/
structure MachineResult where
  outcome : Except ExecError TestOutcome
  files : List (String × Option String)

def MachineTest.run (t : MachineTest) : MachineResult :=
  let world := World.prepared t.files t.dirs t.executable
  let spec : TestSpec :=
    { script := t.script, cwd := workDir, env := testEnvironment t.env, unsupported := t.unsupported,
      expectFailure := t.expectFailure, tmpBase := t.tmpBase.map (joinPath workDir ·) }
  let (r, after) := ((runTest t.config spec t.strategy).run.run world).run
  let outcome := match r with
    | .ok result => result
    | .error _ => .error (.io "running the test" .invalidArgument)
  { outcome, files := listing after }

end Pipework.Run
