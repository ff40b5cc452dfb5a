import Pipework.Run.Strategy

/-! Running one test, from its settings to the judgement of its completion. -/

namespace Pipework.Run

open Pipework.Host Pipework.Machine

/-- A test to run: its script lines, working directory, the environment of its commands,
whether it is unsupported or expected to fail, and where temporary scripts go. -/
structure TestSpec where
  script : List String
  cwd : String
  env : List (String × String)
  unsupported : Bool := false
  expectFailure : Bool := false
  tmpBase : Option String := none

/-- The base path of temporary scripts: the one given, its parent directory made first, or
`test` inside a fresh scratch directory. -/
def prepareTmpBase (base : Option String) : Engine String := do
  match base with
  | some path =>
    match parentPath path with
    | some parent =>
      if parent.isEmpty then return path
      match (← Sys.tree).makeDirAll [] (pathParts parent).length.succ parent with
      | .ok t => Sys.setTree t; return path
      | .error e => throw (.io ("creating " ++ parent) e)
    | none => return path
  | none =>
    let dir ← Sys.tempName
    Sys.setTree ((← Sys.tree).set (pathParts dir) .dir)
    return dir ++ "/test"

def runTest (config : RunConfig) (spec : TestSpec) (strategy : Strategy) : Engine TestOutcome := do
  let showOutput := config.alwaysShowOutput && strategy != .tcl
  if spec.unsupported then return ⟨.unsupported, "Test is unsupported"⟩
  if config.skipExecution then return ⟨.pass, ""⟩
  if spec.script.isEmpty then return ⟨.fail, "Test has no run line!"⟩
  let tmpBase ← prepareTmpBase spec.tmpBase
  let ctx : Context := { cwd := spec.cwd, env := spec.env, host := config.host }
  match ← runStrategy config ctx strategy spec.script tmpBase with
  | .verdict v diagnostic => return ⟨v, diagnostic⟩
  | .completed output errors code =>
    let c : Completion := { script := spec.script, output, errors, code }
    return c.judge spec.expectFailure (stderrPolicy config strategy) showOutput

end Pipework.Run
