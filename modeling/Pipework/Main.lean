import Pipework.Cli.OnMachine

/-! The `rigor` program. -/

open Pipework.Cli

def passedVariables : List String :=
  ["PATH", "HOME", "COLOR", "NO_COLOR", "CLICOLOR_FORCE", "RIGOR_CONFIG", "RIGOR_SHELL", "RIGOR_NO_EXECUTE",
   "RIGOR_IGNORE_STDERR"]

/-- A file of the working directory with its bytes, when the path is relative and can be
read. -/
def loadFile (path : String) : IO (Option (String × ByteArray)) := do
  if path.isEmpty || path.startsWith "/" then return none
  let .ok data ← (IO.FS.readBinFile path).toBaseIO | return none
  return some (path, data)

def main (args : List String) : IO UInt32 := do
  let env ← passedVariables.filterMapM fun name => do
    return (← IO.getEnv name).map (name, ·)
  let files ← ((Request.ofArgs args).namedFiles env).filterMapM loadFile
  let result := ({ args := args, files := files, env := env } : Call).run
  IO.print result.reply.stdout
  IO.eprint result.reply.stderr
  return result.reply.status.toUInt32
