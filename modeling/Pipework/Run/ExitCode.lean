/-! Exit codes of commands and pipelines. -/

namespace Pipework.Run

/-- The code of a pipeline from the codes of its commands, in command order. Without
pipefail it is the last code; with pipefail it is the most negative code if any command was
killed by a signal, and the greatest code otherwise. No commands give zero. -/
def foldExitCodes (codes : List Int) (pipeFail : Bool) : Int :=
  if !pipeFail then codes.getLastD 0
  else
    match (codes.filter (· < 0)).min? with
    | some signaled => signaled
    | none => codes.max?.getD 0

def negateExitCode (code : Int) : Int :=
  if code == 0 then 1 else 0

def interruptSignal : Nat := 2

def isInterrupt (code : Int) : Bool :=
  code == -(interruptSignal : Int)

end Pipework.Run
