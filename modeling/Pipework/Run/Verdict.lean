/-! Verdicts of tests. -/

namespace Pipework.Run

/-- The verdict of one test. -/
inductive Verdict where
  | pass
  | fail
  | expectedFail
  | unexpectedPass
  | unsupported
  deriving Repr, DecidableEq, Inhabited

namespace Verdict

def name : Verdict → String
  | .pass => "PASS"
  | .fail => "FAIL"
  | .expectedFail => "XFAIL"
  | .unexpectedPass => "XPASS"
  | .unsupported => "UNSUPPORTED"

def isAcceptable : Verdict → Bool
  | .pass | .expectedFail => true
  | _ => false

def ofFailure (failed expectFailure : Bool) : Verdict :=
  match failed, expectFailure with
  | true, true => .expectedFail
  | false, true => .unexpectedPass
  | true, false => .fail
  | false, false => .pass

end Verdict

/-- Whether errors written by a script that exits with zero fail it. -/
inductive StderrPolicy where
  | ignore
  | fails
  deriving Repr, DecidableEq, Inhabited

/-- A verdict and its diagnostic text. -/
structure TestOutcome where
  verdict : Verdict
  diagnostic : String
  deriving Repr, DecidableEq, Inhabited

/-- What a script run produced: its lines, its output and errors, and its exit code. -/
structure Completion where
  script : List String
  output : String
  errors : String
  code : Int
  deriving Repr, DecidableEq, Inhabited

/-- The diagnostic of a run: the script between rulers, its exit code (noting when errors
alone failed it), and its output and errors between rulers when there are any. -/
def Completion.diagnostic (c : Completion) (failedByErrors : Bool) : String :=
  "Script:\n--\n" ++ "\n".intercalate c.script ++ "\n--\nExit Code: " ++ toString c.code ++
    (if failedByErrors then " (but there was output on stderr)" else "") ++ "\n" ++
    (if c.output.isEmpty then "" else "Command Output (stdout):\n--\n" ++ c.output ++ "--\n") ++
    (if c.errors.isEmpty then "" else "Command Output (stderr):\n--\n" ++ c.errors ++ "--\n")

def Completion.judge (c : Completion) (expectFailure : Bool) (policy : StderrPolicy)
    (showOutput : Bool) : TestOutcome :=
  let failedByErrors := policy == .fails && c.code == 0 && !c.errors.isEmpty
  let failed := c.code != 0 || failedByErrors
  let verdict := Verdict.ofFailure failed expectFailure
  if verdict.isAcceptable && !showOutput then ⟨verdict, ""⟩
  else ⟨verdict, c.diagnostic failedByErrors⟩

end Pipework.Run
