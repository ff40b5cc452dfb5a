import Pipework.Shell.Parser
import Pipework.Text.Utf8

/-! Rendering command trees back into script text for a POSIX shell. -/

namespace Pipework.Shell

/-- Why a tree cannot be rendered. -/
inductive RenderError where
  | unquotable (arg : String)
  | inconsistentPipefail (expected found : Bool)
  deriving Repr, DecidableEq, Inhabited

def RenderError.message : RenderError → String
  | .unquotable arg => "unable to quote " ++ Pipework.Text.literal arg
  | .inconsistentPipefail expected found =>
    "inconsistent pipefail: pipeline has pipefail=" ++ toString found ++ ", script requires " ++
      toString expected

/-- The quoted form of a word, checked by reading it back: it must lex as exactly that
word. -/
def quote (arg : String) : Except RenderError String :=
  let quoted? :=
    if !arg.contains '\'' then some ("'" ++ arg ++ "'")
    else if !arg.contains '"' && !arg.contains '$' then some ("\"" ++ arg ++ "\"")
    else none
  match quoted? with
  | none => .error (.unquotable arg)
  | some quoted =>
    match lex quoted with
    | .ok [⟨.word w, _⟩] => if w == arg then .ok quoted else .error (.unquotable arg)
    | _ => .error (.unquotable arg)

def isDigitRun (s : String) : Bool :=
  !s.isEmpty && s.all Char.isDigit

/-- A redirection as script text: a duplication onto a descriptor number is written as one
word (`2>&1`); any other target is quoted after a blank. -/
def Redirect.render (r : Redirect) : Except RenderError String := do
  let fd := match r.fd with
    | some n => toString n
    | none => ""
  let isDup := r.op == .dupOutput || r.op == .dupInput
  if isDup && isDigitRun r.target then
    return fd ++ r.op.symbol ++ r.target
  let target ← quote r.target
  return fd ++ r.op.symbol ++ " " ++ target

def SimpleCommand.render (c : SimpleCommand) : Except RenderError String := do
  let args ← c.args.mapM quote
  let redirects ← c.redirects.mapM Redirect.render
  return " ".intercalate (args ++ redirects)

/-- A pipeline as script text; every pipeline of a script must agree with the script's
pipefail setting. -/
def Pipeline.render (p : Pipeline) (pipeFail : Bool) : Except RenderError String := do
  if p.pipeFail != pipeFail then
    throw (.inconsistentPipefail pipeFail p.pipeFail)
  let commands ← p.commands.mapM SimpleCommand.render
  return (if p.negate then "! " else "") ++ "|\n  ".intercalate commands

def CommandTree.render (pipeFail : Bool) : CommandTree → Except RenderError String
  | .pipeline p => p.render pipeFail
  | .sequence left op right => do
    let l ← left.render pipeFail
    let r ← right.render pipeFail
    return l ++ " " ++ op.symbol ++ "\n" ++ r

end Pipework.Shell
