/-! Command trees of the script language: simple commands with their redirections, pipelines of
simple commands, and sequences of pipelines joined by `;`, `&&`, `||` or `&`. -/

namespace Pipework.Shell

/-- The redirection operators: `<`, `>`, `>>`, `>&`, `&>` and `<&`. -/
inductive RedirectOp where
  | input
  | output
  | append
  | dupOutput
  | both
  | dupInput
  deriving Repr, DecidableEq, Inhabited

def RedirectOp.symbol : RedirectOp → String
  | .input => "<"
  | .output => ">"
  | .append => ">>"
  | .dupOutput => ">&"
  | .both => "&>"
  | .dupInput => "<&"

/-- A redirection: an operator, the descriptor written before it, if any, and its target. -/
structure Redirect where
  op : RedirectOp
  fd : Option Nat
  target : String
  deriving Repr, DecidableEq, Inhabited

/-- A redirection as one word: the descriptor, the operator and the target, with no blanks
(`2>&1`, `>out`, `7>x`). -/
def Redirect.display (r : Redirect) : String :=
  (match r.fd with
    | some fd => toString fd
    | none => "") ++ r.op.symbol ++ r.target

/-- One program invocation: its words (the program first) and its redirections in the order
they were written. -/
structure SimpleCommand where
  args : List String
  redirects : List Redirect := []
  deriving Repr, DecidableEq, Inhabited

def SimpleCommand.program (c : SimpleCommand) : String :=
  c.args.headD ""

/-- The words of a command, each between double quotes with nothing escaped, separated by
one blank. -/
def SimpleCommand.quotedArgs (c : SimpleCommand) : String :=
  " ".intercalate (c.args.map fun a => "\"" ++ a ++ "\"")

/-- Commands joined by `|`. With `pipeFail` the pipeline fails when any command fails; with
`negate` (a leading `!`) its success is inverted. -/
structure Pipeline where
  commands : List SimpleCommand
  pipeFail : Bool := false
  negate : Bool := false
  deriving Repr, DecidableEq, Inhabited

/-- The operators that join pipelines. -/
inductive SeqOp where
  | semi
  | and
  | or
  | background
  deriving Repr, DecidableEq, Inhabited

def SeqOp.symbol : SeqOp → String
  | .semi => ";"
  | .and => "&&"
  | .or => "||"
  | .background => "&"

/-- A script line: a pipeline, or two trees joined by an operator. -/
inductive CommandTree where
  | pipeline (p : Pipeline)
  | sequence (left : CommandTree) (op : SeqOp) (right : CommandTree)
  deriving Repr, DecidableEq, Inhabited

namespace CommandTree

def chain (op : SeqOp) : List CommandTree → Option CommandTree
  | [] => none
  | t :: ts => some (ts.foldl (fun left right => .sequence left op right) t)

def pipelines : CommandTree → List Pipeline
  | .pipeline p => [p]
  | .sequence left _ right => left.pipelines ++ right.pipelines

def simpleCommandCount : CommandTree → Nat
  | .pipeline p => p.commands.length
  | .sequence left _ right => left.simpleCommandCount + right.simpleCommandCount

@[simp] theorem pipelines_sequence (left right : CommandTree) (op : SeqOp) :
    (sequence left op right).pipelines = left.pipelines ++ right.pipelines := rfl

theorem pipelines_foldl (op : SeqOp) (t : CommandTree) (ts : List CommandTree) :
    (ts.foldl (fun left right => sequence left op right) t).pipelines =
      t.pipelines ++ (ts.map pipelines).flatten := by
  induction ts generalizing t with
  | nil => simp
  | cons u us ih => simp [ih]

theorem pipelines_chain (op : SeqOp) (t : CommandTree) (ts : List CommandTree) :
    (chain op (t :: ts)).map pipelines = some (((t :: ts).map pipelines).flatten) := by
  simp [chain, pipelines_foldl]

end CommandTree

end Pipework.Shell
