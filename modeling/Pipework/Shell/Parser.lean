import Pipework.Shell.Lexer

/-! The parser of script lines. -/

namespace Pipework.Shell

/-- What the parser expected where it found something else. -/
inductive Wanted where
  | command
  | target
  | commandAfter (op : SeqOp)
  | sequenceOperator
  deriving Repr, DecidableEq, Inhabited

def Wanted.describe : Wanted → String
  | .command => "command"
  | .target => "redirection target"
  | .commandAfter op => "command after '" ++ op.symbol ++ "'"
  | .sequenceOperator => "sequencing operator"

/-- Why a line is not a command tree. -/
inductive ParseError where
  | lexer (e : LexError)
  | unexpectedToken (found : TokenKind) (wanted : Wanted) (span : Span)
  | unexpectedEnd (wanted : Wanted)
  | empty
  deriving Repr, DecidableEq, Inhabited

namespace ParseError

def message : ParseError → String
  | .lexer e => "lexer error: " ++ e.message
  | .unexpectedToken found wanted span =>
    "unexpected token " ++ found.display ++ " at position " ++ toString span.start ++
      ", expected " ++ wanted.describe
  | .unexpectedEnd wanted => "unexpected end of input, expected " ++ wanted.describe
  | .empty => "empty command line"

def span? : ParseError → Option Span
  | .lexer e => some e.span
  | .unexpectedToken _ _ span => some span
  | .unexpectedEnd _ | .empty => none

def diagnostic? (e : ParseError) (line : String) : Option String :=
  e.span?.map fun span => span.diagnostic line e.message

end ParseError

/-- What the parser reads next: the start of a pipeline (a `!` or a program), a program,
the rest of a command, or the target of a redirection. -/
inductive Expect where
  | pipeline
  | program
  | more
  | target (op : RedirectOp) (fd : Option Nat)
  deriving Repr, DecidableEq

/-- The part of a tree read so far: the finished left side with the operator that waits for
its right side, and the pipeline under way. -/
structure Draft where
  joined : Option (CommandTree × SeqOp) := none
  negate : Bool := false
  commands : List SimpleCommand := []
  args : List String := []
  redirects : List Redirect := []
  deriving Repr, DecidableEq

namespace Draft

def command (d : Draft) : SimpleCommand :=
  ⟨d.args, d.redirects⟩

def pipeline (d : Draft) (pipeFail : Bool) : Pipeline :=
  ⟨d.commands ++ [d.command], pipeFail, d.negate⟩

def tree (d : Draft) (pipeFail : Bool) : CommandTree :=
  match d.joined with
  | none => .pipeline (d.pipeline pipeFail)
  | some (left, op) => .sequence left op (.pipeline (d.pipeline pipeFail))

end Draft

/-- What the parser makes of one more token in state `expect` with draft `d`: the next state
and draft, or what it wanted instead. A `!` is the negation mark at the start of a pipeline and
an ordinary word after a command's program. -/
def step (pipeFail : Bool) : Expect → Draft → TokenKind → Except Wanted (Expect × Draft)
  | .pipeline, d, .bang => .ok (.program, { d with negate := true })
  | .pipeline, d, .word w => .ok (.more, { d with args := [w] })
  | .pipeline, _, _ => .error .command
  | .program, d, .word w => .ok (.more, { d with args := [w] })
  | .program, _, _ => .error .command
  | .more, d, .word w => .ok (.more, { d with args := d.args ++ [w] })
  | .more, d, .bang => .ok (.more, { d with args := d.args ++ ["!"] })
  | .more, d, .redirect op fd => .ok (.target op fd, d)
  | .more, d, .pipe =>
    .ok (.program, { d with commands := d.commands ++ [d.command], args := [], redirects := [] })
  | .more, d, k =>
    match k.seqOp? with
    | some op => .ok (.pipeline, { joined := some (d.tree pipeFail, op) })
    | none => .error .sequenceOperator
  | .target op fd, d, .word w => .ok (.more, { d with redirects := d.redirects ++ [⟨op, fd, w⟩] })
  | .target _ _, _, _ => .error .target

def finish (pipeFail : Bool) : Expect → Draft → Except ParseError CommandTree
  | .pipeline, d =>
    match d.joined with
    | none => .error .empty
    | some (_, op) => .error (.unexpectedEnd (.commandAfter op))
  | .program, _ => .error (.unexpectedEnd .command)
  | .more, d => .ok (d.tree pipeFail)
  | .target _ _, _ => .error (.unexpectedEnd .target)

/-- Reads tokens in the state `expect` with the draft `d`; every pipeline gets `pipeFail`. A
token the parser cannot take is reported with its span. -/
def parseTokens (pipeFail : Bool) (expect : Expect) (d : Draft) :
    List Token → Except ParseError CommandTree
  | [] => finish pipeFail expect d
  | t :: ts =>
    match step pipeFail expect d t.kind with
    | .ok (expect, d) => parseTokens pipeFail expect d ts
    | .error wanted => .error (.unexpectedToken t.kind wanted t.span)

/-- Parses a line into a command tree. With `pipeFail` every pipeline fails when any of its
commands fails; with `win32` a backslash outside quotes is an ordinary character. -/
def parse (line : String) (pipeFail : Bool := false) (win32 : Bool := false) :
    Except ParseError CommandTree :=
  match lex line win32 with
  | .error e => .error (.lexer e)
  | .ok tokens => parseTokens pipeFail .pipeline {} tokens

end Pipework.Shell
