import Pipework.Shell.Command
import Pipework.Shell.Span

/-! Tokens of a script line: words, the sequence operators `&&`, `||`, `;` and `&`, the pipe, the
negation mark `!` and redirection operators with their optional descriptor. -/

namespace Pipework.Shell

/-- What a token is, without its position. -/
inductive TokenKind where
  | word (text : String)
  | and
  | or
  | pipe
  | semi
  | ampersand
  | bang
  | redirect (op : RedirectOp) (fd : Option Nat)
  deriving Repr, DecidableEq, Inhabited

/-- A token and the span of the line it covers. -/
structure Token where
  kind : TokenKind
  span : Span
  deriving Repr, DecidableEq, Inhabited

namespace TokenKind

/-- How an error message names a token: a word with its text, an operator between single
quotes. -/
def display : TokenKind → String
  | .word text => "word '" ++ text ++ "'"
  | .and => "'&&'"
  | .or => "'||'"
  | .pipe => "'|'"
  | .semi => "';'"
  | .ampersand => "'&'"
  | .bang => "'!'"
  | .redirect op (some fd) => "'" ++ toString fd ++ op.symbol ++ "'"
  | .redirect op none => "'" ++ op.symbol ++ "'"

def isSequenceOperator : TokenKind → Bool
  | .and | .or | .semi | .ampersand => true
  | _ => false

def seqOp? : TokenKind → Option SeqOp
  | .and => some .and
  | .or => some .or
  | .semi => some .semi
  | .ampersand => some .background
  | _ => none

theorem isSequenceOperator_iff (k : TokenKind) : k.isSequenceOperator = true ↔ k.seqOp?.isSome := by
  cases k <;> simp [isSequenceOperator, seqOp?]

end TokenKind

end Pipework.Shell
