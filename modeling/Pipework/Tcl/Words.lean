import Pipework.Text.Blank

/-! Words of a Tcl `exec` line. -/

namespace Pipework.Tcl

open Pipework.Text

/-- Why a Tcl `exec` line cannot be read. Offsets are byte offsets into the line. -/
inductive DialectError where
  | unterminatedBrace (offset : Nat)
  | unterminatedQuote (offset : Nat)
  | emptyCommand
  | missingTarget (op : String)
  | unsupportedRedirect (word : String)
  | background
  deriving Repr, DecidableEq, Inhabited

namespace DialectError

def message : DialectError → String
  | .unterminatedBrace offset => "unterminated brace starting at offset " ++ toString offset
  | .unterminatedQuote offset => "unterminated quote starting at offset " ++ toString offset
  | .emptyCommand => "empty command in exec pipeline"
  | .missingTarget op => "missing target for '" ++ op ++ "'"
  | .unsupportedRedirect word => "unsupported exec redirection '" ++ word ++ "'"
  | .background => "background exec is not supported"

def isLexerError : DialectError → Bool
  | .unterminatedBrace _ | .unterminatedQuote _ => true
  | _ => false

end DialectError

/-- Resolves backslash escapes: `\n`, `\t` and `\r` become the control characters, a
backslash before a newline joins the lines with one blank (dropping the blanks and tabs that
follow), any other escaped character stands for itself, and a final backslash stays.
`skipping` is set right after a joined line. -/
def resolveChars (skipping : Bool) : List Char → List Char
  | [] => []
  | '\\' :: 'n' :: cs => '\n' :: resolveChars false cs
  | '\\' :: 't' :: cs => '\t' :: resolveChars false cs
  | '\\' :: 'r' :: cs => '\r' :: resolveChars false cs
  | '\\' :: '\n' :: cs => ' ' :: resolveChars true cs
  | '\\' :: c :: cs => c :: resolveChars false cs
  | c :: cs =>
    if skipping && (c == ' ' || c == '\t') then resolveChars true cs
    else c :: resolveChars false cs

def resolveEscapes (line : String) : String :=
  String.ofList (resolveChars false line.toList)

/-- A word or a control character of an `exec` line. -/
inductive WordToken where
  | word (text : String)
  | control (c : Char)
  deriving Repr, DecidableEq, Inhabited

def WordToken.display : WordToken → String
  | .word text => text
  | .control c => c.toString

def isControl (c : Char) : Bool :=
  c == '[' || c == ']' || c == '$' || c == ';'

/-- What the splitter is inside: nothing, a brace group opened at an offset with its
nesting depth, a quoted group opened at an offset, or a bare word. -/
inductive Group where
  | gap
  | brace (opened depth : Nat) (text : String)
  | quote (opened : Nat) (text : String)
  | bare (text : String)
  deriving Repr, DecidableEq

def splitFrom : Group → Nat → List Char → Except DialectError (List WordToken)
  | .gap, _, [] => .ok []
  | .bare text, _, [] => .ok [.word text]
  | .brace opened _ _, _, [] => .error (.unterminatedBrace opened)
  | .quote opened _, _, [] => .error (.unterminatedQuote opened)
  | .brace opened depth text, pos, '{' :: cs =>
    splitFrom (.brace opened (depth + 1) (text.push '{')) (pos + 1) cs
  | .brace opened depth text, pos, '}' :: cs =>
    if depth ≤ 1 then (.word text :: ·) <$> splitFrom .gap (pos + 1) cs
    else splitFrom (.brace opened (depth - 1) (text.push '}')) (pos + 1) cs
  | .brace opened depth text, pos, c :: cs =>
    splitFrom (.brace opened depth (text.push c)) (pos + c.utf8Size) cs
  | .quote _ text, pos, '"' :: cs => (.word text :: ·) <$> splitFrom .gap (pos + 1) cs
  | .quote opened text, pos, c :: cs => splitFrom (.quote opened (text.push c)) (pos + c.utf8Size) cs
  | .bare text, pos, c :: cs =>
    if isBlank c then (.word text :: ·) <$> splitFrom .gap (pos + c.utf8Size) cs
    else if isControl c then (fun ts => .word text :: .control c :: ts) <$> splitFrom .gap (pos + 1) cs
    else splitFrom (.bare (text.push c)) (pos + c.utf8Size) cs
  | .gap, pos, c :: cs =>
    if isBlank c then splitFrom .gap (pos + c.utf8Size) cs
    else if c == '{' then splitFrom (.brace pos 1 "") (pos + 1) cs
    else if c == '"' then splitFrom (.quote pos "") (pos + 1) cs
    else if isControl c then (.control c :: ·) <$> splitFrom .gap (pos + 1) cs
    else splitFrom (.bare c.toString) (pos + c.utf8Size) cs

def tokenize (line : String) : Except DialectError (List WordToken) :=
  splitFrom .gap 0 line.toList

end Pipework.Tcl
