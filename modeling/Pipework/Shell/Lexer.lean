import Pipework.Shell.Token
import Pipework.Text.Blank

/-! The lexer of script lines. -/

namespace Pipework.Shell

open Pipework.Text

/-- Why a line cannot be split into tokens; each error carries the span it points at. -/
inductive LexError where
  | unterminatedSingleQuote (span : Span)
  | unterminatedDoubleQuote (span : Span)
  | trailingBackslash (span : Span)
  | invalidDescriptor (text : String) (span : Span)
  deriving Repr, DecidableEq, Inhabited

namespace LexError

def span : LexError → Span
  | .unterminatedSingleQuote s | .unterminatedDoubleQuote s | .trailingBackslash s
  | .invalidDescriptor _ s => s

def message : LexError → String
  | .unterminatedSingleQuote s => "unterminated single quote at position " ++ toString s.start
  | .unterminatedDoubleQuote s => "unterminated double quote at position " ++ toString s.start
  | .trailingBackslash s => "trailing backslash at position " ++ toString s.start
  | .invalidDescriptor text s =>
    "invalid file descriptor '" ++ text ++ "' at position " ++ toString s.start

def diagnostic (e : LexError) (line : String) : String :=
  e.span.diagnostic line e.message

end LexError

def maxDescriptor : Nat := 4294967295

def digitsValue (s : String) : Nat :=
  s.toList.foldl (fun n c => 10 * n + (c.toNat - '0'.toNat)) 0

/-- Where the lexer stands: between tokens, in the bare part of a word, or inside quotes
of a word. A word remembers the offset where it started, the text read so far and whether a
quoted piece was read; quotes remember the offset where they opened. -/
inductive Mode where
  | gap
  | bare (start : Nat) (text : String) (quoted : Bool)
  | single (start : Nat) (text : String) (opened : Nat)
  | double (start : Nat) (text : String) (opened : Nat)
  deriving Repr, DecidableEq

def wordToken (text : String) (quoted : Bool) (span : Span) : Token :=
  if !quoted && text == "!" then ⟨.bang, span⟩ else ⟨.word text, span⟩

def Mode.finish (pos : Nat) : Mode → List Token
  | .bare start text quoted => [wordToken text quoted ⟨start, pos⟩]
  | _ => []

/-- The descriptor a word stands for when a redirection operator follows it directly: a
bare, non-empty run of decimal digits. -/
def Mode.descriptor? : Mode → Option (Nat × String × Nat)
  | .bare start text quoted =>
    if !quoted && !text.isEmpty && text.all Char.isDigit then some (start, text, digitsValue text)
    else none
  | _ => none

def Mode.withOperator (mode : Mode) (pos : Nat) (t : Token)
    (rest : Except LexError (List Token)) : Except LexError (List Token) :=
  rest.map fun ts => mode.finish pos ++ t :: ts

/-- Adds a redirection token whose operator starts at `pos` and is `width` bytes wide. A
descriptor word before it becomes its descriptor, and must fit in 32 bits; any other word
ends before it. -/
def Mode.withRedirect (mode : Mode) (pos width : Nat) (op : RedirectOp)
    (rest : Except LexError (List Token)) : Except LexError (List Token) :=
  match mode.descriptor? with
  | some (start, text, value) =>
    if maxDescriptor < value then .error (.invalidDescriptor text ⟨start, pos⟩)
    else rest.map fun ts => ⟨.redirect op (some value), ⟨start, pos + width⟩⟩ :: ts
  | none => rest.map fun ts => mode.finish pos ++ ⟨.redirect op none, ⟨pos, pos + width⟩⟩ :: ts

/-- The word under way at offset `pos`: its start, its text and whether it was quoted; a
fresh word starts at `pos`. -/
def Mode.word (pos : Nat) : Mode → Nat × String × Bool
  | .bare start text quoted => (start, text, quoted)
  | _ => (pos, "", false)

/-- What the first characters of plain text stand for: an operator of a given width, a
redirection operator of a given width, an opening quote, a blank, an escaping backslash, or a
character of a word. -/
inductive Lead where
  | operator (kind : TokenKind) (width : Nat)
  | redirect (op : RedirectOp) (width : Nat)
  | single
  | double
  | blank
  | escape
  | plain
  deriving Repr, DecidableEq

/-- What the character `c`, followed by `next`, stands for outside quotes; the operators of
two characters are read before those of one. With `win32` a backslash is plain. -/
def leadOf (win32 : Bool) (c : Char) (next : Option Char) : Lead :=
  if c == '|' then
    if next == some '|' then .operator .or 2 else .operator .pipe 1
  else if c == '&' then
    if next == some '&' then .operator .and 2
    else if next == some '>' then .operator (.redirect .both none) 2
    else .operator .ampersand 1
  else if c == ';' then .operator .semi 1
  else if c == '>' then
    if next == some '>' then .redirect .append 2
    else if next == some '&' then .redirect .dupOutput 2
    else .redirect .output 1
  else if c == '<' then
    if next == some '&' then .redirect .dupInput 2 else .redirect .input 1
  else if c == '\'' then .single
  else if c == '"' then .double
  else if isBlank c then .blank
  else if c == '\\' && !win32 then .escape
  else .plain

/-- Splits a line into tokens from the mode `mode` at byte offset `pos`; `lineEnd` is the
byte length of the line, where an unterminated quote's span ends. Inside quotes only the
closing quote (and, between double quotes, a backslash) is special; elsewhere `leadOf` decides
what the next characters are. -/
def scan (win32 : Bool) (lineEnd : Nat) : Mode → Nat → List Char → Except LexError (List Token)
  | .gap, _, [] => .ok []
  | .bare start text quoted, pos, [] => .ok [wordToken text quoted ⟨start, pos⟩]
  | .single _ _ opened, _, [] => .error (.unterminatedSingleQuote ⟨opened, lineEnd⟩)
  | .double _ _ opened, _, [] => .error (.unterminatedDoubleQuote ⟨opened, lineEnd⟩)
  | .single start text opened, pos, c :: cs =>
    if c == '\'' then scan win32 lineEnd (.bare start text true) (pos + 1) cs
    else scan win32 lineEnd (.single start (text.push c) opened) (pos + c.utf8Size) cs
  | .double start text opened, pos, c :: cs =>
    if c == '\\' then
      match cs with
      | [] => .error (.trailingBackslash ⟨pos, pos + 1⟩)
      | d :: ds =>
        let kept := if d == '"' || d == '\\' then text.push d else (text.push '\\').push d
        scan win32 lineEnd (.double start kept opened) (pos + 1 + d.utf8Size) ds
    else if c == '"' then scan win32 lineEnd (.bare start text true) (pos + 1) cs
    else scan win32 lineEnd (.double start (text.push c) opened) (pos + c.utf8Size) cs
  | mode, pos, c :: cs =>
    match leadOf win32 c cs.head? with
    | .operator kind width =>
      mode.withOperator pos ⟨kind, ⟨pos, pos + width⟩⟩
        (scan win32 lineEnd .gap (pos + width) (cs.drop (width - 1)))
    | .redirect op width =>
      mode.withRedirect pos width op (scan win32 lineEnd .gap (pos + width) (cs.drop (width - 1)))
    | .single =>
      let (start, text, _) := mode.word pos
      scan win32 lineEnd (.single start text pos) (pos + 1) cs
    | .double =>
      let (start, text, _) := mode.word pos
      scan win32 lineEnd (.double start text pos) (pos + 1) cs
    | .blank => (mode.finish pos ++ ·) <$> scan win32 lineEnd .gap (pos + c.utf8Size) cs
    | .escape =>
      let (start, text, quoted) := mode.word pos
      match cs with
      | [] => .error (.trailingBackslash ⟨pos, pos + 1⟩)
      | d :: ds => scan win32 lineEnd (.bare start (text.push d) quoted) (pos + 1 + d.utf8Size) ds
    | .plain =>
      let (start, text, quoted) := mode.word pos
      scan win32 lineEnd (.bare start (text.push c) quoted) (pos + c.utf8Size) cs
termination_by _ _ cs => cs.length
decreasing_by all_goals (simp only [List.length_cons, List.length_drop]; omega)

def lex (line : String) (win32 : Bool := false) : Except LexError (List Token) :=
  scan win32 line.utf8ByteSize .gap 0 line.toList

end Pipework.Shell
