import Pipework.Text.Utf8

/-! Spans of a script line and the caret diagnostics that point at them. -/

namespace Pipework.Shell

open Pipework.Text

/-- A half-open range `[start, stop)` of byte offsets into a line. -/
structure Span where
  start : Nat
  stop : Nat
  deriving Repr, DecidableEq, Inhabited

def Span.length (span : Span) : Nat :=
  span.stop - span.start

/-- Where an offset falls in a text: the line number (from one), the number of characters
before the offset on its line, and the text of that line without its newline. -/
structure Location where
  line : Nat
  column : Nat
  text : String
  deriving Repr, DecidableEq

/-- The characters before byte offset `offset` of `source`: the whole source when the offset
lies inside a character, and the whole source too when it lies past the end. -/
def headBefore (source : List Char) (offset : Nat) : List Char :=
  (prefixOfBytes source offset).getD source

/-- Locates the start of a span: the head of the source before it decides the line (one more
than the newlines in it) and the column (the characters after the head's last newline); the
line's text runs from there to the next newline of the source. -/
def Span.locate (source : String) (span : Span) : Location :=
  let cs := source.toList
  let head := headBefore cs span.start
  let onLine := (head.reverse.takeWhile (· != '\n')).reverse
  let after := (cs.drop head.length).takeWhile (· != '\n')
  { line := head.count '\n' + 1
    column := onLine.length
    text := String.ofList (onLine ++ after) }

def padLineNumber (n : Nat) : String :=
  let digits := toString n
  String.ofList (List.replicate (3 - digits.length) ' ') ++ digits

/-- The caret diagnostic of a message at a span: a header with the message, the line and
column (counted from one), the quoted line, and a run of carets under the span, one per byte
and at least one. -/
def Span.diagnostic (source : String) (span : Span) (message : String) : String :=
  let loc := span.locate source
  let pad := String.ofList (List.replicate loc.column ' ')
  let carets := String.ofList (List.replicate (max 1 span.length) '^')
  "error: " ++ message ++ "\n  --> line " ++ toString loc.line ++ ", column " ++
    toString (loc.column + 1) ++ "\n   |\n" ++ padLineNumber loc.line ++ " | " ++ loc.text ++
    "\n   | " ++ pad ++ carets

end Pipework.Shell
