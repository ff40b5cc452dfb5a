import Pipework.Text.Toml.Values
import Pipework.Text.Toml.Tables

/-! A reader for TOML documents, which keeps where each key, value and table stands so that a
refusal can point at it. -/

namespace Pipework.Text.Toml

open Scan

/-- Why a document was refused, and where, when a place is known. -/
structure Problem where
  place : Option Extent
  message : String
  deriving Repr, DecidableEq, Inhabited

def clashAt {α : Type} (start : Nat) (clash : Except Clash α) : Scan α :=
  match clash with
  | .ok a => pure a
  | .error c => throw { pos := start, cause := some c.message }

def valueFuel : Scan Nat := do
  return 8 * ((← get).rest.length + 2)

def pair (b : Builder) : Scan Builder := do
  let start ← here
  let path ← key
  let (v, valueAt) ← final do
    expecting ["`.`", "`=`"] (char '=')
    blanks
    let va ← value (← valueFuel) 0
    expecting ["newline", "`#`"] lineTrailing
    pure va
  match path.getLast? with
  | some k => clashAt start (b.onKeyval path.dropLast k v valueAt)
  | none => pure b

def header (b : Builder) : Scan Builder := label "table header" do
  let start ← here
  if (← get).rest.length < 2 then miss
  let isArray ← startsWith "[["
  let (opening, closing) := if isArray then ("[[", "]]") else ("[", "]")
  text opening
  let path ← final key
  final (expecting ["`.`", "`" ++ closing ++ "`"] (text closing))
  let span : Extent := ⟨start, ← here⟩
  final (expecting ["newline", "`#`"] lineTrailing)
  clashAt start (if isArray then b.startArrayTable path span else b.startTable path span)

def lines (fuel : Nat) (b : Builder) : Scan Builder := do
  match fuel with
  | 0 => pure b
  | fuel + 1 =>
    match ← peek with
    | none => pure b
    | some c =>
      let line : Scan Builder := match c with
        | '#' => final (do comment; lineEnding; pure b)
        | '[' => final (header b)
        | '\n' | '\r' => do newline; pure b
        | _ => final (pair b)
      match ← attempt line with
      | none => pure b
      | some b => blanks; lines fuel b

def document : Scan Builder := do
  if (← peek) == some '\uFEFF' then bump
  blanks
  let b ← lines ((← get).rest.length + 1) {}
  if (← peek).isSome then miss
  return b

def charPlace (text : String) (pos : Nat) : Extent :=
  let rec find : List Char → Nat → Extent
    | [], _ => ⟨pos, pos⟩
    | c :: rest, offset =>
      if pos < offset + c.utf8Size then ⟨pos, offset + c.utf8Size⟩ else find rest (offset + c.utf8Size)
  find text.toList 0

def parse (text : String) : Except Problem (List (Key × Item)) :=
  match document.run ⟨text.toList, 0⟩ with
  | .error f => .error ⟨some (charPlace text f.pos), f.message⟩
  | .ok (b, _) =>
    match b.finalize with
    | .ok b => .ok b.root
    | .error clash => .error ⟨none, clash.message⟩

/-- The line and column (both counted from zero) of a byte offset: the column counts the
characters of the line before it, or its bytes where they are not whole characters. An offset
at the very end counts one past the last byte. -/
def position (bytes : ByteArray) (index : Nat) : Nat × Nat :=
  if bytes.size == 0 then (0, index)
  else
    let safe := min index (bytes.size - 1)
    let before := (bytes.extract 0 safe).toList
    let lineStart := match (before.zipIdx.filter fun (b, _) => b == 10).getLast? with
      | some (_, i) => i + 1
      | none => 0
    let line := ((bytes.extract 0 lineStart).toList.filter (· == 10)).length
    let column := match String.fromUTF8? (bytes.extract lineStart (safe + 1)) with
      | some s => s.length - 1
      | none => safe - lineStart
    (line, column + (index - safe))

def blankRun (n : Nat) : String :=
  String.ofList (List.replicate n ' ')

/-- A problem laid out against its document: the line and column, the line itself with its
number in a gutter, carets under the problem's place (at least one, and not past the line's
end), and the message. A problem with no place is its message alone. -/
def Problem.report (p : Problem) (doc : String) : String :=
  match p.place with
  | none => p.message ++ "\n"
  | some place =>
    let (line, column) := position doc.toUTF8 place.start
    let number := toString (line + 1)
    let gutter := blankRun (number.length + 1)
    let content := ((doc.splitOn "\n")[line]?).getD ""
    let width := min (place.stop - place.start) (content.utf8ByteSize - column)
    "TOML parse error at line " ++ number ++ ", column " ++ toString (column + 1) ++ "\n" ++
      gutter ++ "|\n" ++
      number ++ " | " ++ content ++ "\n" ++
      gutter ++ "|" ++ blankRun (column + 1) ++ "^" ++ String.ofList (List.replicate (width - 1) '^') ++ "\n" ++
      p.message ++ "\n"

end Pipework.Text.Toml
