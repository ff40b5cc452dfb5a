import Pipework.Run.Error

/-! The stream plan of a simple command: where its standard input, output and error go after its
redirections are applied in order. -/

namespace Pipework.Run

open Pipework.Shell

/-- The three standard streams. -/
inductive Stream where
  | input
  | output
  | error
  deriving Repr, DecidableEq, Inhabited

def Stream.ofTarget? : String → Option Stream
  | "0" => some .input
  | "1" => some .output
  | "2" => some .error
  | _ => none

/-- Where a stream goes: where one of the standard streams goes by default, or to one of
the files the plan opens. -/
inductive Slot where
  | default (s : Stream)
  | file (index : Nat)
  deriving Repr, DecidableEq, Inhabited

/-- How a redirection opens its file. -/
inductive OpenMode where
  | read
  | truncate
  | append
  deriving Repr, DecidableEq, Inhabited

/-- A file that a plan opens: its path as written and its mode. -/
structure FileTarget where
  path : String
  mode : OpenMode
  deriving Repr, DecidableEq, Inhabited

/-- Where the three streams of a command go, and the files it opens, in order. -/
structure StreamPlan where
  input : Slot := .default .input
  output : Slot := .default .output
  error : Slot := .default .error
  files : List FileTarget := []
  deriving Repr, DecidableEq, Inhabited

namespace StreamPlan

def errorFollowsOutput (p : StreamPlan) : Bool :=
  p.error == .default .output

def readsPipelineInput (p : StreamPlan) : Bool :=
  p.input == .default .input

def openFile (p : StreamPlan) (path : String) (mode : OpenMode) : StreamPlan × Slot :=
  ({ p with files := p.files ++ [⟨path, mode⟩] }, .file p.files.length)

def slotOf (p : StreamPlan) : Stream → Slot
  | .input => p.input
  | .output => p.output
  | .error => p.error

/-- Applies one redirection: `>`, `>>` on the output (no descriptor or 1) or on errors (2),
`<` on the input (no descriptor or 0), `2>&N` for N in 0, 1, 2, and `>&file` or `&>file`
(no descriptor) for both output and errors. Anything else is unsupported. -/
def apply (p : StreamPlan) (r : Redirect) : Except ExecError StreamPlan :=
  let refuse : Except ExecError StreamPlan := .error (.unsupportedRedirect r.display)
  match r.op, r.fd with
  | .output, none | .output, some 1 =>
    let (p, slot) := p.openFile r.target .truncate
    .ok { p with output := slot }
  | .append, none | .append, some 1 =>
    let (p, slot) := p.openFile r.target .append
    .ok { p with output := slot }
  | .output, some 2 =>
    let (p, slot) := p.openFile r.target .truncate
    .ok { p with error := slot }
  | .append, some 2 =>
    let (p, slot) := p.openFile r.target .append
    .ok { p with error := slot }
  | .input, none | .input, some 0 =>
    let (p, slot) := p.openFile r.target .read
    .ok { p with input := slot }
  | .dupOutput, some 2 =>
    match Stream.ofTarget? r.target with
    | some s => .ok { p with error := p.slotOf s }
    | none => refuse
  | .dupOutput, none =>
    match Stream.ofTarget? r.target with
    | some _ => refuse
    | none =>
      let (p, slot) := p.openFile r.target .truncate
      .ok { p with output := slot, error := slot }
  | .both, none =>
    let (p, slot) := p.openFile r.target .truncate
    .ok { p with output := slot, error := slot }
  | _, _ => refuse

def modeOf (p : StreamPlan) : Slot → Option OpenMode
  | .file i => (p.files[i]?).map FileTarget.mode
  | .default _ => none

/-- Refuses plans whose output reads from an input file, or whose errors go to standard input
or to an input file. -/
def validate (p : StreamPlan) : Except ExecError StreamPlan :=
  if p.modeOf p.output == some .read then
    .error (.unsupportedRedirect "stdout redirected to an input file")
  else if p.error == .default .input then
    .error (.unsupportedRedirect "stderr duplicated onto stdin")
  else if p.modeOf p.error == some .read then
    .error (.unsupportedRedirect "stderr duplicated onto an input file")
  else .ok p

def ofRedirects (rs : List Redirect) : Except ExecError StreamPlan := do
  let p ← rs.foldlM apply {}
  validate p

end StreamPlan

end Pipework.Run
