import Pipework.Tools.Manual

/-! `basename` and `dirname`: the last component of a file name, and everything before it. -/

namespace Pipework.Tools

open Pipework.Host

def trimSlashes (cs : List Char) : List Char :=
  let kept := (cs.reverse.dropWhile (· == '/')).reverse
  if kept.isEmpty && !cs.isEmpty then ['/'] else kept

def lastComponentStart (cs : List Char) : Nat :=
  let lead := (cs.takeWhile (· == '/')).length
  let step (state : Nat × Bool) (ic : Char × Nat) : Nat × Bool :=
    let (start, afterSlash) := state
    let (c, i) := ic
    if c == '/' then (start, true)
    else if afterSlash then (i, false)
    else (start, false)
  ((cs.drop lead).zipIdx lead |>.foldl step (lead, false)).1

def baseName (cs : List Char) : List Char :=
  let start := lastComponentStart cs
  if start ≥ cs.length then trimSlashes cs
  else trimSlashes (cs.drop start)

def dropSuffix (name suffix : List Char) : List Char :=
  if suffix.length < name.length && name.drop (name.length - suffix.length) == suffix then
    name.take (name.length - suffix.length)
  else name

def basenameOf (name : String) (suffix : Option String) : String :=
  let base := baseName name.toList
  let base := match suffix with
    | some s => if base.headD ' ' == '/' then base else dropSuffix base s.toList
    | none => base
  String.ofList base

def dirLength (cs : List Char) : Nat :=
  let prefixLen := if cs.headD ' ' == '/' then 1 else 0
  let rec back (fuel len : Nat) : Nat :=
    match fuel with
    | 0 => len
    | fuel + 1 =>
      if prefixLen < len && cs.getD (len - 1) ' ' == '/' then back fuel (len - 1) else len
  let start := lastComponentStart cs
  back start start

def dirnameOf (name : String) : String :=
  let cs := name.toList
  let len := dirLength cs
  if len == 0 then "." else String.ofList (cs.take len)

def basenameProgram : Program := fun _ p => do
  let spec : OptSpec := {
    shorts := [('a', .none), ('s', .required), ('z', .none)]
    longs := [⟨"multiple", .none, "a"⟩, ⟨"suffix", .required, "s"⟩, ⟨"zero", .none, "z"⟩]
    inOrder := true }
  match ← basenameManual.options p spec p.args with
  | .error e => usageError p e
  | .ok parsed =>
    let ending := if parsed.has "z" then "\x00" else "\n"
    let suffix := parsed.last? "s"
    let many := parsed.has "a" || suffix.isSome
    match parsed.operands with
    | [] => usageError p "missing operand"
    | names@(first :: more) =>
      if many then
        emitText p (String.join (names.map fun n => basenameOf n suffix ++ ending))
        return 0
      else
        match more with
        | [] =>
          emitText p (basenameOf first none ++ ending)
          return 0
        | [s] =>
          emitText p (basenameOf first (some s) ++ ending)
          return 0
        | _ :: extra :: _ => usageError p ("extra operand " ++ localeQuote extra)

def dirnameProgram : Program := fun _ p => do
  let spec : OptSpec := {
    shorts := [('z', .none)]
    longs := [⟨"zero", .none, "z"⟩] }
  match ← dirnameManual.options p spec p.args with
  | .error e => usageError p e
  | .ok parsed =>
    let ending := if parsed.has "z" then "\x00" else "\n"
    if parsed.operands.isEmpty then usageError p "missing operand"
    else
      emitText p (String.join (parsed.operands.map fun n => dirnameOf n ++ ending))
      return 0

end Pipework.Tools
