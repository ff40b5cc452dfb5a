import Pipework.Posix.Builtin

/-! `getopts`: reads the options of a script's arguments one call at a time. -/

namespace Pipework.Posix

open Pipework.Host Pipework.Tools

/-- One step of `getopts`: the letter for the variable, what to do with `OPTARG` (leave it,
unset it, or set it), the new `OPTIND`, the place inside a word to go on from, a message,
and whether the options have ended. -/
structure OptStep where
  letter : Char
  optarg : Option (Option String) := none
  optind : Nat
  place : Option Nat := none
  message : Option String := none
  done : Bool := false

def optionSpec (spec : List Char) (c : Char) : Option Bool :=
  if c == ':' then none else
  match spec.dropWhile (· != c) with
  | _ :: ':' :: _ => some true
  | _ :: _ => some false
  | [] => none

def dashGetopts (spec : List Char) (args : Array String) (optind : Nat) (place : Option Nat) : OptStep :=
  let silent := spec.head? == some ':'
  let current : Option (Nat × Nat) := match place with
    | some k =>
      if optind ≥ 2 && optind - 2 < args.size && k < (args.getD (optind - 2) "").length then some (optind - 2, k)
      else none
    | none => none
  let start : Except OptStep (Nat × Nat × Nat) := match current with
    | some (w, k) => .ok (w, k, optind - 1)
    | none =>
      let idx := optind - 1
      match args[idx]? with
      | none => .error { letter := '?', optind, done := true }
      | some word =>
        if !word.startsWith "-" || word == "-" then .error { letter := '?', optind, done := true }
        else if word == "--" then .error { letter := '?', optind := idx + 2, done := true }
        else .ok (idx, 1, idx + 1)
  match start with
  | .error step => step
  | .ok (w, k, next) =>
    let word := (args.getD w "").toList
    let c := word.getD k ' '
    let after := k + 1
    match optionSpec spec c with
    | none =>
      { letter := '?', optind := next + 1, place := some after,
        optarg := some (if silent then some (String.singleton c) else none),
        message := if silent then none else some ("Illegal option -" ++ String.singleton c) }
    | some true =>
      if after < word.length then
        { letter := c, optind := next + 1, optarg := some (some (String.ofList (word.drop after))) }
      else match args[next]? with
        | some v => { letter := c, optind := next + 2, optarg := some (some v) }
        | none =>
          if silent then { letter := ':', optind := next + 1, optarg := some (some (String.singleton c)) }
          else { letter := '?', optind := next + 1, optarg := some none,
                 message := some ("No arg for -" ++ String.singleton c ++ " option") }
    | some false => { letter := c, optind := next + 1, place := some after, optarg := some (some "") }

def bashGetopts (name : String) (spec : List Char) (args : Array String) (optind : Nat) (place : Option Nat) : OptStep :=
  let silent := spec.head? == some ':'
  if optind == 0 || optind > args.size then { letter := '?', optind := args.size + 1, done := true } else
  let start : Except OptStep (Nat × Nat) :=
    match place with
    | some k => if k < (args.getD (optind - 1) "").length then .ok (optind - 1, k) else .error { letter := '?', optind, done := true }
    | none =>
      let word := args.getD (optind - 1) ""
      if word == "--" then .error { letter := '?', optind := optind + 1, done := true }
      else if !word.startsWith "-" || word == "-" then .error { letter := '?', optind, done := true }
      else .ok (optind - 1, 1)
  match start with
  | .error step => step
  | .ok (w, k) =>
    let word := (args.getD w "").toList
    let c := word.getD k ' '
    let after := k + 1
    let last := after ≥ word.length
    let optind := if last then optind + 1 else optind
    let place := if last then none else some after
    match optionSpec spec c with
    | none =>
      { letter := '?', optind, place,
        optarg := some (if silent then some (String.singleton c) else none),
        message := if silent then none else some (name ++ ": illegal option -- " ++ String.singleton c) }
    | some true =>
      if !last then
        { letter := c, optind := optind + 1, optarg := some (some (String.ofList (word.drop after))) }
      else match args[optind - 1]? with
        | some v => { letter := c, optind := optind + 1, optarg := some (some v) }
        | none =>
          if silent then { letter := ':', optind, optarg := some (some (String.singleton c)) }
          else { letter := '?', optind, optarg := some none,
                 message := some (name ++ ": option requires an argument -- " ++ String.singleton c) }
    | some false => { letter := c, optind, place, optarg := some none }

/-- `getopts SPEC NAME [ARG...]`: puts the next option of the arguments (or of the positional
parameters) in `NAME`, its value in `OPTARG`, and the number of the next argument in
`OPTIND`. The status is 1 once the options have ended. -/
def getoptsBuiltin (args : List String) : Sh Nat := do
  let s ← get
  match args with
  | specText :: var :: given =>
    let words := (if given.isEmpty then s.params else given).toArray
    let optindText := (s.get? "OPTIND").getD "1"
    let optind := (optindText.trimAscii.toString.toNat?).getD 1
    let place := match s.optPlace with
      | some (seen, k) => if seen == optindText then some k else none
      | none => none
    let step := match s.flavor with
      | .dash => dashGetopts specText.toList words optind place
      | .bash => bashGetopts s.arg0 specText.toList words optind place
    match step.message with
    | some m =>
      match s.flavor with
      | .dash => liftSys (Sys.say s.proc 2 (m ++ "\n"))
      | .bash => liftSys (Sys.say s.proc 2 (m ++ "\n"))
    | none => pure ()
    match step.optarg with
    | some (some v) => modify fun s => s.setVar "OPTARG" v
    | some none => modify fun s => s.unsetVar "OPTARG"
    | none => pure ()
    let text := toString step.optind
    modify fun s => (s.setVar "OPTIND" text).setVar var (String.singleton step.letter)
    modify fun s => { s with optPlace := step.place.map (text, ·) }
    return (if step.done then 1 else 0)
  | _ =>
    match s.flavor with
    | .dash => fatalIn "getopts" "usage: getopts optstring var [arg]"
    | .bash =>
      liftSys (Sys.say s.proc 2 "getopts: usage: getopts optstring name [arg ...]\n")
      return 2

end Pipework.Posix
