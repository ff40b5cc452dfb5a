import Pipework.Posix.Builtin
import Pipework.Posix.Quote

/-! Signals in the shell: their names in each shell, `kill`, and `trap`, which sets the command a
condition runs. -/

namespace Pipework.Posix

open Pipework.Host Pipework.Tools

/-- The name the Almquist shell gives a signal number from 1 to 64: the classic names, the
bare number where a signal has no name of its own, and the real-time signals counted from
`RTMIN` up or from `RTMAX` down. -/
def shellSignalName (n : Nat) : String :=
  if n == 16 || n == 32 || n == 33 then toString n
  else if n < 32 then ((signalTable.find? (·.2 == n)).map (·.1)).getD (toString n)
  else if n == 34 then "RTMIN"
  else if n < 50 then "RTMIN+" ++ toString (n - 34)
  else if n < 64 then "RTMAX-" ++ toString (64 - n)
  else "RTMAX"

def bashConditions : List (String × Nat) :=
  [("DEBUG", 65), ("ERR", 66), ("RETURN", 67)]

def bashSignalName (n : Nat) : Option String :=
  if n == 0 then some "EXIT"
  else if n == 32 || n == 33 then none
  else if n == 16 then some "SIGSTKFLT"
  else if n ≤ 64 then some ("SIG" ++ shellSignalName n)
  else (bashConditions.find? (·.2 == n)).map (·.1)

def shellSignal? (spec : String) : Option Nat :=
  if !spec.isEmpty && spec.toList.all Char.isDigit then
    if spec.toNat! < 65 then some spec.toNat! else none
  else if spec.toUpper == "EXIT" then some 0
  else (List.range 64).map (· + 1) |>.find? fun n => (shellSignalName n).toUpper == spec.toUpper

def bashSignal? (spec : String) : Option Nat :=
  match bashNumber? spec with
  | some n => if 0 ≤ n && n < 65 then some n.toNat else none
  | none =>
    let upper := spec.toUpper
    (List.range 68).find? fun n =>
      match bashSignalName n with
      | some name => name.toUpper == upper || (name.startsWith "SIG" && (name.drop 3).toString.toUpper == upper)
      | none => false

def Flavor.signal? : Flavor → String → Option Nat
  | .dash => shellSignal?
  | .bash => bashSignal?

def killUsage : String :=
  "Usage: kill [-s sigspec | -signum | -sigspec] [pid | job]... or\nkill -l [exitstatus]"

/-- The signal, the list request and the words of an Almquist shell `kill` command, or its
message. A first word that names a signal after its `-` gives the signal; otherwise the front
words are read as the options `-l` and `-s NAME`. -/
def killRequest (args : List String) : Except String (Option Nat × Bool × List String) :=
  match args with
  | first :: more =>
    match first.toList with
    | '-' :: spec =>
      match shellSignal? (String.ofList spec) with
      | some n => .ok (some n, false, more)
      | none =>
        let read := readOptions ['l', 's', ':'] args
        let step (acc : Except String (Option Nat × Bool)) (o : Char × Option String) :=
          acc.bind fun (signal, list) =>
            match o with
            | ('s', some name) =>
              match shellSignal? name with
              | some n => .ok (some n, list)
              | none => .error ("invalid signal number or name: " ++ name)
            | _ => .ok (signal, true)
        match read.options.foldl step (.ok (none, false)), read.rest with
        | .error message, _ => .error message
        | .ok _, .error message => .error message
        | .ok (signal, list), .ok words => .ok (signal, list, words)
    | _ => .ok (none, false, args)
  | [] => .error killUsage

def signalProcess (pid signal : Nat) : Sh (Except OsError Unit) := do
  let s ← get
  if pid == s.proc.pid && signal != 0 && (s.traps.lookup signal).isSome then
    modify fun s => { s with pendingSignals := s.pendingSignals ++ [signal] }
    return .ok ()
  liftSys (Sys.send s.proc pid signal)

/-- The Almquist shell's `kill`: sends a signal, `TERM` unless one is named, to processes by
number, or with `-l` names the signals (or the one an exit status stands for). A process
that cannot be signalled is reported and the others are still tried; a bad number ends the
command. -/
def dashKill (args : List String) : Sh Nat := do
  match killRequest args with
  | .error message => warnIn "kill" message; return 2
  | .ok (signal, list, words) =>
  let signal := if list then signal else some (signal.getD 15)
  if (signal.isNone || words.isEmpty) != list then
    warnIn "kill" killUsage
    return 2
  if list then
    match words with
    | [] =>
      printTo 1 ("0\n" ++ String.join ((List.range 64).map fun n => shellSignalName (n + 1) ++ "\n"))
      return 0
    | w :: _ =>
      match shellNumber? w with
      | none => warnIn "kill" ("Illegal number: " ++ w); return 2
      | some n =>
        let n := if n > 128 then n - 128 else n
        if 0 < n && n < 65 then
          printTo 1 (shellSignalName n ++ "\n")
          return 0
        else
          warnIn "kill" ("invalid signal number or exit status: " ++ w)
          return 2
  let signal := signal.getD 15
  let hasJob := (← get).lastBackground.isSome
  let mut status := 0
  for text in words do
    let target : Except String (Option Nat) :=
      match text.toList with
      | '%' :: _ => if hasJob then .ok none else .error ("No such job: " ++ text)
      | '-' :: rest =>
        match shellNumber? (String.ofList rest) with
        | some _ => .ok none
        | none => .error ("Illegal number: " ++ String.ofList rest)
      | _ =>
        match shellNumber? text with
        | some pid => .ok (some pid)
        | none => .error ("Illegal number: " ++ text)
    match target with
    | .error message => warnIn "kill" message; return 2
    | .ok none =>
      warnIn "kill" (OsError.noSuchProcess.description ++ "\n")
      status := 1
    | .ok (some pid) =>
      match ← signalProcess pid signal with
      | .ok () => pure ()
      | .error e =>
        warnIn "kill" (e.description ++ "\n")
        status := 1
  return status

def bashSignalTable : String :=
  let named := ((List.range 64).map (· + 1)).filterMap fun n => (bashSignalName n).map (n, ·)
  let cells := named.map fun (n, name) =>
    (if n < 10 then " " else "") ++ toString n ++ ") " ++ name
  let rec rows (fuel : Nat) (cs : List String) : List String :=
    match fuel with
    | 0 => []
    | fuel + 1 =>
      if cs.isEmpty then []
      else
        let row := "\t".intercalate (cs.take 5)
        (if cs.length < 5 then row ++ "\t" else row) :: rows fuel (cs.drop 5)
  String.join ((rows (cells.length + 1) cells).map (· ++ "\n"))

def bashKillUsage : String :=
  "kill: usage: kill [-s sigspec | -n signum | -sigspec] pid | jobspec ... or kill -l [sigspec]"

/-- What the front of a bash `kill` command asks: whether to list, the signal and the text
that named it, and the words left. -/
structure KillOptions where
  listing : Bool := false
  signal : Option Nat := some 15
  spec : String := ""
  sawSignal : Bool := false
  words : List String := []

def bashKillOptions : Nat → KillOptions → List String → Option KillOptions
  | 0, k, words => some { k with words }
  | _ + 1, k, [] => some { k with words := [] }
  | fuel + 1, k, w :: rest =>
    let named (spec : String) (more : List String) :=
      bashKillOptions fuel { k with signal := bashSignal? spec, spec, sawSignal := true } more
    match w.toList with
    | ['-', 'l'] | ['-', 'L'] => bashKillOptions fuel { k with listing := true } rest
    | ['-', 's'] | ['-', 'n'] =>
      match rest with
      | spec :: more => named spec more
      | [] => none
    | '-' :: 's' :: c :: more => if c.isAlpha then named (String.ofList (c :: more)) rest else
        if k.sawSignal then some { k with words := w :: rest } else named (String.ofList ('s' :: c :: more)) rest
    | '-' :: 'n' :: c :: more => if c.isDigit then named (String.ofList (c :: more)) rest else
        if k.sawSignal then some { k with words := w :: rest } else named (String.ofList ('n' :: c :: more)) rest
    | ['-', '-'] => some { k with words := rest }
    | '-' :: spec => if k.sawSignal then some { k with words := w :: rest } else named (String.ofList spec) rest
    | _ => some { k with words := w :: rest }

def bashKillList (words : List String) : Sh Nat := do
  let mut status := 0
  for w in words do
    match bashNumber? w with
    | some v =>
      let n := if v > 128 then v - 128 else v
      if n < 0 || n ≥ 65 then
        warnIn "kill" (w ++ ": invalid signal specification")
        status := 1
      else
        match bashSignalName n.toNat with
        | some name => printTo 1 ((if n > 0 then (name.drop 3).toString else name) ++ "\n")
        | none => pure ()
    | none =>
      match bashSignal? w with
      | some n => printTo 1 (toString n ++ "\n")
      | none =>
        warnIn "kill" (w ++ ": invalid signal specification")
        status := 1
  return status

def bashKill (args : List String) : Sh Nat := do
  let s ← get
  if args.isEmpty then
    liftSys (Sys.say s.proc 2 (bashKillUsage ++ "\n"))
    return 2
  match bashKillOptions (args.length + 1) {} args with
  | none =>
    warnIn "kill" "-s: option requires an argument"
    return 1
  | some k =>
  if k.listing then
    if k.words.isEmpty then
      printTo 1 bashSignalTable
      return 0
    return ← bashKillList k.words
  match k.signal with
  | none =>
    warnIn "kill" (k.spec ++ ": invalid signal specification")
    return 1
  | some signal =>
  if k.words.isEmpty then
    liftSys (Sys.say s.proc 2 (bashKillUsage ++ "\n"))
    return 2
  let mut any := false
  for w in k.words do
    let digits := if w.startsWith "-" then (w.drop 1).toString else w
    match (if digits.isEmpty then none else bashNumber? w) with
    | some pid =>
      if pid < 0 then
        warnIn "kill" ("(" ++ toString pid ++ ") - " ++ OsError.noSuchProcess.description)
      else
        match ← signalProcess pid.toNat signal with
        | .ok () => any := true
        | .error e => warnIn "kill" ("(" ++ toString pid ++ ") - " ++ e.description)
    | none =>
      if w.startsWith "%" then warnIn "kill" (w ++ ": no such job")
      else warnIn "kill" (w ++ ": arguments must be process or job IDs")
  return (if any then 0 else 1)

def killBuiltin (args : List String) : Sh Nat := do
  match (← get).flavor with
  | .dash => dashKill args
  | .bash => bashKill args

def trapLine (flavor : Flavor) (signal : Nat) (action : String) : String :=
  match flavor with
  | .dash =>
    "trap -- " ++ dashQuote action ++ " " ++ (if signal == 0 then "EXIT" else shellSignalName signal) ++ "\n"
  | .bash =>
    let name := (bashSignalName signal).getD (toString signal)
    "trap -- " ++ (if action.isEmpty then "''" else bashQuote action) ++ " " ++ name ++ "\n"

def setTrap (signal : Nat) (action : Option String) : Sh Unit :=
  modify fun s =>
    let rest := s.traps.filter (·.1 != signal)
    { s with traps := match action with
      | some a => (rest ++ [(signal, a)]).mergeSort fun a b => a.1 ≤ b.1
      | none => rest }

/-- `trap`: with an action and conditions, sets the action of each (`-` puts the default
back, an empty action ignores the signal); with conditions only, puts their defaults back;
with nothing, lists the traps set. -/
def trapBuiltin (args : List String) : Sh Nat := do
  let s ← get
  let flavor := s.flavor
  let (listOnly, args) := match flavor, args with
    | .bash, "-p" :: rest => (true, rest)
    | _, "--" :: rest => (false, rest)
    | _, rest => (false, rest)
  if flavor == .bash && args == ["-l"] then
    printTo 1 bashSignalTable
    return 0
  if args.isEmpty || listOnly then
    let shown := if args.isEmpty then s.traps
      else s.traps.filter fun (n, _) => args.any fun a => flavor.signal? a == some n
    for (n, action) in shown do
      printTo 1 (trapLine flavor n action)
    return 0
  let (action, conditions) : Option String × List String :=
    match args with
    | [single] => (none, [single])
    | first :: rest =>
      if flavor == .bash && !first.isEmpty && first.toList.all Char.isDigit && (bashSignal? first).isSome then
        (none, first :: rest)
      else if first == "-" then (none, rest)
      else (some first, rest)
    | [] => (none, [])
  let mut status := 0
  for c in conditions do
    match flavor.signal? c with
    | some n => setTrap n action
    | none =>
      match flavor with
      | .dash =>
        liftSys (Sys.say s.proc 2 ("trap: " ++ c ++ ": bad trap\n"))
        return 1
      | .bash =>
        warnIn "trap" (c ++ ": invalid signal specification")
        status := 1
  return status

end Pipework.Posix
