import Pipework.Tools.Manual

/-! The small programs: `echo`, `true`, `false`, `yes`, `pwd`, `sleep` and `env`, as the GNU tools
behave when no locale is set; and the names of the signals. -/

namespace Pipework.Tools

open Pipework.Host

def isHexDigit (c : Char) : Bool :=
  c.isDigit || ('a' ≤ c && c ≤ 'f') || ('A' ≤ c && c ≤ 'F')

def hexValue (c : Char) : Nat :=
  if c.isDigit then c.toNat - 48
  else if 'a' ≤ c && c ≤ 'f' then c.toNat - 87
  else c.toNat - 55

def isOctalDigit (c : Char) : Bool :=
  '0' ≤ c && c ≤ '7'

def octalRun : Nat → Nat → List Char → Nat × List Char
  | 0, v, cs => (v, cs)
  | n + 1, v, c :: cs => if isOctalDigit c then octalRun n (v * 8 + (c.toNat - 48)) cs else (v, c :: cs)
  | _ + 1, v, [] => (v, [])

def byteOf (n : Nat) : ByteArray :=
  ByteArray.mk #[n.toUInt8]

def charBytes (c : Char) : ByteArray :=
  (String.singleton c).toUTF8

def echoEscape : List Char → ByteArray × List Char × Bool
  | 'c' :: cs => (.empty, cs, true)
  | 'a' :: cs => (byteOf 7, cs, false)
  | 'b' :: cs => (byteOf 8, cs, false)
  | 'e' :: cs => (byteOf 27, cs, false)
  | 'f' :: cs => (byteOf 12, cs, false)
  | 'n' :: cs => (byteOf 10, cs, false)
  | 'r' :: cs => (byteOf 13, cs, false)
  | 't' :: cs => (byteOf 9, cs, false)
  | 'v' :: cs => (byteOf 11, cs, false)
  | '\\' :: cs => (byteOf 92, cs, false)
  | 'x' :: h :: h2 :: cs =>
    if isHexDigit h then
      if isHexDigit h2 then (byteOf (hexValue h * 16 + hexValue h2), cs, false)
      else (byteOf (hexValue h), h2 :: cs, false)
    else ((byteOf 92).push 120, h :: h2 :: cs, false)
  | 'x' :: h :: cs =>
    if isHexDigit h then (byteOf (hexValue h), cs, false) else ((byteOf 92).push 120, h :: cs, false)
  | '0' :: cs =>
    let (v, rest) := octalRun 3 0 cs
    (byteOf v, rest, false)
  | d :: cs =>
    if isOctalDigit d then
      let (v, rest) := octalRun 2 (d.toNat - 48) cs
      (byteOf v, rest, false)
    else (byteOf 92 ++ charBytes d, cs, false)
  | [] => (byteOf 92, [], false)

def echoEscapes : Nat → List Char → ByteArray → ByteArray × Bool
  | 0, _, acc => (acc, false)
  | _ + 1, [], acc => (acc, false)
  | fuel + 1, '\\' :: cs, acc =>
    let (bytes, rest, stop) := echoEscape cs
    if stop then (acc, true) else echoEscapes fuel rest (acc ++ bytes)
  | fuel + 1, c :: cs, acc => echoEscapes fuel cs (acc ++ charBytes c)

def isEchoOptions (arg : String) : Bool :=
  arg.length ≥ 2 && arg.startsWith "-" && (arg.drop 1).toString.toList.all fun c => "neE".contains c

def echoOptions : List String → Bool → Bool → List String × Bool × Bool
  | arg :: rest, newline, escapes =>
    if isEchoOptions arg then
      let chars := (arg.drop 1).toString.toList
      let (n, e) := chars.foldl (fun (n, e) c =>
        if c == 'n' then (false, e) else if c == 'e' then (n, true) else (n, false)) (newline, escapes)
      echoOptions rest n e
    else (arg :: rest, newline, escapes)
  | [], newline, escapes => ([], newline, escapes)

def echoProgram : Program := fun _ p => do
  echoManual.lone p
  let (words, newline, escapes) := echoOptions p.args true false
  if escapes then
    let rec go : List String → ByteArray → Sys Nat
      | [], acc => do emit p (if newline then acc.push 10 else acc); return 0
      | w :: more, acc => do
        let (bytes, stop) := echoEscapes (w.length + 1) w.toList .empty
        if stop then emit p (acc ++ bytes); return 0
        go more (if more.isEmpty then acc ++ bytes else (acc ++ bytes).push 32)
    go words .empty
  else
    emitText p (" ".intercalate words ++ (if newline then "\n" else ""))
    return 0

def trueProgram : Program := fun _ p => do
  trueManual.lone p
  pure 0

def falseProgram : Program := fun _ p => do
  falseManual.lone p
  pure 1

def yesProgram : Program := fun _ p => do
  match ← yesManual.options p {} p.args with
  | .error e => usageError p e
  | .ok parsed =>
    let line := if parsed.operands.isEmpty then "y" else " ".intercalate parsed.operands
    throw (.endless 1 (line ++ "\n").toUTF8)

def pwdProgram : Program := fun _ p => do
  let spec : OptSpec := {
    shorts := [('L', .none), ('P', .none)]
    longs := [⟨"logical", .none, "L"⟩, ⟨"physical", .none, "P"⟩] }
  match ← pwdManual.options p spec p.args with
  | .error e => usageError p e
  | .ok parsed =>
    if !parsed.operands.isEmpty then complain p "ignoring non-option arguments"
    emitText p (p.here.text ++ "\n")
    return 0

def isInterval (s : String) : Bool :=
  let body := if s.endsWith "s" || s.endsWith "m" || s.endsWith "h" || s.endsWith "d" then
    (s.dropEnd 1).toString else s
  let parts := body.splitOn "."
  !body.isEmpty && parts.length ≤ 2 && parts.all (·.toList.all Char.isDigit) &&
    parts.any (!·.isEmpty)

def sleepProgram : Program := fun _ p => do
  match ← sleepManual.options p {} p.args with
  | .error e => usageError p e
  | .ok parsed =>
    if parsed.operands.isEmpty then usageError p "missing operand"
    else
      match parsed.operands.find? (!isInterval ·) with
      | some bad => usageError p ("invalid time interval " ++ localeQuote bad)
      | none => return 0

def envProgram : Program := fun launch p => do
  let spec : OptSpec := {
    shorts := [('i', .none), ('u', .required), ('0', .none), ('C', .required), ('v', .none)]
    longs := [⟨"ignore-environment", .none, "i"⟩, ⟨"unset", .required, "u"⟩, ⟨"null", .none, "0"⟩,
      ⟨"chdir", .required, "C"⟩, ⟨"debug", .none, "v"⟩]
    inOrder := true }
  let (args, clear) := match p.args with
    | "-" :: rest => (rest, true)
    | args => (args, false)
  match ← envManual.options p spec args with
  | .error e => usageError p e 125
  | .ok parsed =>
    let base := if clear || parsed.has "i" then [] else p.env
    let unset := parsed.opts.filterMap fun (k, v) => if k == "u" then v else none
    let env := base.filter fun (n, _) => !unset.contains n
    let rest := match parsed.operands with
      | "-" :: more => more
      | more => more
    let assigns := rest.takeWhile (·.contains '=')
    let command := rest.dropWhile (·.contains '=')
    let env := assigns.foldl (fun env a =>
      match a.splitOn "=" with
      | name :: vs =>
        let value := "=".intercalate vs
        if env.any (·.1 == name) then env.map fun (n, v) => if n == name then (n, value) else (n, v)
        else env ++ [(name, value)]
      | [] => env) env
    match command with
    | [] =>
      if parsed.has "C" then return ← usageError p "must specify command with --chdir (-C)" 125
      let sep := if parsed.has "0" then "\x00" else "\n"
      emitText p (String.join (env.map fun (n, v) => n ++ "=" ++ v ++ sep))
      return 0
    | name :: _ =>
      let moved ← match parsed.last? "C" with
        | none => pure (some p)
        | some dir =>
          match (← Sys.tree).lookup p.here dir with
          | .ok (place, .dir) => pure (some { p with here := place, cwd := Place.text place })
          | .ok _ =>
            complain p ("cannot change directory to " ++ localeQuote dir ++ ": Not a directory")
            pure none
          | .error e =>
            complain p ("cannot change directory to " ++ localeQuote dir ++ ": " ++ e.description)
            pure none
      match moved with
      | none => return 125
      | some q =>
        match ← execSearch launch { q with env } name command with
        | .ok status => becomeStatus status
        | .error e =>
          complain p (localeQuote name ++ ": " ++ e.description)
          return (if e == .noEntry then 127 else 126)

def signalTable : List (String × Nat) :=
  [("HUP", 1), ("INT", 2), ("QUIT", 3), ("ILL", 4), ("TRAP", 5), ("ABRT", 6), ("BUS", 7),
   ("FPE", 8), ("KILL", 9), ("USR1", 10), ("SEGV", 11), ("USR2", 12), ("PIPE", 13),
   ("ALRM", 14), ("TERM", 15), ("STKFLT", 16), ("CHLD", 17), ("CONT", 18), ("STOP", 19),
   ("TSTP", 20), ("TTIN", 21), ("TTOU", 22), ("URG", 23), ("XCPU", 24), ("XFSZ", 25),
   ("VTALRM", 26), ("PROF", 27), ("WINCH", 28), ("IO", 29), ("PWR", 30), ("SYS", 31)]

end Pipework.Tools
