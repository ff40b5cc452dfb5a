import Pipework.Posix.Expand
import Pipework.Posix.Lex
import Pipework.Text.Utf8
import Pipework.Tools.Basic
import Pipework.Tools.Printf

/-! The built-in commands that act on the shell's state or its descriptors. -/

namespace Pipework.Posix

open Pipework.Host Pipework.Tools

def warnIn (builtin message : String) : Sh Unit :=
  warn (builtin ++ ": " ++ message)

def fatalIn {α : Type} (builtin message : String) : Sh α :=
  fatal (builtin ++ ": " ++ message)

def specialError (builtin message : String) (code : Nat) : Sh Nat := do
  if (← get).flavor == .dash then fatalIn builtin message
  else
    warnIn builtin message
    return code

def runTool (program : Program) (argv : List String) : Sh Nat := do
  let s ← get
  let p := { s.proc with argv, env := s.environment }
  let noLaunch : Launch := fun _ _ => pure (.error .noEntry)
  liftSys (tryCatch (program noLaunch p) fun
    | .exit code => pure code
    | h => throw h)

/-- A whole number as the Almquist shell reads one: blanks around it, an optional sign and
decimal digits, with a value that is neither negative nor above the largest signed 32-bit
number. -/
def shellNumber? (text : String) : Option Nat :=
  let cs := text.toList.dropWhile isCSpace
  let (neg, cs) : Bool × List Char := match cs with
    | '-' :: r => (true, r)
    | '+' :: r => (false, r)
    | r => (false, r)
  let digits := cs.takeWhile Char.isDigit
  let value := digits.foldl (fun v c => v * 10 + (c.toNat - 48)) 0
  if digits.isEmpty || !(cs.drop digits.length).all isCSpace then none
  else if (neg && value != 0) || value > 2147483647 then none
  else some value

def shellNumber (builtin text : String) : Sh Nat :=
  match shellNumber? text with
  | some n => pure n
  | none => fatalIn builtin ("Illegal number: " ++ text)

def bashNumber? (text : String) : Option Int :=
  let cs := text.toList.dropWhile isCSpace
  let (neg, cs) : Bool × List Char := match cs with
    | '-' :: r => (true, r)
    | '+' :: r => (false, r)
    | r => (false, r)
  let digits := cs.takeWhile Char.isDigit
  let value : Nat := digits.foldl (fun v c => v * 10 + (c.toNat - 48)) 0
  if digits.isEmpty || !(cs.drop digits.length).all (fun c => c == ' ' || c == '\t') then none
  else if value > (if neg then 9223372036854775808 else 9223372036854775807) then none
  else some (if neg then -(value : Int) else value)

def lowByte (v : Int) : Nat :=
  (v % 256).toNat

def dropDashes (args : List String) : List String :=
  match args with
  | "--" :: rest => rest
  | rest => rest

/-- `exit`: ends the shell with the given status, or that of the last command. bash takes
the low eight bits of any whole number, ends with status 2 after a word that is not one,
and gives up the command when more words follow. -/
def exitBuiltin (args : List String) : Sh Nat := do
  let s ← get
  match s.flavor with
  | .dash =>
    match args with
    | [] => exitWith s.status
    | text :: _ => exitWith (← shellNumber "exit" text)
  | .bash =>
    match dropDashes args with
    | [] => exitWith s.status
    | text :: more =>
      match bashNumber? text with
      | none =>
        warnIn "exit" (text ++ ": numeric argument required")
        exitWith 2
      | some v =>
        if !more.isEmpty then
          warnIn "exit" "too many arguments"
          throw Abort.discard
        exitWith (lowByte v)

def returnStatus (args : List String) : Sh Nat := do
  let s ← get
  match s.flavor with
  | .dash =>
    match args with
    | [] => return s.status
    | text :: _ => shellNumber "return" text
  | .bash =>
    match dropDashes args with
    | [] => return s.status
    | text :: more =>
      match bashNumber? text with
      | none =>
        warnIn "return" (text ++ ": numeric argument required")
        return 2
      | some v =>
        if !more.isEmpty then
          warnIn "return" "too many arguments"
          throw Abort.discard
        return lowByte v

/-- The count of loops `break` or `continue` leaves: its number, 1 without one. The Almquist
shell refuses a count below 1 as an illegal number; bash reports it out of range and leaves
every loop. The result is the count, or none with the status the builtin fails with. -/
def loopCount (builtin : String) (args : List String) : Sh (Except Nat Nat) := do
  let s ← get
  match s.flavor with
  | .dash =>
    match args with
    | [] => return .ok 1
    | text :: _ =>
      let n ← shellNumber builtin text
      if n == 0 then fatalIn builtin ("Illegal number: " ++ text)
      return .ok n
  | .bash =>
    match dropDashes args with
    | [] => return .ok 1
    | text :: _ =>
      match bashNumber? text with
      | none =>
        warnIn builtin (text ++ ": numeric argument required")
        throw Abort.discard
      | some v =>
        if v ≤ 0 then
          warnIn builtin (text ++ ": loop count out of range")
          return .error 1
        return .ok v.toNat

def shiftBuiltin (args : List String) : Sh Nat := do
  let s ← get
  match s.flavor with
  | .dash =>
    let n ← match args with
      | [] => pure 1
      | text :: _ => shellNumber "shift" text
    if n > s.params.length then fatalIn "shift" "can't shift that many"
    set { s with params := s.params.drop n }
    return 0
  | .bash =>
    match dropDashes args with
    | [] =>
      if s.params.isEmpty then return 1
      set { s with params := s.params.drop 1 }
      return 0
    | text :: _ =>
      match bashNumber? text with
      | none =>
        warnIn "shift" (text ++ ": numeric argument required")
        return 1
      | some v =>
        if v < 0 then
          warnIn "shift" (text ++ ": shift count out of range")
          return 1
        if v.toNat > s.params.length then return 1
        set { s with params := s.params.drop v.toNat }
        return 0

/-! ### echo -/

def dashEscape : List Char → ByteArray × List Char × Bool
  | 'c' :: cs => (.empty, cs, true)
  | '\\' :: cs => (byteOf 92, cs, false)
  | 'a' :: cs => (byteOf 7, cs, false)
  | 'b' :: cs => (byteOf 8, cs, false)
  | 'f' :: cs => (byteOf 12, cs, false)
  | 'n' :: cs => (byteOf 10, cs, false)
  | 'r' :: cs => (byteOf 13, cs, false)
  | 't' :: cs => (byteOf 9, cs, false)
  | 'v' :: cs => (byteOf 11, cs, false)
  | cs =>
    let digits := match cs with
      | '0' :: d :: more => if isOctalDigit d then d :: more else cs
      | _ => cs
    match digits with
    | d :: _ =>
      if isOctalDigit d then
        let (v, rest) := octalRun 3 0 digits
        (byteOf (v % 256), rest, false)
      else (byteOf 92, cs, false)
    | [] => (byteOf 92, [], false)

/-- One escape of bash's `echo -e` after its backslash: the bytes, the rest, and whether it
stops all output. `\0` takes up to three octal digits after it, `\x` up to two hexadecimal
ones and `\u` and `\U` up to four and eight; the other digits, and letters bash does not
know, keep their backslash. -/
def bashEchoEscape : List Char → ByteArray × List Char × Bool
  | 'c' :: cs => (.empty, cs, true)
  | '\\' :: cs => (byteOf 92, cs, false)
  | 'a' :: cs => (byteOf 7, cs, false)
  | 'b' :: cs => (byteOf 8, cs, false)
  | 'e' :: cs | 'E' :: cs => (byteOf 27, cs, false)
  | 'f' :: cs => (byteOf 12, cs, false)
  | 'n' :: cs => (byteOf 10, cs, false)
  | 'r' :: cs => (byteOf 13, cs, false)
  | 't' :: cs => (byteOf 9, cs, false)
  | 'v' :: cs => (byteOf 11, cs, false)
  | '0' :: cs =>
    let (v, _, rest) := digitRun 8 3 cs 0 0
    (byteOf (v % 256), rest, false)
  | 'x' :: cs =>
    let (v, n, rest) := digitRun 16 2 cs 0 0
    if n == 0 then ("\\x".toUTF8, cs, false) else (byteOf (v % 256), rest, false)
  | 'u' :: cs => universal 'u' 4 cs
  | 'U' :: cs => universal 'U' 8 cs
  | c :: cs => ((String.singleton '\\' ++ String.singleton c).toUTF8, cs, false)
  | [] => ("\\".toUTF8, [], false)
where
  /-- A `\u` or `\U` escape: the character its digits name, written as itself when it is
  ASCII and as the escape otherwise. -/
  universal (letter : Char) (width : Nat) (cs : List Char) : ByteArray × List Char × Bool :=
    let (v, n, rest) := digitRun 16 width cs 0 0
    if n == 0 then (("\\" ++ String.singleton letter).toUTF8, cs, false)
    else if v < 128 then (byteOf v, rest, false)
    else (unwritableChar v, rest, false)

def echoEscapes (escape : List Char → ByteArray × List Char × Bool) :
    Nat → List Char → ByteArray → ByteArray × Bool
  | 0, _, acc => (acc, false)
  | _ + 1, [], acc => (acc, false)
  | fuel + 1, '\\' :: cs, acc =>
    let (bytes, rest, stop) := escape cs
    if stop then (acc ++ bytes, true) else echoEscapes escape fuel rest (acc ++ bytes)
  | fuel + 1, c :: cs, acc => echoEscapes escape fuel cs (acc ++ charBytes c)

def echoBytes (escape : Option (List Char → ByteArray × List Char × Bool)) :
    List String → ByteArray → ByteArray × Bool
  | [], acc => (acc, false)
  | w :: more, acc =>
    let (bytes, stop) := match escape with
      | some e => echoEscapes e (w.length + 1) w.toList .empty
      | none => (w.toUTF8, false)
    let acc := acc ++ bytes
    if stop then (acc, true)
    else if more.isEmpty then (acc, false)
    else echoBytes escape more (acc.push 32)

/-- The options at the front of bash's `echo` words: each word of `-` and only the letters
`n`, `e` and `E` is one. Gives whether to end with a newline, whether to work out escapes,
and the words left. -/
def bashEchoOptions : Nat → Bool → Bool → List String → Bool × Bool × List String
  | 0, newline, escapes, words => (newline, escapes, words)
  | _ + 1, newline, escapes, [] => (newline, escapes, [])
  | fuel + 1, newline, escapes, w :: rest =>
    match w.toList with
    | '-' :: letters@(_ :: _) =>
      if letters.all (fun c => c == 'n' || c == 'e' || c == 'E') then
        let newline := newline && !letters.contains 'n'
        let escapes := letters.foldl (fun e c => if c == 'e' then true else if c == 'E' then false else e) escapes
        bashEchoOptions fuel newline escapes rest
      else (newline, escapes, w :: rest)
    | _ => (newline, escapes, w :: rest)

/-- `echo`. The Almquist shell's takes a first `-n`, which drops the final newline, and always
works out escapes; bash's takes `-n`, `-e` and `-E` and works out escapes only after `-e`.
A failed write is reported and the status is 1. -/
def echoBuiltin (args : List String) : Sh Nat := do
  let s ← get
  let (newline, escape, words) := match s.flavor with
    | .dash =>
      match args with
      | "-n" :: rest => (false, some dashEscape, rest)
      | rest => (true, some dashEscape, rest)
    | .bash =>
      let (newline, escapes, rest) := bashEchoOptions (args.length + 1) true false args
      (newline, if escapes then some bashEchoEscape else none, rest)
  let (out, stopped) := echoBytes escape words .empty
  let out := if newline && !stopped then out.push 10 else out
  match ← emitTo? 1 out with
  | .ok () => return 0
  | .error e =>
    match s.flavor with
    | .dash => warnIn "echo" "echo: I/O error"
    | .bash => warnIn "echo" ("write error: " ++ e.description)
    return 1

/-! ### read -/

/-- Splits what `read` got into the values of `count` variables: fields at the characters of
`IFS` that no backslash quoted, the last variable taking the rest of the line without the
field separators that are white space at its end. -/
def readFields (ifs : List Char) (line : List (Char × Bool)) : Nat → List String
  | 0 => []
  | 1 =>
    let white (c : Char × Bool) := !c.2 && ifs.contains c.1 && (c.1 == ' ' || c.1 == '\t' || c.1 == '\n')
    let trimmed := (line.dropWhile white).reverse.dropWhile white
    [String.ofList (trimmed.reverse.map (·.1))]
  | n + 1 =>
    let white (c : Char × Bool) := !c.2 && ifs.contains c.1 && (c.1 == ' ' || c.1 == '\t' || c.1 == '\n')
    let sep (c : Char × Bool) := !c.2 && ifs.contains c.1
    let start := line.dropWhile white
    let field := start.takeWhile (fun c => !sep c)
    let after := start.drop field.length
    let after := after.dropWhile white
    let after := match after with
      | c :: more => if sep c && !white c then more.dropWhile white else after
      | [] => []
    String.ofList (field.map (·.1)) :: readFields ifs after n

def readAllFields (ifs : List Char) : Nat → List (Char × Bool) → List String
  | 0, _ => []
  | fuel + 1, line =>
    let white (c : Char × Bool) := !c.2 && ifs.contains c.1 && (c.1 == ' ' || c.1 == '\t' || c.1 == '\n')
    let start := line.dropWhile white
    if start.isEmpty then []
    else
      match readFields ifs start 2 with
      | [first, _] =>
        let sep (c : Char × Bool) := !c.2 && ifs.contains c.1
        let field := start.takeWhile (fun c => !sep c)
        let after := (start.drop field.length).dropWhile white
        let after := match after with
          | c :: more => if sep c && !white c then more.dropWhile white else after
          | [] => []
        first :: readAllFields ifs fuel after
      | other => other

def readChars (raw : Bool) : List Char → List (Char × Bool)
  | '\\' :: c :: rest => if raw then ('\\', false) :: readChars raw (c :: rest) else (c, true) :: readChars raw rest
  | ['\\'] => if raw then [('\\', false)] else []
  | c :: rest => (c, false) :: readChars raw rest
  | [] => []

def readLine (fd : Nat) (raw : Bool) : Nat → List Char → Sh (List Char × Bool)
  | 0, acc => pure (acc, false)
  | fuel + 1, acc => do
    match ← liftSys (Sys.readLines (← get).proc fd 1) with
    | .error _ => pure (acc, false)
    | .ok bytes =>
      let text := Pipework.Text.decodeLossy bytes
      let complete := text.endsWith "\n"
      let chars := if complete then text.toList.dropLast else text.toList
      let backslashes := (chars.reverse.takeWhile (· == '\\')).length
      if !raw && complete && backslashes % 2 == 1 then
        readLine fd raw fuel (acc ++ chars.dropLast)
      else pure (acc ++ chars, complete)

/-- Reads bytes for `read` up to a delimiter (none with `-N`, which reads a fixed count) or
`limit` bytes: the bytes and whether the delimiter ended them. Without `raw`, a backslash
keeps the byte after it from ending the record. -/
def readUntil (fd : Nat) (raw : Bool) (delim : Option UInt8) (limit : Option Nat) :
    Nat → ByteArray → Nat → Bool → Sh (ByteArray × Bool)
  | 0, acc, _, _ => pure (acc, false)
  | fuel + 1, acc, count, quoted => do
    if limit.any (count ≥ ·) then return (acc, true)
    match ← liftSys (Sys.readBytes (← get).proc fd 1) with
    | .error _ => pure (acc, false)
    | .ok bytes =>
      match bytes.toList with
      | [b] =>
        if !quoted && delim == some b then return (acc, true)
        if !raw && !quoted && b == 92 then readUntil fd raw delim limit fuel (acc.push b) count true
        else readUntil fd raw delim limit fuel (acc.push b) (count + 1) false
      | _ => pure (acc, false)

/-- The options of bash's `read`. -/
structure ReadRequest where
  raw : Bool := false
  array : Option String := none
  delim : Option UInt8 := some 10
  limit : Option Nat := none
  exact : Bool := false
  fd : Nat := 0
  names : List String := []

def readRequest : Nat → ReadRequest → List String → Except String ReadRequest
  | 0, r, _ => .ok r
  | _ + 1, r, [] => .ok r
  | fuel + 1, r, w :: rest =>
    match w.toList with
    | ['-', '-'] => .ok { r with names := rest }
    | '-' :: c :: more =>
      let takesValue := "adinNptu".contains c
      if !"ersadinNptu".contains c then .error ("-" ++ String.singleton c ++ ": invalid option")
      else if !takesValue then
        let r := if c == 'r' then { r with raw := true } else r
        if more.isEmpty then readRequest fuel r rest
        else readRequest fuel r (String.ofList ('-' :: more) :: rest)
      else
        let (value, rest) : Option String × List String :=
          if more.isEmpty then match rest with
            | v :: after => (some v, after)
            | [] => (none, [])
          else (some (String.ofList more), rest)
        match value with
        | none => .error ("-" ++ String.singleton c ++ ": option requires an argument")
        | some v =>
          let r := match c with
            | 'a' => { r with array := some v }
            | 'd' => { r with delim := some ((v.toUTF8.toList.headD 0)) }
            | 'n' => { r with limit := v.toNat?, exact := false }
            | 'N' => { r with limit := v.toNat?, exact := true, delim := none }
            | 'u' => { r with fd := v.toNat?.getD 0 }
            | _ => r
          readRequest fuel r rest
    | _ => .ok { r with names := w :: rest }

def readUsage : String :=
  "read: usage: read [-ers] [-a array] [-d delim] [-i text] [-n nchars] [-N nchars] [-p prompt] [-t timeout] [-u fd] [name ...]"

/-- `read`: reads a line from the standard input into variables. Without `-r` a backslash
quotes the next character and one before the newline continues the line. The status is 1
when the input ends before the delimiter. bash puts the whole line in `REPLY` when no name
is given, and knows the options for an array, another delimiter, a count of characters and
another descriptor. -/
def readBuiltin (args : List String) : Sh Nat := do
  let s ← get
  let request ← match s.flavor with
    | .dash =>
      let (raw, names) := match args with
        | "-r" :: rest => (true, rest)
        | rest => (false, rest)
      if names.isEmpty then
        warnIn "read" "arg count"
        return 2
      pure { raw, names : ReadRequest }
    | .bash =>
      match readRequest (args.length + 1) {} args with
      | .error message =>
        warnIn "read" message
        liftSys (Sys.say s.proc 2 (readUsage ++ "\n"))
        return 2
      | .ok r => pure r
  if s.flavor == .bash && request.fd != 0 && (s.proc.descOf request.fd).isNone then
    warnIn "read" (toString request.fd ++ ": invalid file descriptor: Bad file descriptor")
    return 1
  let (chars, complete) ← if request.delim == some 10 && request.limit.isNone then
      readLine request.fd request.raw 100000 []
    else do
      let (bytes, complete) ← readUntil request.fd request.raw request.delim request.limit 1000000 .empty 0 false
      pure ((Pipework.Text.decodeLossy bytes).toList, complete)
  let line := readChars request.raw chars
  let ifs := (← get).ifs.toList
  match request.array with
  | some name =>
    let fields := readAllFields ifs (line.length + 1) line
    modify fun s => s.setValue name (.indexed (fields.zipIdx.map fun (v, i) => (i, v)))
  | none =>
    if request.names.isEmpty then
      modify fun s => s.setVar "REPLY" (String.ofList (line.map (·.1)))
    else
      let values := readFields ifs line request.names.length
      for (n, i) in request.names.zipIdx do
        let _ ← assignText n none false (values[i]?.getD "")
  return (if complete then 0 else 1)

/-- What `mapfile` is asked for: the record delimiter, how many records to keep (zero for
all), the index of the first element, how many records to skip, whether the delimiter is
cut off, the descriptor read, and the array. -/
structure MapRequest where
  delim : UInt8 := 10
  count : Nat := 0
  origin : Option Nat := none
  skip : Nat := 0
  trim : Bool := false
  fd : Nat := 0
  array : String := "MAPFILE"

def mapfileUsage (name : String) : String :=
  name ++ ": usage: " ++ name ++ " [-d delim] [-n count] [-O origin] [-s count] [-t] [-u fd] [-C callback] [-c quantum] [array]"

def mapRequest : Nat → MapRequest → List String → Except String MapRequest
  | 0, r, _ => .ok r
  | _ + 1, r, [] => .ok r
  | fuel + 1, r, w :: rest =>
    match w.toList with
    | ['-', '-'] => .ok { r with array := rest.headD r.array }
    | '-' :: c :: more =>
      if c == 't' then
        let r := { r with trim := true }
        if more.isEmpty then mapRequest fuel r rest else mapRequest fuel r (String.ofList ('-' :: more) :: rest)
      else if "dnOsuCc".contains c then
        let (v, rest) := if more.isEmpty then (rest.head?, rest.drop 1) else (some (String.ofList more), rest)
        match v with
        | none => .error ("-" ++ String.singleton c ++ ": option requires an argument")
        | some v =>
          let number := v.toNat?
          match c with
          | 'd' => mapRequest fuel { r with delim := v.toUTF8.toList.headD 0 } rest
          | 'n' => match number with
            | some n => mapRequest fuel { r with count := n } rest
            | none => .error (v ++ ": invalid line count")
          | 'O' => match number with
            | some n => mapRequest fuel { r with origin := some n } rest
            | none => .error (v ++ ": invalid array origin")
          | 's' => match number with
            | some n => mapRequest fuel { r with skip := n } rest
            | none => .error (v ++ ": invalid line count")
          | 'u' => match number with
            | some n => mapRequest fuel { r with fd := n } rest
            | none => .error (v ++ ": invalid file descriptor specification")
          | _ => mapRequest fuel r rest
      else .error ("-" ++ String.singleton c ++ ": invalid option")
    | _ => .ok { r with array := w }

def splitRecords (delim : UInt8) (trim : Bool) (bytes : List UInt8) : List ByteArray :=
  let (done, current) := bytes.foldl (fun (acc : Array ByteArray × ByteArray) b =>
    if b == delim then (acc.1.push (if trim then acc.2 else acc.2.push b), .empty)
    else (acc.1, acc.2.push b)) (#[], .empty)
  (if current.isEmpty then done else done.push current).toList

/-- `mapfile` (also `readarray`): reads the records of the standard input, or of another
descriptor, into the elements of an indexed array, one record each. The array is emptied
first unless an origin is given. With a count, only that many records are read, so the
rest of the input stays for the next reader. -/
def mapfileBuiltin (name : String) (args : List String) : Sh Nat := do
  let s ← get
  match mapRequest (args.length + 1) {} args with
  | .error message =>
    warnIn name message
    liftSys (Sys.say s.proc 2 (mapfileUsage name ++ "\n"))
    return 2
  | .ok r =>
    if (s.proc.descOf r.fd).isNone then
      warnIn name (toString r.fd ++ ": invalid file descriptor: Bad file descriptor")
      return 1
    if (s.var? r.array).any (·.readonly) then
      warnIn name (r.array ++ ": readonly variable")
      return 1
    let wanted := if r.count == 0 then none else some (r.skip + r.count)
    let bytes ← match wanted with
      | some n =>
        if r.delim == 10 then
          match ← liftSys (Sys.readLines s.proc r.fd n) with
          | .ok b => pure b.toList
          | .error _ => pure []
        else do
          let mut acc : Array UInt8 := #[]
          let mut seen := 0
          for _ in List.range 1000000 do
            if seen ≥ n then break
            match ← liftSys (Sys.readBytes s.proc r.fd 1) with
            | .ok b =>
              match b.toList with
              | [x] =>
                acc := acc.push x
                if x == r.delim then seen := seen + 1
              | _ => break
            | .error _ => break
          pure acc.toList
      | none =>
        match ← liftSys (Sys.readRest s.proc r.fd) with
        | .ok feed => pure (feed.finite?.getD .empty).toList
        | .error _ => pure []
    let records := (splitRecords r.delim r.trim bytes).drop r.skip
    let records := if r.count == 0 then records else records.take r.count
    let texts := records.map Pipework.Text.decodeLossy
    let start := r.origin.getD 0
    let fresh := texts.zipIdx.map fun (v, i) => (start + i, v)
    let kept : List (Nat × String) := match r.origin, (s.var? r.array).bind (·.value) with
      | some _, some (.indexed es) => es.filter fun (i, _) => !fresh.any (·.1 == i)
      | some _, some (.text t) => if fresh.any (·.1 == 0) then [] else [(0, t)]
      | _, _ => []
    let elems := (kept ++ fresh).mergeSort fun a b => a.1 ≤ b.1
    modify fun st => st.setValue r.array (.indexed elems)
    return 0

/-! ### Directories -/

def logicalPath (cwd path : String) : String :=
  let start := if path.startsWith "/" then [] else (cwd.splitOn "/").filter (· != "")
  let parts := (path.splitOn "/").filter (· != "")
  let folded := parts.foldl (fun acc part =>
    if part == "." then acc else if part == ".." then acc.dropLast else acc ++ [part]) start
  "/" ++ "/".intercalate folded

def cdBuiltin (args : List String) : Sh Nat := do
  let args := args.filter fun a => a != "-L" && a != "-P"
  let s ← get
  let bash := s.flavor == .bash
  let args := if bash then dropDashes args else args
  if bash && args.length > 1 then
    warnIn "cd" "too many arguments"
    return 1
  let target ← match args with
    | [] =>
      match s.get? "HOME" with
      | some home => pure (some (home, false))
      | none =>
        if bash then
          warnIn "cd" "HOME not set"
          pure none
        else pure (some ("", false))
    | "-" :: _ =>
      match s.get? "OLDPWD" with
      | some old => pure (some (old, true))
      | none =>
        if bash then
          warnIn "cd" "OLDPWD not set"
          pure none
        else pure (some ("", true))
    | dir :: _ => pure (some (dir, false))
  match target with
  | none => return 1
  | some (target, announce) =>
  let current := (s.get? "PWD").getD s.proc.cwd
  let dest := logicalPath current target
  let t ← liftSys Sys.tree
  match t.lookup [] dest with
  | .ok (place, .dir) =>
    modify fun s =>
      let s := (s.setVar "OLDPWD" current true).setVar "PWD" dest true
      { s with proc := { s.proc with cwd := dest, here := place } }
    if announce then printTo 1 (dest ++ "\n")
    return 0
  | found =>
    if bash then
      let e := match found with
        | .ok _ => OsError.notDirectory
        | .error e => e
      warnIn "cd" (target ++ ": " ++ e.description)
      return 1
    else
      warnIn "cd" ("can't cd to " ++ target)
      return 2

def pwdBuiltin : Sh Nat := do
  let s ← get
  printTo 1 ((s.get? "PWD").getD s.proc.cwd ++ "\n")
  return 0

def maskText (mask : Nat) : String :=
  let digits := Nat.toDigits 8 mask
  String.ofList (List.replicate (4 - digits.length) '0' ++ digits)

def maskSymbolic (mask : Nat) : String :=
  let part (who : String) (shift : Nat) : String :=
    let allowed := 7 - (mask / Nat.pow 8 shift) % 8
    who ++ "=" ++ (if allowed / 4 % 2 == 1 then "r" else "") ++ (if allowed / 2 % 2 == 1 then "w" else "") ++
      (if allowed % 2 == 1 then "x" else "")
  part "u" 2 ++ "," ++ part "g" 1 ++ "," ++ part "o" 0

def umaskBuiltin (args : List String) : Sh Nat := do
  let s ← get
  let (symbolic, args) := match args with
    | "-S" :: rest => (true, rest)
    | rest => (false, rest)
  match args with
  | [] =>
    printTo 1 ((if symbolic then maskSymbolic s.umask else maskText s.umask) ++ "\n")
    return 0
  | text :: _ =>
    if !text.isEmpty && text.toList.all isOctalDigit then
      let (v, _) := octalRun text.length 0 text.toList
      modify fun s => { s with umask := v % 512 }
      return 0
    else
      match s.flavor with
      | .dash => warnIn "umask" ("Illegal mode: " ++ text); return 2
      | .bash => warnIn "umask" (text ++ ": octal number out of range"); return 1

/-! ### Options of builtins -/

def optionTakesValue (c : Char) : List Char → Option Bool
  | [] => none
  | x :: ':' :: rest => if x == c then some true else optionTakesValue c rest
  | x :: rest => if x == c then some false else optionTakesValue c rest

/-- The options of a builtin's words, read as the shell reads them, and where reading ended:
the words after the options, or the message that stopped it. -/
structure OptionRead where
  options : List (Char × Option String)
  rest : Except String (List String)

def optionLetters (spec : List Char) : List Char → List (Char × Option String) × Except String (Option Char)
  | [] => ([], .ok none)
  | c :: cs =>
    match optionTakesValue c spec with
    | none => ([], .error ("Illegal option -" ++ String.singleton c))
    | some false =>
      let (later, ending) := optionLetters spec cs
      ((c, none) :: later, ending)
    | some true => if cs.isEmpty then ([], .ok (some c)) else ([(c, some (String.ofList cs))], .ok none)

def readOptions (spec : List Char) : List String → OptionRead
  | [] => { options := [], rest := .ok [] }
  | word :: rest =>
    match word.toList with
    | ['-', '-'] => { options := [], rest := .ok rest }
    | '-' :: c :: cs =>
      let (found, ending) := optionLetters spec (c :: cs)
      match ending with
      | .error message => { options := found, rest := .error message }
      | .ok none =>
        let r := readOptions spec rest
        { r with options := found ++ r.options }
      | .ok (some l) =>
        match rest with
        | [] => { options := found, rest := .error ("No arg for -" ++ String.singleton l ++ " option") }
        | value :: more =>
          let r := readOptions spec more
          { r with options := found ++ (l, some value) :: r.options }
    | _ => { options := [], rest := .ok (word :: rest) }

end Pipework.Posix
