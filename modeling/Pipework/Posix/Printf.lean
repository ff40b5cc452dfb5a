import Pipework.Tools.Printf
import Pipework.Posix.Lex
import Pipework.Posix.Quote

/-! bash's `printf` builtin. -/

namespace Pipework.Posix

open Pipework.Tools

/-- Something bash's `printf` writes: output, or a message on the standard error. -/
inductive PrintfChunk where
  | out (bytes : ByteArray)
  | message (text : String)

/-- What `printf` has written so far, and whether an argument failed to convert. -/
structure PrintfOut where
  chunks : Array PrintfChunk := #[]
  failed : Bool := false

namespace PrintfOut

def emit (o : PrintfOut) (bytes : ByteArray) : PrintfOut :=
  { o with chunks := o.chunks.push (.out bytes) }

def note (o : PrintfOut) (text : String) : PrintfOut :=
  { o with chunks := o.chunks.push (.message text) }

end PrintfOut

/-- One escape after its backslash, in the format or (with `inArg`) in a `%b` argument:
the bytes, the rest, whether `\c` stopped all output, and a message. In an argument `\c`
stops and an octal escape may have a `0` before its three digits; in the format `\'`, `\"`
and `\?` lose their backslash. An escape that is not one writes the backslash, and the
character after it is read again. -/
def printfEscape (inArg : Bool) : List Char → ByteArray × List Char × Bool × Option String
  | 'a' :: r => (byteOf 7, r, false, none)
  | 'b' :: r => (byteOf 8, r, false, none)
  | 'e' :: r | 'E' :: r => (byteOf 27, r, false, none)
  | 'f' :: r => (byteOf 12, r, false, none)
  | 'n' :: r => (byteOf 10, r, false, none)
  | 'r' :: r => (byteOf 13, r, false, none)
  | 't' :: r => (byteOf 9, r, false, none)
  | 'v' :: r => (byteOf 11, r, false, none)
  | '\\' :: r => (byteOf 92, r, false, none)
  | 'x' :: r =>
    let (v, n, rest) := digitRun 16 2 r 0 0
    if n == 0 then (byteOf 92, 'x' :: r, false, some "missing hex digit for \\x")
    else (byteOf (v % 256), rest, false, none)
  | 'u' :: r => universal 'u' 4 r
  | 'U' :: r => universal 'U' 8 r
  | 'c' :: r => if inArg then (.empty, r, true, none) else (byteOf 92, 'c' :: r, false, none)
  | c :: r =>
    if c == '\'' || c == '"' || c == '?' then
      if inArg then (byteOf 92, c :: r, false, none) else (charBytes c, r, false, none)
    else if isOctalDigit c then
      let more := if inArg && c == '0' then 3 else 2
      let (v, _, rest) := digitRun 8 more r (c.toNat - 48) 0
      (byteOf (v % 256), rest, false, none)
    else (byteOf 92, c :: r, false, none)
  | [] => (byteOf 92, [], false, none)
where
  /-- A `\u` or `\U` escape: the character its digits name, as itself when it is ASCII and
  as the escape again otherwise, since the plain C locale cannot write it. -/
  universal (letter : Char) (width : Nat) (r : List Char) : ByteArray × List Char × Bool × Option String :=
    let (v, n, rest) := digitRun 16 width r 0 0
    if n == 0 then (byteOf 92, letter :: r, false, some ("missing unicode digit for \\" ++ String.singleton letter))
    else if v < 128 then (byteOf v, rest, false, none)
    else (unwritableChar v, rest, false, none)

def expandArg : Nat → List Char → ByteArray → List String → ByteArray × List String × Bool
  | 0, _, acc, notes => (acc, notes, false)
  | _ + 1, [], acc, notes => (acc, notes, false)
  | fuel + 1, '\\' :: cs, acc, notes =>
    if cs.isEmpty then (acc.push 92, notes, false)
    else
      let (bytes, rest, stop, note) := printfEscape true cs
      let notes := notes ++ note.toList
      if stop then (acc, notes, true) else expandArg fuel rest (acc ++ bytes) notes
  | fuel + 1, c :: cs, acc, notes => expandArg fuel cs (acc ++ charBytes c) notes

def invalidNumber (arg : String) : String :=
  match arg.toList with
  | '0' :: d :: _ => if d.isDigit then arg ++ ": invalid octal number"
    else if d == 'x' then arg ++ ": invalid hex number" else arg ++ ": invalid number"
  | _ => arg ++ ": invalid number"

def quotedCode (arg : String) : Option Nat :=
  match arg.toList with
  | q :: rest =>
    if q == '\'' || q == '"' then some ((String.ofList rest).toUTF8.toList.headD 0).toNat else none
  | [] => none

def intArg (o : PrintfOut) (arg : String) : Int × PrintfOut :=
  match quotedCode arg with
  | some code => (code, o)
  | none =>
    if arg.isEmpty then (0, o)
    else
      let (neg, v, any, rest) := readCInteger arg
      let limit := if neg then intMax + 1 else intMax
      let value : Int := if v > limit then (if neg then -(limit : Int) else limit)
        else if neg then -(v : Int) else v
      if !any || !rest.isEmpty then (value, { o.note (invalidNumber arg) with failed := true })
      else if v > limit then (value, o.note ("warning: " ++ arg ++ ": Numerical result out of range"))
      else (value, o)

def unsignedIntArg (o : PrintfOut) (arg : String) : Nat × PrintfOut :=
  match quotedCode arg with
  | some code => (code, o)
  | none =>
    if arg.isEmpty then (0, o)
    else
      let (neg, v, any, rest) := readCInteger arg
      let value := if v ≥ Nat.pow 2 64 then Nat.pow 2 64 - 1
        else if neg && v != 0 then Nat.pow 2 64 - v else v
      if !any || !rest.isEmpty then (value, { o.note (invalidNumber arg) with failed := true })
      else if v ≥ Nat.pow 2 64 then (value, o.note ("warning: " ++ arg ++ ": Numerical result out of range"))
      else (value, o)

def floatingArg (o : PrintfOut) (arg : String) : Bool × Magnitude × PrintfOut :=
  match quotedCode arg with
  | some code => (false, .finite code 1, o)
  | none =>
    if arg.isEmpty then (false, .finite 0 1, o)
    else
      let (_, _, any, rest) := readCFloat arg
      let (neg, value, how, _) := floatArg .program arg
      if !any || !rest.isEmpty then (neg, value, { o.note (invalidNumber arg) with failed := true })
      else if how == .outOfRange then (neg, value, o.note ("warning: " ++ arg ++ ": Numerical result out of range"))
      else (neg, value, o)

def starArg (o : PrintfOut) (arg : String) : Int × PrintfOut :=
  let (v, o) := intArg o arg
  if v > 2147483647 then (2147483647, o.note ("warning: " ++ arg ++ ": Numerical result out of range"))
  else if v < -2147483648 then (-2147483648, o.note ("warning: " ++ arg ++ ": Numerical result out of range"))
  else (v, o)

def takeArg : List String → String × List String
  | a :: rest => (a, rest)
  | [] => ("", [])

def printText (d : Directive) (bytes : ByteArray) : ByteArray :=
  let bytes := match d.precision with
    | some n => bytes.extract 0 n
    | none => bytes
  padField d bytes

/-- How a pass over the format ended: with the arguments left and how many it used, or by
stopping all output, or by an error with the status. -/
inductive PrintfEnd where
  | done (args : List String) (used : Nat)
  | stop
  | fail

/-- Reads the flags, width and precision of a directive after its `%`, taking `*` fields
from the arguments, and skips length letters. Gives the directive without its letter, the
rest of the format from the letter, the arguments left and how many were used. -/
def directiveOf (o : PrintfOut) (cs : List Char) (args : List String) :
    Directive × List Char × List String × Nat × PrintfOut :=
  let flags := cs.takeWhile ("#'-+ 0".toList.contains ·)
  let cs := cs.drop flags.length
  let (flags, width, cs, args, used, o) : List Char × Option Nat × List Char × List String × Nat × PrintfOut :=
    match cs with
    | '*' :: r =>
      let (a, more) := takeArg args
      let (w, o) := starArg o a
      (if w < 0 then flags ++ ['-'] else flags, some w.natAbs, r, more, if args.isEmpty then 0 else 1, o)
    | _ =>
      let ds := cs.takeWhile Char.isDigit
      (flags, if ds.isEmpty then none else some (String.ofList ds).toNat!, cs.drop ds.length, args, 0, o)
  let (precision, cs, args, used, o) : Option Nat × List Char × List String × Nat × PrintfOut :=
    match cs with
    | '.' :: '*' :: r =>
      let (a, more) := takeArg args
      let (p, o) := starArg o a
      (if p < 0 then none else some p.toNat, r, more, used + (if args.isEmpty then 0 else 1), o)
    | '.' :: r =>
      let (neg, r) := match r with
        | '-' :: r' => (true, r')
        | r' => (false, r')
      let ds := r.takeWhile Char.isDigit
      (if neg then none else some (if ds.isEmpty then 0 else (String.ofList ds).toNat!), r.drop ds.length, args, used, o)
    | _ => (none, cs, args, used, o)
  let cs := cs.dropWhile ("hjlLtz".toList.contains ·)
  ({ flags, width, precision, letter := ' ', text := "" }, cs, args, used, o)

def conversion (o : PrintfOut) (d : Directive) (letter : Char) (args : List String) :
    Option (List String × Nat × PrintfOut × Bool) :=
  let d := { d with letter }
  let (arg, rest) := takeArg args
  let used := if args.isEmpty then 0 else 1
  match letter with
  | 's' => some (rest, used, o.emit (printText d arg.toUTF8), false)
  | 'c' =>
    let b := arg.toUTF8
    some (rest, used, o.emit (padField d (if b.isEmpty then byteOf 0 else b.extract 0 1)), false)
  | 'b' =>
    let (bytes, notes, stop) := expandArg (arg.length + 1) arg.toList .empty []
    let o := notes.foldl PrintfOut.note o
    some (rest, used, o.emit (printText d bytes), stop)
  | 'q' =>
    some (rest, used, o.emit (padField d (backslashQuote arg).toUTF8), false)
  | 'Q' =>
    let cut := match d.precision with
      | some n => textOfBytes (arg.toUTF8.extract 0 n)
      | none => arg
    some (rest, used, o.emit (padField { d with precision := none } (backslashQuote cut).toUTF8), false)
  | 'd' | 'i' =>
    let (v, o) := intArg o arg
    some (rest, used, o.emit (formatSigned d v), false)
  | 'o' | 'u' | 'x' | 'X' =>
    let (v, o) := unsignedIntArg o arg
    some (rest, used, o.emit (formatUnsigned d v), false)
  | 'e' | 'E' | 'f' | 'F' | 'g' | 'G' | 'a' | 'A' =>
    let (neg, value, o) := floatingArg o arg
    some (rest, used, o.emit (formatFloat .program d neg value), false)
  | _ => none

def printfPass : Nat → List Char → List String → Nat → PrintfOut → PrintfEnd × PrintfOut
  | 0, _, args, used, o => (.done args used, o)
  | _ + 1, [], args, used, o => (.done args used, o)
  | fuel + 1, '\\' :: cs, args, used, o =>
    let (bytes, rest, _, note) := printfEscape false cs
    let o := match note with
      | some m => o.note m
      | none => o
    printfPass fuel rest args used (o.emit bytes)
  | fuel + 1, '%' :: '%' :: cs, args, used, o => printfPass fuel cs args used (o.emit (byteOf 37))
  | fuel + 1, '%' :: cs, args, used, o =>
    let (d, rest, args, starred, o) := directiveOf o cs args
    match rest with
    | [] =>
      (.fail, o.note ("`" ++ String.ofList ('%' :: cs) ++ "': missing format character"))
    | letter :: after =>
      match conversion o d letter args with
      | none => (.fail, o.note ("`" ++ String.singleton letter ++ "': invalid format character"))
      | some (args, taken, o, stop) =>
        if stop then (.stop, o) else printfPass fuel after args (used + starred + taken) o
  | fuel + 1, c :: cs, args, used, o => printfPass fuel cs args used (o.emit (charBytes c))

def printfRounds (format : List Char) : Nat → List String → PrintfOut → PrintfOut × Nat
  | 0, _, o => (o, if o.failed then 1 else 0)
  | rounds + 1, args, o =>
    match printfPass (format.length + 1) format args 0 o with
    | (.stop, o) => (o, 0)
    | (.fail, o) => (o, 1)
    | (.done rest used, o) =>
      if used > 0 && !rest.isEmpty then printfRounds format rounds rest o
      else (o, if o.failed then 1 else 0)

def printfUsage : String :=
  "printf: usage: printf [-v var] format [arguments]"

def printfRequest (args : List String) : Except String (Option String × Option (String × List String)) :=
  let rec go (fuel : Nat) (var : Option String) (args : List String) :
      Except String (Option String × Option (String × List String)) :=
    match fuel with
    | 0 => .ok (var, none)
    | fuel + 1 =>
      match args with
      | "--" :: rest =>
        match rest with
        | f :: more => .ok (var, some (f, more))
        | [] => .ok (var, none)
      | "-v" :: rest =>
        match rest with
        | v :: more => go fuel (some v) more
        | [] => .error "-v: option requires an argument"
      | w :: more =>
        match w.toList with
        | '-' :: 'v' :: name@(_ :: _) => go fuel (some (String.ofList name)) more
        | '-' :: c :: _ => .error ("-" ++ String.singleton c ++ ": invalid option")
        | _ => .ok (var, some (w, more))
      | [] => .ok (var, none)
  go (args.length + 1) none args

end Pipework.Posix
