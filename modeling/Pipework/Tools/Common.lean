import Pipework.Host.World

/-! What every installed program shares: how it starts, reads its options and reports trouble. -/

namespace Pipework.Tools

open Pipework.Host

/-- Starting a program file as a child: the path of the file and the child process. The
result is the reason the file could not be executed, or how the child ended. -/
abbrev Launch := String → Proc → Sys (Except OsError Status)

/-- An installed program: given the way to start other programs and its own process, it
acts on the machine and gives its exit code. -/
abbrev Program := Launch → Proc → Sys Nat

/-- Whether an option takes an argument. -/
inductive ArgKind where
  | none
  | required
  | optional
  deriving Repr, DecidableEq, Inhabited

/-- A long option: its name, whether it takes an argument, and the key it reports. -/
structure LongOpt where
  name : String
  arg : ArgKind := .none
  key : String

/-- The options a program knows: the short letters with their argument kinds, and the long
options. -/
structure OptSpec where
  shorts : List (Char × ArgKind) := []
  longs : List LongOpt := []
  /-- Whether options end at the first operand. -/
  inOrder : Bool := false

/-- The options found, each with its key and argument, in order, and the operands; `asked`
names the standard option (`help` or `version`) that stopped the reading, if one did. -/
structure Parsed where
  opts : List (String × Option String) := []
  operands : List String := []
  asked : Option String := none

namespace Parsed

def has (p : Parsed) (key : String) : Bool :=
  p.opts.any (·.1 == key)

def last? (p : Parsed) (key : String) : Option String :=
  (p.opts.reverse.find? (·.1 == key)).bind (·.2)

end Parsed

def shortGroup (spec : OptSpec) (acc : Parsed) :
    List Char → List String → Except String (Parsed × List String)
  | [], rest => .ok (acc, rest)
  | c :: cs, rest =>
    match spec.shorts.find? (·.1 == c) with
    | none => .error ("invalid option -- '" ++ String.singleton c ++ "'")
    | some (_, .none) =>
      shortGroup spec { acc with opts := acc.opts ++ [(String.singleton c, none)] } cs rest
    | some (_, .optional) =>
      let value := if cs.isEmpty then none else some (String.ofList cs)
      .ok ({ acc with opts := acc.opts ++ [(String.singleton c, value)] }, rest)
    | some (_, .required) =>
      if cs.isEmpty then
        match rest with
        | [] => .error ("option requires an argument -- '" ++ String.singleton c ++ "'")
        | v :: more => .ok ({ acc with opts := acc.opts ++ [(String.singleton c, some v)] }, more)
      else .ok ({ acc with opts := acc.opts ++ [(String.singleton c, some (String.ofList cs))] }, rest)

def standardLongs : List LongOpt :=
  [⟨"help", .none, "help"⟩, ⟨"version", .none, "version"⟩]

def findLong (spec : OptSpec) (name : String) : Except String LongOpt :=
  let longs := spec.longs ++ standardLongs
  match longs.find? (·.name == name) with
  | some o => .ok o
  | none =>
    match longs.filter (·.name.startsWith name) with
    | [o] => .ok o
    | [] => .error "unrecognized"
    | many =>
      if (many.map (·.key)).eraseDups.length == 1 then .ok (many.headD ⟨"", .none, ""⟩)
      else .error ("option '--" ++ name ++ "' is ambiguous; possibilities:" ++
        String.join (many.map fun o => " '--" ++ o.name ++ "'"))

def longOption (spec : OptSpec) (acc : Parsed) (whole text : String) (rest : List String) :
    Except String (Parsed × List String) :=
  let (name, value) := match text.splitOn "=" with
    | [n] => (n, none)
    | n :: vs => (n, some ("=".intercalate vs))
    | [] => (text, none)
  match findLong spec name with
  | .error "unrecognized" => .error ("unrecognized option '" ++ whole ++ "'")
  | .error e => .error e
  | .ok o =>
    match o.arg, value with
    | .none, some _ => .error ("option '--" ++ o.name ++ "' doesn't allow an argument")
    | .none, none => .ok ({ acc with opts := acc.opts ++ [(o.key, none)] }, rest)
    | .optional, v => .ok ({ acc with opts := acc.opts ++ [(o.key, v)] }, rest)
    | .required, some v => .ok ({ acc with opts := acc.opts ++ [(o.key, some v)] }, rest)
    | .required, none =>
      match rest with
      | [] => .error ("option '--" ++ o.name ++ "' requires an argument")
      | v :: more => .ok ({ acc with opts := acc.opts ++ [(o.key, some v)] }, more)

def parseOptsFrom (spec : OptSpec) : Nat → Parsed → List String → Except String Parsed
  | 0, acc, _ => .ok acc
  | _ + 1, acc, [] => .ok acc
  | fuel + 1, acc, arg :: rest =>
    if arg == "--" then .ok { acc with operands := acc.operands ++ rest }
    else if arg.startsWith "--" then do
      let (acc', rest') ← longOption spec acc arg (arg.drop 2).toString rest
      match acc'.opts.getLast? with
      | some (key, _) =>
        if key == "help" || key == "version" then .ok { acc' with asked := some key }
        else parseOptsFrom spec fuel acc' rest'
      | none => parseOptsFrom spec fuel acc' rest'
    else if arg.startsWith "-" && arg != "-" then do
      let (acc', rest') ← shortGroup spec acc (arg.drop 1).toString.toList rest
      parseOptsFrom spec fuel acc' rest'
    else if spec.inOrder then .ok { acc with operands := acc.operands ++ arg :: rest }
    else parseOptsFrom spec fuel { acc with operands := acc.operands ++ [arg] } rest

def parseOpts (spec : OptSpec) (args : List String) : Except String Parsed :=
  parseOptsFrom spec (args.length + 1) {} args

def decimalValue (ds : List Char) : Nat :=
  ds.foldl (fun v c => v * 10 + (c.toNat - 48)) 0

def bytesText (bytes : List UInt8) : String :=
  String.ofList (bytes.map fun b => Char.ofNat b.toNat)

def isPrintableByte (b : UInt8) : Bool :=
  32 ≤ b && b < 127

def octal3 (b : UInt8) : String :=
  let n := b.toNat
  String.ofList [Char.ofNat (48 + n / 64), Char.ofNat (48 + n / 8 % 8), Char.ofNat (48 + n % 8)]

def controlLetter? (b : UInt8) : Option Char :=
  match b.toNat with
  | 7 => some 'a'
  | 8 => some 'b'
  | 9 => some 't'
  | 10 => some 'n'
  | 11 => some 'v'
  | 12 => some 'f'
  | 13 => some 'r'
  | _ => none

def byteEscape (b : UInt8) : String :=
  match controlLetter? b with
  | some c => "\\" ++ String.singleton c
  | none => "\\" ++ octal3 b

/-- Whether a byte obliges a text to be quoted for a shell: bytes that are not printable,
blanks, quotes and the characters shells treat specially; `{` and `}` when they are the whole
text, `#` and `~` when they start it, and `:` when `colon` asks for it too. -/
def forcesShellQuotes (colon single first : Bool) (b : UInt8) : Bool :=
  let c := Char.ofNat b.toNat
  !isPrintableByte b || "?\\ !\"$&()*;<=>[^`|'".contains c ||
    (single && (c == '{' || c == '}')) || (first && (c == '#' || c == '~')) || (colon && c == ':')

/-- Whether a byte may stand inside double quotes in place of single quotes: letters, digits,
blanks, single quotes and the marks that mean nothing to a shell, with `{`, `}`, `#` and `~`
only where they would oblige quoting. -/
def fitsDoubleQuotes (single first : Bool) (b : UInt8) : Bool :=
  let c := Char.ofNat b.toNat
  if c == '{' || c == '}' then single
  else if c == '#' || c == '~' then first
  else isPrintableByte b && !"?\\!\"$&()*;<=>[^`|".contains c

def dollarEscape (b : UInt8) : String :=
  if b == 0 then "\\0" else byteEscape b

/-- The inside of a single-quoted text: each byte as it is, a single quote as quote,
backslash, quote, quote, and each run of bytes that are not printable closed off into the
dollar-quote form. -/
def singleQuotedBody (bytes : List UInt8) : String :=
  let step (state : String × Bool) (b : UInt8) : String × Bool :=
    let (out, inEscape) := state
    if b == 39 then (out ++ "'\\''", false)
    else if isPrintableByte b then (out ++ (if inEscape then "''" else "") ++ String.singleton (Char.ofNat b.toNat), false)
    else (out ++ (if inEscape then "" else "'$'") ++ dollarEscape b, true)
  (bytes.foldl step ("", false)).1

def shellAlwaysQuoted (s : String) : String :=
  let bytes := s.toUTF8.toList
  let single := bytes.length == 1
  if bytes.contains 39 && (bytes.zipIdx.all fun (b, i) => fitsDoubleQuotes single (i == 0) b) then
    "\"" ++ s ++ "\""
  else "'" ++ singleQuotedBody bytes ++ "'"

def shellQuotedIfNeeded (colon : Bool) (s : String) : String :=
  let bytes := s.toUTF8.toList
  let single := bytes.length == 1
  if !bytes.isEmpty && !(bytes.zipIdx.any fun (b, i) => forcesShellQuotes colon single (i == 0) b) then s
  else shellAlwaysQuoted s

def quoteName (name : String) : String :=
  shellQuotedIfNeeded true name

def quoteFile (name : String) : String :=
  shellAlwaysQuoted name

def quoteArg (s : String) : String :=
  "'" ++ s ++ "'"

/-- A value quoted for a message as the tools quote one when no locale is set: in single
quotes, with a backslash before a quote or a backslash, and a C escape for every byte that is
not printable. -/
def localeQuote (s : String) : String :=
  let escape (b : UInt8) : String :=
    if b == 39 || b == 92 then "\\" ++ String.singleton (Char.ofNat b.toNat)
    else if isPrintableByte b then String.singleton (Char.ofNat b.toNat)
    else byteEscape b
  "'" ++ String.join (s.toUTF8.toList.map escape) ++ "'"

/-- Matches the argument of an option against the words it may be, as the GNU tools do: the
word itself, or the only word it begins, several words of one meaning counting as one. A
refusal names the valid words, words of one meaning on one line. -/
def argMatch {α : Type} [BEq α] (option arg : String) (choices : List (String × α)) :
    Except String α :=
  let valid := "Valid arguments are:" ++ String.join ((choices.zipIdx.map fun ((w, v), i) =>
    let same := match choices[i - 1]? with
      | some (_, u) => i > 0 && u == v
      | none => false
    (if same then ", " else "\n  - ") ++ localeQuote w))
  let refuse (how : String) : Except String α :=
    .error (how ++ " argument " ++ localeQuote arg ++ " for " ++ localeQuote option ++ "\n" ++ valid)
  match choices.find? (·.1 == arg) with
  | some (_, v) => .ok v
  | none =>
    match choices.filter (·.1.startsWith arg) with
    | [] => refuse "invalid"
    | (_, v) :: more =>
      if more.all (·.2 == v) then .ok v else refuse "ambiguous"

def complain (p : Proc) (message : String) : Sys Unit :=
  Sys.say p 2 (p.name ++ ": " ++ message ++ "\n")

def tryHelp (p : Proc) (code : Nat := 1) : Sys Nat := do
  Sys.say p 2 ("Try '" ++ p.name ++ " --help' for more information.\n")
  return code

def usageError (p : Proc) (message : String) (code : Nat := 1) : Sys Nat := do
  complain p message
  tryHelp p code

def emit (p : Proc) (bytes : ByteArray) : Sys Unit := do
  let _ ← Sys.write p 1 bytes

def emitText (p : Proc) (text : String) : Sys Unit :=
  emit p text.toUTF8

def finiteOrHang (f : Feed) : Sys ByteArray :=
  match f.finite? with
  | some bytes => pure bytes
  | none => throw (.signal killSignal)

def openInput (p : Proc) (name : String) : Sys (Except OsError Nat) :=
  if name == "-" then
    match p.descOf 0 with
    | some d => pure (.ok d)
    | none => pure (.error .badDescriptor)
  else Sys.openPath p name .read

def readInput (p : Proc) (name : String) : Sys (Except OsError Feed) := do
  if name == "-" then Sys.readRest p 0
  else
    match ← Sys.openPath p name .read with
    | .error e => return .error e
    | .ok d => Sys.readRestDesc d

def splitLines (data : ByteArray) : List ByteArray :=
  let rec go (fuel : Nat) (start : Nat) (acc : List ByteArray) : List ByteArray :=
    match fuel with
    | 0 => acc.reverse
    | fuel + 1 =>
      if start ≥ data.size then acc.reverse
      else
        match Feed.lineEndFrom data start with
        | some stop => go fuel stop (data.extract start stop :: acc)
        | none => (data.extract start data.size :: acc).reverse
  go (data.size + 1) 0 []

def chompLine (line : ByteArray) : ByteArray :=
  if line.size > 0 && line.get! (line.size - 1) == 10 then line.extract 0 (line.size - 1) else line

def concatBytes (parts : List ByteArray) : ByteArray :=
  parts.foldl (· ++ ·) .empty

def searchDirs (pathVar : String) : List String :=
  (pathVar.splitOn ":").map fun d => if d.isEmpty then "." else d

/-- Runs a program as the C library's searching exec does: a name with a slash is run as
it is; any other name is tried in each directory of the search path (or of the system
default path) until one can be executed. A file without a known format is run by the
system shell. `p` is the process that turns into the program. -/
def execSearch (launch : Launch) (p : Proc) (name : String) (argv : List String) :
    Sys (Except OsError Status) := do
  let attempt (path : String) : Sys (Except OsError Status) := do
    match ← launch path { p with argv := argv } with
    | .error .execFormat => launch "/bin/sh" { p with argv := "/bin/sh" :: path :: argv.drop 1 }
    | r => pure r
  if name.contains '/' then attempt name
  else
    let dirs := searchDirs ((p.getEnv "PATH").getD "/bin:/usr/bin")
    let rec go (denied : Bool) : List String → Sys (Except OsError Status)
      | [] => pure (.error (if denied then .permissionDenied else .noEntry))
      | dir :: more => do
        match ← attempt (joinPath dir name) with
        | .error .noEntry => go denied more
        | .error .notDirectory => go denied more
        | .error .permissionDenied => go true more
        | r => pure r
    go false dirs

def becomeStatus : Status → Sys Nat
  | .exited code => pure code
  | .killed signal => throw (.signal signal)

def decimal (n : Nat) : String :=
  toString n

def parseNat? (s : String) : Option Nat :=
  if !s.isEmpty && s.toList.all Char.isDigit then s.toNat? else none

end Pipework.Tools
