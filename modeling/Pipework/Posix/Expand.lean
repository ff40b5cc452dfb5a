import Pipework.Posix.State
import Pipework.Posix.Arith
import Pipework.Posix.Pattern
import Pipework.Posix.Brace
import Pipework.Posix.Quote

/-! Word expansion, field splitting and file name generation. -/

namespace Pipework.Posix

open Pipework.Host Pipework.Tools

/-- A run of expanded text: whether it is quoted, which protects it from splitting and
from acting as a pattern, and whether it came from an expansion, which subjects it to
splitting when it is not quoted. `boundary` ends a field, as between the parameters of
`"$@"`. -/
inductive Bit where
  | text (s : String) (quoted : Bool) (split : Bool)
  | boundary
  deriving Inhabited

/-- The state of field splitting: the fields so far, the current one, whether it has
begun (a quoted empty text begins one), and whether white space just ended a field. -/
structure Splitter where
  fields : Array (List PatChar) := #[]
  current : Array PatChar := #[]
  started : Bool := false
  whiteEnded : Bool := false

namespace Splitter

def finish (sp : Splitter) : Splitter :=
  { fields := sp.fields.push sp.current.toList }

def addChars (sp : Splitter) (chars : List PatChar) : Splitter :=
  { sp with current := sp.current ++ chars.toArray, started := true, whiteEnded := false }

/-- Adds the text of an unquoted expansion: white space of `IFS` ends a field and is
otherwise dropped; any other character of `IFS` ends a field, an empty one too unless
white space has just ended one. -/
def addSplit (ifs : List Char) : Splitter → List Char → Splitter
  | sp, [] => sp
  | sp, c :: rest =>
    if ifs.contains c then
      if c == ' ' || c == '\t' || c == '\n' then
        addSplit ifs (if sp.started then { sp.finish with whiteEnded := true } else sp) rest
      else
        addSplit ifs (if sp.whiteEnded then { sp with whiteEnded := false } else sp.finish) rest
    else addSplit ifs (sp.addChars [(c, true)]) rest

def add (ifs : List Char) (sp : Splitter) : Bit → Splitter
  | .text s quoted split =>
    if split && !quoted && !ifs.isEmpty then addSplit ifs sp s.toList
    else sp.addChars (s.toList.map fun c => (c, !quoted))
  | .boundary => if sp.started then sp.finish else sp

end Splitter

def fieldsOf (ifs : String) (bits : List Bit) : List (List PatChar) :=
  let sp := bits.foldl (Splitter.add ifs.toList) {}
  (if sp.started then sp.finish else sp).fields.toList

def textOf (bits : List Bit) : String :=
  String.join (bits.map fun
    | .text s _ _ => s
    | .boundary => " ")

def patternOf (bits : List Bit) : List PatChar :=
  bits.flatMap fun
    | .text s quoted _ => s.toList.map fun c => (c, !quoted)
    | .boundary => [(' ', false)]

def accountHome? : String → Option String
  | "root" => some "/root" | "daemon" => some "/usr/sbin" | "bin" => some "/bin"
  | "sys" => some "/dev" | "sync" => some "/bin" | "games" => some "/usr/games"
  | "man" => some "/var/cache/man" | "lp" => some "/var/spool/lpd" | "mail" => some "/var/mail"
  | "news" => some "/var/spool/news" | "uucp" => some "/var/spool/uucp" | "proxy" => some "/bin"
  | "www-data" => some "/var/www" | "backup" => some "/var/backups" | "list" => some "/var/list"
  | "irc" => some "/run/ircd" | "_apt" => some "/nonexistent" | "nobody" => some "/nonexistent"
  | _ => none

def fnvHash (s : String) : UInt32 :=
  s.toUTF8.foldl (fun h b => (h * 16777619) ^^^ b.toUInt32) 2166136261

def assocOrder (es : List (String × String)) : List (String × String) :=
  es.mergeSort fun a b => (fnvHash a.1 % 1024) ≤ (fnvHash b.1 % 1024)

def Value.entries : Value → List (String × String)
  | .text s => [("0", s)]
  | .indexed es => es.map fun (i, v) => (toString i, v)
  | .assoc es => assocOrder es

def paramValue (s : Shell) (name : String) : Option String :=
  match name with
  | "?" => some (toString s.status)
  | "$" => some (toString s.rootPid)
  | "#" => some (toString s.params.length)
  | "0" => some s.arg0
  | "-" => some s.flags
  | "!" => s.lastBackground.map toString
  | "@" | "*" => some (" ".intercalate s.params)
  | "LINENO" => if s.flavor == .bash then some (toString s.line) else s.get? name
  | "BASHPID" => if s.flavor == .bash then some (toString s.proc.pid) else s.get? name
  | _ =>
    if !name.isEmpty && name.toList.all Char.isDigit then
      match name.toNat? with
      | some n => if n ≥ 1 then s.params[n - 1]? else none
      | none => none
    else s.get? name

/-- What a parameter expansion fetched: nothing, one text, or several (the positional
parameters or an array's elements); `joined` for `*`, whose elements are joined into one
text inside double quotes. -/
inductive Fetched where
  | none
  | one (text : String)
  | many (items : List String) (joined : Bool)
  deriving Inhabited

def Fetched.items : Fetched → List String
  | .none => []
  | .one t => [t]
  | .many items _ => items

def Fetched.map (f : String → String) : Fetched → Fetched
  | .none => .none
  | .one t => .one (f t)
  | .many items joined => .many (items.map f) joined

def byteLength (s : String) : Nat :=
  s.utf8ByteSize

def trimValue (value : String) (pattern : List PatChar) (suffix longest : Bool) : String :=
  let cs := value.toList
  let n := cs.length
  let cuts := List.range (n + 1)
  if suffix then
    let order := if longest then cuts else cuts.reverse
    match order.find? (fun i => patternMatches pattern (String.ofList (cs.drop i))) with
    | some i => String.ofList (cs.take i)
    | none => value
  else
    let order := if longest then cuts.reverse else cuts
    match order.find? (fun i => patternMatches pattern (String.ofList (cs.take i))) with
    | some i => String.ofList (cs.drop i)
    | none => value

def longestMatchAt (pattern : List PatChar) (cs : List Char) : Option Nat :=
  (List.range (cs.length + 1)).reverse.find? fun i => patternMatches pattern (String.ofList (cs.take i))

def replacementFor (replacement : List PatChar) (matched : String) : String :=
  String.join (replacement.map fun (c, active) => if active && c == '&' then matched else String.singleton c)

def replaceRun (pattern replacement : List PatChar) (every : Bool) : Nat → List Char → Bool → String → String
  | 0, rest, _, acc => acc ++ String.ofList rest
  | _ + 1, [], _, acc => acc
  | fuel + 1, c :: rest, more, acc =>
    if !more then acc ++ String.ofList (c :: rest)
    else match longestMatchAt pattern (c :: rest) with
      | some n =>
        if n == 0 then replaceRun pattern replacement every fuel rest more (acc.push c)
        else
          let matched := String.ofList ((c :: rest).take n)
          replaceRun pattern replacement every fuel ((c :: rest).drop n) every (acc ++ replacementFor replacement matched)
      | none => replaceRun pattern replacement every fuel rest more (acc.push c)

/-- Replaces matches of a pattern in a value: the first (leftmost, longest) match, every
match, or one at the front or the back. An empty pattern matches nothing, except at the
front or the back, where the replacement is put in. -/
def replaceValue (value : String) (pattern : List PatChar) (replacement : List PatChar)
    (mode : ReplaceMode) : String :=
  let cs := value.toList
  match mode with
  | .front =>
    match longestMatchAt pattern cs with
    | some n => replacementFor replacement (String.ofList (cs.take n)) ++ String.ofList (cs.drop n)
    | none => value
  | .back =>
    match (List.range (cs.length + 1)).find? (fun i => patternMatches pattern (String.ofList (cs.drop i))) with
    | some i => String.ofList (cs.take i) ++ replacementFor replacement (String.ofList (cs.drop i))
    | none => value
  | .first | .every =>
    if pattern.isEmpty then value
    else replaceRun pattern replacement (mode == .every) (cs.length + 1) cs true ""

def caseMapValue (value : String) (pattern : List PatChar) (upper all : Bool) : String :=
  let pat := if pattern.isEmpty then [('?', true)] else pattern
  let change (c : Char) : Char :=
    if patternMatches pat (String.singleton c) then (if upper then c.toUpper else c.toLower) else c
  match value.toList with
  | [] => value
  | c :: rest => if all then String.ofList ((c :: rest).map change) else String.ofList (change c :: rest)

def dropTrailingNewlines (text : String) : String :=
  String.ofList (text.toList.reverse.dropWhile (· == '\n')).reverse

def Shell.arithEnv (s : Shell) : ArithEnv where
  bash := s.flavor == .bash
  scalar := fun n => paramValue s n
  element := fun n i =>
    match (s.var? n).bind (·.value) with
    | some (.indexed es) =>
      let top := (es.map (·.1)).foldl max 0
      let idx : Int := if i < 0 then (top : Int) + 1 + i.toInt else i.toInt
      if idx < 0 then none else es.lookup idx.toNat
    | some (.assoc es) => es.lookup (toString i.toInt)
    | some (.text t) => if i == 0 then some t else none
    | none => none

def Shell.setElement (s : Shell) (name : String) (index : Nat) (value : String) : Shell :=
  let old := (s.var? name).bind (·.value)
  let es := match old with
    | some (.indexed es) => es
    | some (.text t) => [(0, t)]
    | _ => []
  match old with
  | some (.assoc kv) => s.setValue name (.assoc ((toString index, value) :: kv.filter (·.1 != toString index)))
  | _ =>
    s.setValue name (.indexed (((index, value) :: es.filter (·.1 != index)).mergeSort fun a b => a.1 ≤ b.1))

def applyArithWrites (writes : List ArithWrite) : Sh Unit :=
  for (name, index, v) in writes do
    match index with
    | none => modify fun s => s.setVar name (toString v.toInt)
    | some i => modify fun s => s.setElement name i.toInt.toNat (toString v.toInt)

def arithValue (text : String) : Sh (Except ArithError Int64) := do
  let s ← get
  let (result, writes) := evalArith s.arithEnv text
  applyArithWrites writes
  return result

/-- Evaluates the arithmetic of an expansion. An error ends the Almquist shell with its
message; the machine's trap on an overflowing division kills it. bash reports the error
and gives up the command. -/
def expansionArith (text : String) : Sh Int64 := do
  match ← arithValue text with
  | .ok v => return v
  | .error e =>
    let s ← get
    match e.fault with
    | .overflowTrap => liftSys (throw (Halt.signal 8))
    | _ =>
      if s.flavor == .bash then
        warn (e.message true)
        throw Abort.discard
      else fatal (e.message false)

def Shell.parameterErrorCode (s : Shell) : Nat :=
  if s.flavor == .bash then 1 else 2

def targetName : Param → String
  | .named n => n
  | .element n _ => n
  | .every n _ => n
  | .indirect inner => targetName inner
  | .prefixed n _ => n
  | .keys n _ => n

def unsetError {α : Type} (name : String) : Sh α := do
  let s ← get
  match s.flavor with
  | .dash => fatal (name ++ ": parameter not set")
  | .bash => fatal (name ++ ": unbound variable") 1

def sliceError {α : Type} (name : String) (count : Option Int64) : Sh α := do
  warn (name ++ ": " ++ toString ((count.getD 0).toInt) ++ ": substring expression < 0")
  throw Abort.discard

/-- A stretch of a list: from `offset` (counted from the end when negative) on, `count`
items or, when negative, up to that many from the end. None when that end comes before
the start. -/
def sliceList {α : Type} (items : List α) (offset : Int64) (count : Option Int64) : Option (List α) :=
  let n : Int := items.length
  let start : Int := if offset.toInt < 0 then n + offset.toInt else offset.toInt
  if start < 0 || start > n then some []
  else
    let rest := items.drop start.toNat
    match count with
    | none => some rest
    | some c =>
      if c.toInt ≥ 0 then some (rest.take c.toInt.toNat)
      else
        let stop := n + c.toInt
        if stop < start then none else some (rest.take (stop - start).toNat)

def bitsOf (s : Shell) (q : Bool) : Fetched → List Bit
  | .none => []
  | .one t => [.text t q (!q)]
  | .many items joined =>
    if q && joined then
      let sep := match s.ifs.toList with
        | c :: _ => String.singleton c
        | [] => ""
      [.text (sep.intercalate items) true false]
    else (items.map fun p => Bit.text p q (!q)).intersperse .boundary

def expandFuel : Nat := 100000

mutual

/-- Expands the pieces of a word. `quotedContext` is set inside a quoted `${...}`; `nested`
for the words inside `${...}`, whose unquoted text is split like an expansion's.
`assignment` when the word is the value of an assignment, where tildes after `=` and `:`
are expanded. -/
def expandPieces (run : String → Sh String) : Nat → Bool → Bool → Bool → List Piece → Sh (List Bit)
  | 0, _, _, _, _ => pure []
  | _ + 1, _, _, _, [] => pure []
  | fuel + 1, quotedContext, nested, assignment, piece :: rest => do
    let here ← expandPiece run fuel quotedContext nested assignment piece
    let more ← expandPieces run fuel quotedContext nested assignment rest
    return here ++ more

def expandPiece (run : String → Sh String) : Nat → Bool → Bool → Bool → Piece → Sh (List Bit)
  | 0, _, _, _, _ => pure []
  | fuel + 1, quotedContext, nested, assignment, piece =>
  match piece with
  | .lit text => pure [.text text quotedContext (nested && !quotedContext)]
  | .quoted text => pure [.text text true false]
  | .list items => pure [.text ("(" ++ " ".intercalate (items.map fun _ => "") ++ ")") true false]
  | .tilde user leading => do
    let s ← get
    if !leading && !assignment && s.flavor == .dash then
      return [.text ("~" ++ user) true false]
    let home : Option String :=
      if user.isEmpty then
        match s.get? "HOME" with
        | some h => if h.isEmpty && s.flavor == .dash then none else some h
        | none => if s.flavor == .bash then some "/root" else none
      else if user == "+" && s.flavor == .bash then s.get? "PWD"
      else if user == "-" && s.flavor == .bash then s.get? "OLDPWD"
      else accountHome? user
    match home with
    | some h => return [.text h true false]
    | none => return [.text ("~" ++ user) true false]
  | .command script inQuotes => do
    let out ← run script
    let q := inQuotes || quotedContext
    return [.text (dropTrailingNewlines out) q (!q)]
  | .arith expr _ => do
    let bits ← expandPieces run fuel true false false expr
    let value ← expansionArith (textOf bits)
    return [.text (toString value.toInt) true false]
  | .param target op inQuotes => do
    let q := inQuotes || quotedContext
    let fetched ← fetchParam run fuel target
    applyOp run fuel q target fetched op

def fetchParam (run : String → Sh String) : Nat → Param → Sh Fetched
  | 0, _ => pure .none
  | fuel + 1, target => do
    let s ← get
    match target with
    | .named "@" => return .many s.params false
    | .named "*" => return .many s.params true
    | .named name =>
      match paramValue s name with
      | some v => return .one v
      | none => return .none
    | .every name joined =>
      match (s.var? name).bind (·.value) with
      | some v => return .many ((v.entries).map (·.2)) joined
      | none =>
        if name == "@" || name == "*" then return .many s.params joined
        else return .many [] joined
    | .element name index =>
      let key := textOf (← expandPieces run fuel true false false index)
      match (s.var? name).bind (·.value) with
      | some (.assoc es) =>
        match es.lookup key with
        | some v => return .one v
        | none => return .none
      | _ =>
        let i ← expansionArith key
        match s.arithEnv.element name i with
        | some v => return .one v
        | none =>
          if i == 0 then
            match paramValue s name with
            | some v => return .one v
            | none => return .none
          else return .none
    | .indirect inner =>
      let named ← fetchParam run fuel inner
      match named with
      | .one ref =>
        let chars := ref.toList
        let base := chars.takeWhile (· != '[')
        if chars.length > base.length && chars.getLast? == some ']' then
          let inside := (chars.drop (base.length + 1)).dropLast
          let baseName := String.ofList base
          if inside == ['@'] then fetchParam run fuel (.every baseName false)
          else if inside == ['*'] then fetchParam run fuel (.every baseName true)
          else fetchParam run fuel (.element baseName [.lit (String.ofList inside)])
        else fetchParam run fuel (.named ref)
      | _ => return .none
    | .prefixed start joined =>
      let names := (s.vars.filter fun (n, v) => n.startsWith start && v.value.isSome).map (·.1)
      let sorted := names.mergeSort fun a b => compare a.toUTF8.toList b.toUTF8.toList != .gt
      return .many sorted joined
    | .keys name joined =>
      match (s.var? name).bind (·.value) with
      | some v => return .many ((v.entries).map (·.1)) joined
      | none => return .many [] joined

def applyOp (run : String → Sh String) : Nat → Bool → Param → Fetched → ParamOp → Sh (List Bit)
  | 0, _, _, _, _ => pure []
  | fuel + 1, q, target, fetched, op =>
  match op with
  | .plain => do
    let s ← get
    match fetched, target with
    | .none, .named name =>
      if s.isOn "nounset" && name != "@" && name != "*" then unsetError name
      else return []
    | .none, .element name _ =>
      if s.isOn "nounset" then unsetError name else return []
    | _, _ => return bitsOf s q fetched
  | .length => do
    let s ← get
    match fetched with
    | .many items _ => return [.text (toString items.length) true false]
    | .one t => return [.text (toString (byteLength t)) true false]
    | .none =>
      match target with
      | .named name => if s.isOn "nounset" && name != "@" && name != "*" then unsetError name else pure ()
      | _ => pure ()
      return [.text "0" true false]
  | .fallback kind colon word => do
    let s ← get
    let missing := match fetched with
      | .none => true
      | .one t => colon && t.isEmpty
      | .many items _ => items.isEmpty || (colon && String.join items == "")
    let name := targetName target
    match kind with
    | '-' => if missing then expandPieces run fuel q true false word else return bitsOf s q fetched
    | '+' => if missing then return [] else expandPieces run fuel q true false word
    | '=' =>
      if missing then
        let text := textOf (← expandPieces run fuel true false false word)
        modify fun s => s.setVar name text
        return [.text text q (!q)]
      else return bitsOf s q fetched
    | _ =>
      if missing then
        let text := textOf (← expandPieces run fuel true false false word)
        let message := if !text.isEmpty then text
          else match s.flavor, colon with
            | .dash, true => "parameter not set or null"
            | .bash, true => "parameter null or not set"
            | _, false => "parameter not set"
        fatal (name ++ ": " ++ message) s.parameterErrorCode
      else return bitsOf s q fetched
  | .trim suffix longest pattern => do
    let pat := patternOf (← expandPieces run fuel false false false pattern)
    let s ← get
    return bitsOf s q (fetched.map fun v => trimValue v pat suffix longest)
  | .replace mode pattern replacement => do
    let pat := patternOf (← expandPieces run fuel false false false pattern)
    let rep := patternOf (← expandPieces run fuel false false false replacement)
    let s ← get
    return bitsOf s q (fetched.map fun v => replaceValue v pat rep mode)
  | .caseMap upper all pattern => do
    let pat := patternOf (← expandPieces run fuel false false false pattern)
    let s ← get
    return bitsOf s q (fetched.map fun v => caseMapValue v pat upper all)
  | .transform letter => do
    let s ← get
    let f : String → String := match letter with
      | 'Q' => reusableQuote
      | 'U' => String.map Char.toUpper
      | 'L' => String.map Char.toLower
      | 'u' => fun v => match v.toList with
        | c :: cs => String.ofList (c.toUpper :: cs)
        | [] => v
      | _ => id
    return bitsOf s q (fetched.map f)
  | .slice offsetWord countWord => do
    let offset ← expansionArith (textOf (← expandPieces run fuel true false false offsetWord))
    let count ← match countWord with
      | some w => do pure (some (← expansionArith (textOf (← expandPieces run fuel true false false w))))
      | none => pure none
    let s ← get
    let name := targetName target
    let positional := match target with
      | .named "@" | .named "*" => true
      | _ => false
    match fetched with
    | .none => return []
    | .one t =>
      match sliceList t.toList offset count with
      | some cs => return bitsOf s q (.one (String.ofList cs))
      | none => sliceError name count
    | .many items joined =>
      let items := if positional then s.arg0 :: items else items
      let offset := if positional && offset < 0 then offset else offset
      match sliceList items offset count with
      | some chosen => return bitsOf s q (.many chosen joined)
      | none => sliceError name count
  | .invalid text => do
    warn (text ++ ": bad substitution")
    throw Abort.discard

end

/-- The fields of words, with braces expanded first in bash, and file names generated from
unquoted patterns unless that is turned off; a pattern that matches nothing stays as it
is. -/
def expandFields (run : String → Sh String) (words : List Word) : Sh (List String) := do
  let s0 ← get
  let words := if s0.flavor == .bash && !s0.isOn "noglob" || s0.flavor == .bash then
      words.flatMap expandBraces
    else words
  let mut out : Array String := #[]
  for w in words do
    let bits ← expandPieces run expandFuel false false false w
    let s ← get
    for f in fieldsOf s.ifs bits do
      let text := String.ofList (f.map (·.1))
      if !s.isOn "noglob" && hasPatternChars f then
        let t ← liftSys Sys.tree
        match glob t s.proc.here f with
        | [] =>
          if s.shopts.contains "nullglob" then pure () else out := out.push text
        | found => out := out ++ found.toArray
      else out := out.push text
  return out.toList

def expandText (run : String → Sh String) (w : Word) : Sh String := do
  return textOf (← expandPieces run expandFuel false false false w)

def expandValue (run : String → Sh String) (w : Word) : Sh String := do
  return textOf (← expandPieces run expandFuel false false true w)

def expandPattern (run : String → Sh String) (w : Word) : Sh (List PatChar) := do
  return patternOf (← expandPieces run expandFuel false false false w)

def readonlyMessage (flavor : Flavor) (name : String) : String :=
  match flavor with
  | .dash => name ++ ": is read only"
  | .bash => name ++ ": readonly variable"

/-- A text given to a variable with attributes: evaluated as arithmetic for an integer
variable (added to the old value when appending), with its letters' case changed when the
variable asks for it. -/
def attributedValue (v : Option Var) (old : Option String) (append : Bool) (text : String) : Sh String := do
  let text ← match v with
    | some var =>
      if var.integer then
        let expr := if append then "(" ++ (old.getD "0") ++ ")+(" ++ text ++ ")" else text
        let n ← expansionArith expr
        pure (toString n.toInt)
      else pure (if append then old.getD "" ++ text else text)
    | none => pure (if append then old.getD "" ++ text else text)
  return match v.bind (·.letterCase) with
    | some true => text.map Char.toUpper
    | some false => text.map Char.toLower
    | none => text

/-- Assigns a text to a variable, or to an element of an array, as an assignment does.
A read-only variable is refused with the shell's message; the result tells whether the
assignment was made. -/
def assignText (name : String) (index : Option String) (append : Bool) (text : String) : Sh Bool := do
  let s ← get
  let v := s.var? name
  if v.map (·.readonly) == some true then
    warn (readonlyMessage s.flavor name)
    return false
  match index with
  | none =>
    let value ← attributedValue v (v.bind Var.text?) append text
    modify fun s => s.setVar name value
  | some key =>
    match v.bind (·.value) with
    | some (.assoc es) =>
      let value ← attributedValue v (es.lookup key) append text
      modify fun s => s.setValue name (.assoc ((key, value) :: es.filter (·.1 != key)))
    | _ =>
      let i ← expansionArith key
      let env := (← get).arithEnv
      let value ← attributedValue v (env.element name i) append text
      let top := match v.bind (·.value) with
        | some (.indexed es) => (es.map (·.1)).foldl max 0
        | _ => 0
      let idx : Int := if i.toInt < 0 then (top : Int) + 1 + i.toInt else i.toInt
      if idx < 0 then
        warn (name ++ "[" ++ key ++ "]: bad array subscript")
        return false
      modify fun s => s.setElement name idx.toNat value
  return true

def assignList (run : String → Sh String) (name : String) (append : Bool) (items : List Word) : Sh Bool := do
  let s ← get
  let v := s.var? name
  if v.map (·.readonly) == some true then
    warn (readonlyMessage s.flavor name)
    return false
  let isAssoc := match v.bind (·.value) with
    | some (.assoc _) => true
    | _ => false
  let start : List (Nat × String) := match append, v.bind (·.value) with
    | true, some (.indexed es) => es
    | true, some (.text t) => [(0, t)]
    | _, _ => []
  let startAssoc : List (String × String) := match append, v.bind (·.value) with
    | true, some (.assoc es) => es
    | _, _ => []
  let mut next := (start.map (·.1 + 1)).foldl max 0
  let mut elems := start
  let mut pairs := startAssoc
  for w in items do
    let keyed : Option (Word × Word) := match wordItems w with
      | .char '[' :: rest =>
        match rest.findIdx? (fun | .char ']' => true | _ => false) with
        | some j =>
          match rest.drop (j + 1) with
          | .char '=' :: value => some (itemsWord (rest.take j), itemsWord value)
          | _ => none
        | none => none
      | _ => none
    match keyed with
    | some (keyWord, valueWord) =>
      let key ← expandText run keyWord
      let value ← expandValue run valueWord
      if isAssoc then pairs := (key, value) :: pairs.filter (·.1 != key)
      else
        let i ← expansionArith key
        let idx := i.toInt.toNat
        elems := (idx, value) :: elems.filter (·.1 != idx)
        next := idx + 1
    | none =>
      if isAssoc then
        let value ← expandValue run w
        pairs := (value, "") :: pairs.filter (·.1 != value)
      else
        for value in ← expandFields run [w] do
          elems := (next, value) :: elems.filter (·.1 != next)
          next := next + 1
  if isAssoc then modify fun s => s.setValue name (.assoc pairs)
  else modify fun s => s.setValue name (.indexed (elems.mergeSort fun a b => a.1 ≤ b.1))
  return true

end Pipework.Posix
