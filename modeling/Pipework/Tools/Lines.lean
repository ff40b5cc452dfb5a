import Pipework.Tools.Text

/-! The programs that rearrange the records of a text: `uniq`, `tac` and `rev`. -/

namespace Pipework.Tools

open Pipework.Host

/-- How `uniq` marks off groups with empty lines when it prints every line of them. -/
inductive GroupMark where
  | none
  | prepend
  | append
  | separate
  | both
  deriving Repr, DecidableEq, BEq, Inhabited

/-- What `uniq` compares and prints: the key (fields and bytes to skip, bytes to compare,
case), which lines of each group to print (those of groups of one, the first of larger
groups, the later ones), counts, and the marks between groups. -/
structure UniqSettings where
  skipFields : Nat := 0
  skipChars : Nat := 0
  checkChars : Option Nat := none
  ignoreCase : Bool := false
  count : Bool := false
  unique : Bool := true
  firstRepeated : Bool := true
  laterRepeated : Bool := false
  delimit : GroupMark := .none
  grouping : GroupMark := .none
  terminator : UInt8 := 10
  /-- Whether the last option that set the skipped fields was a lone digit run. -/
  digitFields : Bool := false

def isFieldBlank (b : UInt8) : Bool :=
  b == 32 || b == 9 || b == 10

def UniqSettings.key (u : UniqSettings) (line : ByteArray) : List UInt8 :=
  let bytes := line.toList
  let skipField (bs : List UInt8) : List UInt8 :=
    (bs.dropWhile isFieldBlank).dropWhile (fun b => !isFieldBlank b)
  let rest := (List.range u.skipFields).foldl (fun bs _ => skipField bs) bytes
  let rest := rest.drop u.skipChars
  let rest := match u.checkChars with
    | some n => rest.take n
    | none => rest
  if u.ignoreCase then rest.map fun b => if 97 ≤ b && b ≤ 122 then b - 32 else b else rest

def countPrefix (n : Nat) : String :=
  let s := toString n
  String.ofList (List.replicate (7 - min 7 s.length) ' ') ++ s ++ " "

def uniqPlain (u : UniqSettings) (lines : List ByteArray) : ByteArray :=
  let mark := byteOf u.terminator.toNat
  let step (state : Option (List UInt8) × Bool × ByteArray) (line : ByteArray) :=
    let (previous, printed, out) := state
    let key := u.key line
    let newGroup := match previous with
      | some k => k != key
      | none => true
    let g := u.grouping
    let out := if newGroup && g != .none &&
        (g == .prepend || g == .both || (printed && (g == .append || g == .separate)))
      then out ++ mark else out
    if newGroup || g != .none then (some key, true, out ++ line ++ mark)
    else (previous, printed, out)
  let (_, printed, out) := lines.foldl step (none, false, .empty)
  if (u.grouping == .both || u.grouping == .append) && printed then out ++ mark else out

/-- One line of `uniq`'s general form, if the settings print it: a line ending a group of one
is printed for `unique`, the first of a larger group for `firstRepeated`, a later one for
`laterRepeated`; `count` is the number of lines after it so far in its group. -/
def UniqSettings.line (u : UniqSettings) (line : ByteArray) (matched : Bool) (count : Nat) :
    ByteArray :=
  let shown := if count == 0 then u.unique else if !matched then u.firstRepeated else u.laterRepeated
  if !shown then .empty
  else (if u.count then (countPrefix (count + 1)).toUTF8 else .empty) ++ line ++ byteOf u.terminator.toNat

def uniqGeneral (u : UniqSettings) : List ByteArray → ByteArray
  | [] => .empty
  | first :: rest =>
    let mark := byteOf u.terminator.toNat
    let step (state : ByteArray × Nat × Bool × ByteArray) (this : ByteArray) :=
      let (previous, count, firstMark, out) := state
      let matched := u.key this == u.key previous
      let count := if matched then count + 1 else count
      let (firstMark, out) :=
        if u.delimit == .none then (firstMark, out)
        else if !matched then (if count > 0 then false else firstMark, out)
        else if count == 1 && (u.delimit == .prepend || (u.delimit == .separate && !firstMark)) then
          (firstMark, out ++ mark)
        else (firstMark, out)
      if !matched || u.laterRepeated then
        (this, (if matched then count else 0), firstMark, out ++ u.line previous matched count)
      else (previous, count, firstMark, out)
    let (last, count, _, out) := rest.foldl step (first, 0, true, .empty)
    out ++ u.line last false count

def uniqCount (arg what : String) : Except String Nat :=
  match parseNat? arg with
  | some n => .ok n
  | none => .error (arg ++ ": " ++ what)

/-- Why `uniq` stops before reading: a fault in an option's value, reported alone, or a
misuse, reported with the pointer to the help. -/
inductive UniqFault where
  | value (message : String)
  | misuse (message : String)

def UniqSettings.apply (u : UniqSettings) : String × Option String → Except UniqFault UniqSettings
  | ("c", _) => .ok { u with count := true }
  | ("d", _) => .ok { u with unique := false }
  | ("u", _) => .ok { u with firstRepeated := false }
  | ("D", _) => .ok { u with unique := false, laterRepeated := true }
  | ("all-repeated", v) =>
    match v with
    | none => .ok { u with unique := false, laterRepeated := true }
    | some arg =>
      match argMatch "--all-repeated" arg [("none", GroupMark.none), ("prepend", .prepend), ("separate", .separate)] with
      | .ok m => .ok { u with unique := false, laterRepeated := true, delimit := m }
      | .error e => .error (.misuse e)
  | ("group", v) =>
    match v with
    | none => .ok { u with grouping := .separate }
    | some arg =>
      match argMatch "--group" arg [("prepend", GroupMark.prepend), ("append", .append), ("separate", .separate), ("both", .both)] with
      | .ok m => .ok { u with grouping := m }
      | .error e => .error (.misuse e)
  | ("i", _) => .ok { u with ignoreCase := true }
  | ("z", _) => .ok { u with terminator := 0 }
  | ("f", v) =>
    match uniqCount (v.getD "") "invalid number of fields to skip" with
    | .ok n => .ok { u with skipFields := n, digitFields := false }
    | .error e => .error (.value e)
  | ("s", v) =>
    match uniqCount (v.getD "") "invalid number of bytes to skip" with
    | .ok n => .ok { u with skipChars := n }
    | .error e => .error (.value e)
  | ("w", v) =>
    match uniqCount (v.getD "") "invalid number of bytes to compare" with
    | .ok n => .ok { u with checkChars := some n }
    | .error e => .error (.value e)
  | (key, _) =>
    match key.toList with
    | [d] =>
      if d.isDigit then
        let base := if u.digitFields then u.skipFields else 0
        .ok { u with skipFields := base * 10 + (d.toNat - 48), digitFields := true }
      else .ok u
    | _ => .ok u

def uniqSettings (opts : List (String × Option String)) : Except UniqFault UniqSettings :=
  opts.foldlM (fun u o => u.apply o) {}

def uniqOperands (u : UniqSettings) : List String → List String → Except UniqFault (UniqSettings × List String)
  | [], files => .ok (u, files)
  | arg :: more, files =>
    let plusCount := match arg.toList with
      | '+' :: ds => if !ds.isEmpty && ds.all Char.isDigit then some (decimalValue ds) else none
      | _ => none
    match plusCount with
    | some n => uniqOperands { u with skipChars := n } more files
    | none =>
      if files.length == 2 then .error (.misuse ("extra operand " ++ localeQuote arg))
      else uniqOperands u more (files ++ [arg])

def splitRecords (term : UInt8) (data : ByteArray) : List ByteArray :=
  let bytes := data.toList
  let rec go (fuel : Nat) (rest : List UInt8) (acc : List ByteArray) : List ByteArray :=
    match fuel with
    | 0 => acc.reverse
    | fuel + 1 =>
      if rest.isEmpty then acc.reverse
      else
        let record := rest.takeWhile (· != term)
        go fuel (rest.drop (record.length + 1)) (ByteArray.mk record.toArray :: acc)
  go (bytes.length + 1) bytes []

def uniqProgram : Program := fun _ p => do
  let spec : OptSpec := {
    shorts := [('c', .none), ('d', .none), ('D', .none), ('u', .none), ('i', .none), ('z', .none),
      ('f', .required), ('s', .required), ('w', .required)] ++
      ("0123456789".toList.map fun d => (d, ArgKind.none))
    longs := [⟨"count", .none, "c"⟩, ⟨"repeated", .none, "d"⟩, ⟨"all-repeated", .optional, "all-repeated"⟩,
      ⟨"group", .optional, "group"⟩, ⟨"ignore-case", .none, "i"⟩, ⟨"skip-fields", .required, "f"⟩,
      ⟨"skip-chars", .required, "s"⟩, ⟨"unique", .none, "u"⟩, ⟨"zero-terminated", .none, "z"⟩,
      ⟨"check-chars", .required, "w"⟩] }
  match ← uniqManual.options p spec p.args with
  | .error e => usageError p e
  | .ok parsed =>
    let settings := do
      let u ← uniqSettings parsed.opts
      uniqOperands u parsed.operands []
    match settings with
    | .error (.value e) => complain p e; return 1
    | .error (.misuse e) => usageError p e
    | .ok (u, files) =>
      if u.grouping != .none && (u.count || !u.unique || !u.firstRepeated || u.laterRepeated) then
        return ← usageError p "--group is mutually exclusive with -c/-d/-D/-u"
      if u.count && u.laterRepeated then
        return ← usageError p "printing all duplicated lines and repeat counts is meaningless"
      let input := files.headD "-"
      match ← readInput p input with
      | .error e => complain p (quoteName input ++ ": " ++ e.description); return 1
      | .ok feed =>
        let data ← finiteOrHang feed
        let lines := splitRecords u.terminator data
        let out := if u.unique && u.firstRepeated && !u.count then uniqPlain u lines
          else uniqGeneral u lines
        match files with
        | [_, output] =>
          if output == "-" then emit p out; return 0
          match ← Sys.openPath p output .truncate with
          | .error e => complain p (quoteName output ++ ": " ++ e.description); return 1
          | .ok d => let _ ← Sys.writeDesc d out; return 0
        | _ => emit p out; return 0

def findBytes (data sep : ByteArray) (i : Nat) : Option Nat :=
  if h : 0 < sep.size ∧ i + sep.size ≤ data.size then
    if data.extract i (i + sep.size) == sep then some i else findBytes data sep (i + 1)
  else none
termination_by data.size - i
decreasing_by omega

def tacRecords (sep : ByteArray) (before : Bool) (data : ByteArray) : List ByteArray :=
  let rec go (fuel start next : Nat) (acc : List ByteArray) : List ByteArray :=
    match fuel with
    | 0 => acc
    | fuel + 1 =>
      match findBytes data sep next with
      | none =>
        let last := data.extract start data.size
        if last.size == 0 then acc else last :: acc
      | some i =>
        if before then
          let piece := data.extract start i
          go fuel i (i + sep.size) (if piece.size == 0 then acc else piece :: acc)
        else
          go fuel (i + sep.size) (i + sep.size) (data.extract start (i + sep.size) :: acc)
  go (data.size + 1) 0 0 []

def tacProgram : Program := fun _ p => do
  let spec : OptSpec := {
    shorts := [('b', .none), ('r', .none), ('s', .required)]
    longs := [⟨"before", .none, "b"⟩, ⟨"regex", .none, "r"⟩, ⟨"separator", .required, "s"⟩] }
  match ← tacManual.options p spec p.args with
  | .error e => usageError p e
  | .ok parsed =>
    let sep := (parsed.last? "s").getD "\n"
    if sep.isEmpty then complain p "separator cannot be empty"; return 1
    let files := if parsed.operands.isEmpty then ["-"] else parsed.operands
    let mut failed := false
    for name in files do
      let shown := if name == "-" then "standard input" else name
      match ← openInput p name with
      | .error e =>
        complain p ("failed to open " ++ quoteFile name ++ " for reading: " ++ e.description)
        failed := true
      | .ok d =>
        match ← Sys.readRestDesc d with
        | .error e =>
          complain p (quoteName shown ++ ": read error: " ++ e.description)
          failed := true
        | .ok feed =>
          let data ← finiteOrHang feed
          emit p (concatBytes (tacRecords sep.toUTF8 (parsed.has "b") data))
    return (if failed then 1 else 0)

def revHelp : String :=
  "\nUsage:\n rev [options] [file ...]\n\nReverse lines characterwise.\n\nOptions:\n" ++
  " -h, --help     display this help\n -V, --version  display version\n\n" ++
  "For more details see rev(1).\n"

def revLine (line : ByteArray) : ByteArray :=
  let body := (chompLine line).toList.takeWhile (· != 0)
  ByteArray.mk body.reverse.toArray |>.push 10

/-- `rev`: each line with its characters in reverse order. Without a locale every byte above
127 is a character that cannot be read: `rev` stops reading that input at the line holding
one, and reports it. -/
def revProgram : Program := fun _ p => do
  let say (message : String) : Sys Unit := Sys.say p 2 ("rev: " ++ message ++ "\n")
  let rec options : List String → List String → Except String (Option String × List String)
    | [], files => .ok (none, files)
    | "--" :: rest, files => .ok (none, files ++ rest)
    | arg :: rest, files =>
      if arg.startsWith "--" && arg.length > 2 then
        let name := (arg.drop 2).toString
        if name.length > 0 && "help".startsWith name then .ok (some "help", files)
        else if name.length > 0 && "version".startsWith name then .ok (some "version", files)
        else .error ("unrecognized option '" ++ arg ++ "'")
      else if arg.startsWith "-" && arg != "-" then
        match (arg.drop 1).toString.toList.find? (fun c => c != 'h' && c != 'V'), (arg.drop 1).toString.toList.head? with
        | _, some 'h' => .ok (some "help", files)
        | _, some 'V' => .ok (some "version", files)
        | some c, _ => .error ("invalid option -- '" ++ String.singleton c ++ "'")
        | none, _ => options rest files
      else options rest (files ++ [arg])
  match options p.args [] with
  | .error e =>
    Sys.say p 2 (p.name ++ ": " ++ e ++ "\nTry 'rev --help' for more information.\n")
    return 1
  | .ok (some "help", _) => emitText p revHelp; return 0
  | .ok (some _, _) => emitText p "rev from util-linux 2.38.1\n"; return 0
  | .ok (none, operands) =>
    let files := if operands.isEmpty then ["-"] else operands
    let mut failed := false
    for name in files do
      let shown := if name == "-" then "stdin" else name
      match ← readInput p name with
      | .error e => say ("cannot open " ++ name ++ ": " ++ e.description); failed := true
      | .ok feed =>
        let data ← finiteOrHang feed
        let lines := splitLines data
        let good := lines.takeWhile fun l => l.toList.all (· < 128)
        emit p (concatBytes (good.map revLine))
        if good.length < lines.length then
          say (shown ++ ": 0: Invalid or incomplete multibyte or wide character")
          failed := true
    return (if failed then 1 else 0)

end Pipework.Tools
