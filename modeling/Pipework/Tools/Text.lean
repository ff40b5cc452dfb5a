import Pipework.Tools.Basic

/-! The programs that copy and count text: `cat`, `head`, `tail`, `wc` and `tee`. -/

namespace Pipework.Tools

open Pipework.Host

def placeOfFd (p : Proc) (fd : Nat) : Sys (Option (Place × Nat)) := do
  match p.descOf fd with
  | none => return none
  | some i =>
    match ← Sys.desc? i with
    | some { backing := .node place, position, .. } => return some (place, position)
    | _ => return none

def showNonprinting (b : UInt8) : String :=
  let n := b.toNat
  let low (n : Nat) : String :=
    if n < 32 then "^" ++ String.singleton (Char.ofNat (n + 64))
    else if n == 127 then "^?"
    else String.singleton (Char.ofNat n)
  if n == 9 || n == 10 then String.singleton (Char.ofNat n)
  else if n ≥ 128 then "M-" ++ low (n - 128)
  else low n

/-- The options of `cat` that change what it writes. -/
structure CatStyle where
  number : Bool := false
  numberNonblank : Bool := false
  squeeze : Bool := false
  ends : Bool := false
  tabs : Bool := false
  nonprinting : Bool := false

def CatStyle.plain (s : CatStyle) : Bool :=
  !(s.number || s.numberNonblank || s.squeeze || s.ends || s.tabs || s.nonprinting)

def lineNumberField (n : Nat) : String :=
  let s := toString n
  String.ofList (List.replicate (6 - min 6 s.length) ' ') ++ s ++ "\t"

def catLines (style : CatStyle) : List ByteArray → Nat → Bool → ByteArray → ByteArray × Nat × Bool
  | [], n, blank, acc => (acc, n, blank)
  | line :: rest, n, blank, acc =>
    let body := chompLine line
    let hasEnd := body.size < line.size
    let isBlank := body.isEmpty && hasEnd
    if style.squeeze && isBlank && blank then catLines style rest n true acc
    else
      let numbered := style.number && !(style.numberNonblank && isBlank) || (style.numberNonblank && !isBlank)
      let prefixText := if numbered then lineNumberField n else ""
      let n' := if numbered then n + 1 else n
      let shown := if style.nonprinting || style.tabs then
          String.join (body.toList.map fun b =>
            if b == 9 && style.tabs then "^I"
            else if style.nonprinting then showNonprinting b
            else String.singleton (Char.ofNat b.toNat))
        else ""
      let bodyBytes := if style.nonprinting || style.tabs then shown.toUTF8 else body
      let ending := if hasEnd then (if style.ends then "$\n" else "\n") else ""
      catLines style rest n' isBlank (acc ++ prefixText.toUTF8 ++ bodyBytes ++ ending.toUTF8)

def catProgram : Program := fun _ p => do
  let spec : OptSpec := {
    shorts := [('A', .none), ('b', .none), ('e', .none), ('E', .none), ('n', .none), ('s', .none),
      ('t', .none), ('T', .none), ('u', .none), ('v', .none)]
    longs := [⟨"show-all", .none, "A"⟩, ⟨"number-nonblank", .none, "b"⟩, ⟨"show-ends", .none, "E"⟩,
      ⟨"number", .none, "n"⟩, ⟨"squeeze-blank", .none, "s"⟩, ⟨"show-tabs", .none, "T"⟩,
      ⟨"show-nonprinting", .none, "v"⟩] }
  match ← catManual.options p spec p.args with
  | .error e => usageError p e
  | .ok parsed =>
    let has := parsed.has
    let style : CatStyle := {
      number := has "n" || has "b", numberNonblank := has "b", squeeze := has "s",
      ends := has "E" || has "A" || has "e", tabs := has "T" || has "A" || has "t",
      nonprinting := has "v" || has "A" || has "e" || has "t" }
    let files := if parsed.operands.isEmpty then ["-"] else parsed.operands
    let out ← placeOfFd p 1
    let mut failed := false
    let mut lineNo := 1
    let mut blank := false
    for name in files do
      let desc ← openInput p name
      match desc with
      | .error e =>
        complain p (quoteName name ++ ": " ++ e.description)
        failed := true
      | .ok d =>
        let sameAsOutput ← match out, ← Sys.desc? d with
          | some (outPlace, _), some { backing := .node place, position, .. } => do
            if place == outPlace then
              let size := (← Sys.nodeData place).size
              pure (decide (position < size))
            else pure false
          | _, _ => pure false
        if sameAsOutput then
          complain p (quoteName name ++ ": input file is output file")
          failed := true
        else
          match ← Sys.readRestDesc d with
          | .error e =>
            complain p (quoteName name ++ ": " ++ e.description)
            failed := true
          | .ok feed =>
            if style.plain then
              emit p feed.head
              if feed.isEndless then throw (.endless 1 feed.cycle)
            else
              let data ← finiteOrHang feed
              let (bytes, n, b) := catLines style (splitLines data) lineNo blank .empty
              lineNo := n
              blank := b
              emit p bytes
    return (if failed then 1 else 0)

def parseCount? (s : String) : Option Nat :=
  let units : List (String × Nat) :=
    [("KiB", 1024), ("MiB", Nat.pow 1024 2), ("GiB", Nat.pow 1024 3), ("kB", 1000), ("KB", 1000),
     ("MB", Nat.pow 1000 2), ("GB", Nat.pow 1000 3), ("b", 512), ("k", 1024), ("K", 1024), ("m", Nat.pow 1024 2),
     ("M", Nat.pow 1024 2), ("g", Nat.pow 1024 3), ("G", Nat.pow 1024 3)]
  match units.find? fun (u, _) => s.endsWith u && s.length > u.length with
  | some (u, factor) => (parseNat? (s.dropEnd u.length).toString).map (· * factor)
  | none => parseNat? s

def signedCount? (s : String) : Option (Option Char × Nat) :=
  match s.toList with
  | '-' :: rest => (parseCount? (String.ofList rest)).map (some '-', ·)
  | '+' :: rest => (parseCount? (String.ofList rest)).map (some '+', ·)
  | _ => (parseCount? s).map (none, ·)

def headLegacy (args : List String) : Except String (List String) :=
  match args with
  | first :: rest =>
    match first.toList with
    | '-' :: d :: more =>
      if !d.isDigit then .ok args
      else
        let digits := d :: more.takeWhile Char.isDigit
        let letters := more.dropWhile Char.isDigit
        let step (state : Except String (Bool × Option Char × List String)) (c : Char) :=
          match state with
          | .error e => .error e
          | .ok (lines, unit, flags) =>
            match c with
            | 'c' => .ok (false, none, flags)
            | 'b' | 'k' | 'm' => .ok (false, some c, flags)
            | 'l' => .ok (true, unit, flags)
            | 'q' | 'v' | 'z' => .ok (lines, unit, flags ++ ["-" ++ String.singleton c])
            | _ => .error ("invalid trailing option -- " ++ String.singleton c)
        match letters.foldl step (.ok (true, none, [])) with
        | .error e => .error e
        | .ok (lines, unit, flags) =>
          let count := String.ofList digits ++ (unit.map String.singleton).getD ""
          .ok ((if lines then ["-n", count] else ["-c", count]) ++ flags ++ rest)
    | _ => .ok args
  | [] => .ok []

/-- The old form of `tail`'s first argument: `+` or `-`, digits, an optional unit letter
(`b`, `c` or `l`) and an optional `f`, taken as the count when at most one file follows.
It is given as the options it stands for; other arguments are left alone. -/
def tailLegacy (args : List String) : List String :=
  let fits := match args with
    | [_] => true
    | [_, "--"] | [_, "--", _] => true
    | [_, file] => !(file.startsWith "-" && file.length > 1)
    | _ => false
  match args with
  | first :: rest =>
    match first.toList with
    | sign :: body =>
      let applies := sign == '+' ||
        (sign == '-' && (match body with
          | 'c' :: after => !after.isEmpty
          | _ :: _ => true
          | [] => false))
      if !fits || !applies || (sign != '+' && sign != '-') then args
      else
        let digits := body.takeWhile Char.isDigit
        let after := body.drop digits.length
        let (lines, scale, after) := match after with
          | 'b' :: more => (false, 512, more)
          | 'c' :: more => (false, 1, more)
          | 'l' :: more => (true, 1, more)
          | more => (true, 1, more)
        let after := match after with
          | 'f' :: more => more
          | more => more
        if !after.isEmpty then args
        else
          let n := if digits.isEmpty then 10 * scale else decimalValue digits * scale
          let count := (if sign == '+' then "+" else "") ++ toString n
          (if lines then ["-n", count] else ["-c", count]) ++ rest
    | [] => args
  | [] => []

def headTailSpec : OptSpec :=
  { shorts := [('c', .required), ('n', .required), ('q', .none), ('v', .none), ('z', .none)]
    longs := [⟨"bytes", .required, "c"⟩, ⟨"lines", .required, "n"⟩, ⟨"quiet", .none, "q"⟩,
      ⟨"silent", .none, "q"⟩, ⟨"verbose", .none, "v"⟩, ⟨"zero-terminated", .none, "z"⟩] }

def fileHeader (p : Proc) (first : Bool) (name : String) : Sys Unit :=
  emitText p ((if first then "" else "\n") ++ "==> " ++ (if name == "-" then "standard input" else name) ++ " <==\n")

def headProgram : Program := fun _ p => do
  match headLegacy p.args with
  | .error e => usageError p e
  | .ok args =>
  match ← headManual.options p headTailSpec args with
  | .error e => usageError p e
  | .ok parsed =>
    let bytesMode := parsed.has "c"
    let countText := if bytesMode then parsed.last? "c" else parsed.last? "n"
    let count := match countText with
      | some t => signedCount? t
      | none => some (none, 10)
    match count with
    | none =>
      complain p ((if bytesMode then "invalid number of bytes: " else "invalid number of lines: ") ++
        localeQuote (countText.getD ""))
      return 1
    | some (sign, n) =>
      let files := if parsed.operands.isEmpty then ["-"] else parsed.operands
      let headers := (files.length > 1 && !parsed.has "q") || parsed.has "v"
      let mut failed := false
      let mut first := true
      for name in files do
        let desc ← openInput p name
        match desc with
        | .error e =>
          complain p ("cannot open " ++ quoteFile name ++ " for reading: " ++ e.description)
          failed := true
        | .ok d =>
          if headers then fileHeader p first name
          first := false
          let shownName := if name == "-" then "standard input" else name
          if sign == some '-' then
            match ← Sys.readRestDesc d with
            | .error e =>
              complain p ("error reading " ++ quoteFile shownName ++ ": " ++ e.description)
              failed := true
            | .ok feed =>
              let data ← finiteOrHang feed
              if bytesMode then emit p (data.extract 0 (data.size - n))
              else
                let lines := splitLines data
                emit p (concatBytes (lines.take (lines.length - n)))
          else
            let got ← if bytesMode then Sys.readBytesDesc d n else Sys.readLinesDesc d n
            match got with
            | .error e =>
              complain p ("error reading " ++ quoteFile shownName ++ ": " ++ e.description)
              failed := true
            | .ok bytes => emit p bytes
      return (if failed then 1 else 0)

def tailProgram : Program := fun _ p => do
  match ← tailManual.options p headTailSpec (tailLegacy p.args) with
  | .error e => usageError p e
  | .ok parsed =>
    let bytesMode := parsed.has "c"
    let countText := if bytesMode then parsed.last? "c" else parsed.last? "n"
    let count := match countText with
      | some t => signedCount? t
      | none => some (none, 10)
    match count with
    | none =>
      complain p ((if bytesMode then "invalid number of bytes: " else "invalid number of lines: ") ++
        localeQuote (countText.getD ""))
      return 1
    | some (sign, n) =>
      let files := if parsed.operands.isEmpty then ["-"] else parsed.operands
      let headers := (files.length > 1 && !parsed.has "q") || parsed.has "v"
      let mut failed := false
      let mut first := true
      for name in files do
        let desc ← openInput p name
        match desc with
        | .error e =>
          complain p ("cannot open " ++ quoteFile name ++ " for reading: " ++ e.description)
          failed := true
        | .ok d =>
          if headers then fileHeader p first name
          first := false
          match ← Sys.readRestDesc d with
          | .error e =>
            complain p ("error reading " ++ quoteFile (if name == "-" then "standard input" else name) ++
              ": " ++ e.description)
            failed := true
          | .ok feed =>
            let data ← finiteOrHang feed
            if bytesMode then
              if sign == some '+' then emit p (data.extract (n - 1) data.size)
              else emit p (data.extract (data.size - n) data.size)
            else
              let lines := splitLines data
              if sign == some '+' then emit p (concatBytes (lines.drop (n - 1)))
              else emit p (concatBytes (lines.drop (lines.length - n)))
      return (if failed then 1 else 0)

/-- The counts `wc` makes of one input. -/
structure Counts where
  lines : Nat := 0
  words : Nat := 0
  chars : Nat := 0
  bytes : Nat := 0
  longest : Nat := 0

def Counts.add (a b : Counts) : Counts :=
  ⟨a.lines + b.lines, a.words + b.words, a.chars + b.chars, a.bytes + b.bytes, max a.longest b.longest⟩

def isWordSpace (b : UInt8) : Bool :=
  b == 32 || b == 9 || b == 10 || b == 11 || b == 12 || b == 13

/-- Counts the lines, words and bytes of an input, and its longest line (tabs to multiples
of eight). A word is a run of printable bytes between blanks: a byte that is neither
printable nor a blank neither starts a word nor ends one. -/
def countBytes (data : ByteArray) : Counts :=
  let step := fun (st : Counts × Bool × Nat) (b : UInt8) =>
    let (c, inWord, col) := st
    let lines := if b == 10 then c.lines + 1 else c.lines
    let printable := 33 ≤ b && b < 127
    let words := if printable && !inWord then c.words + 1 else c.words
    let inWord := if isWordSpace b then false else if printable then true else inWord
    let ends := b == 10 || b == 13 || b == 12
    let col' := if ends then 0
      else if b == 9 then col + 8 - col % 8
      else if 32 ≤ b && b < 127 then col + 1 else col
    let longest := max c.longest (if ends then col else col')
    ({ c with lines, words, longest }, inWord, col')
  let (c, _, _) := data.toList.foldl step (({} : Counts), false, 0)
  { c with bytes := data.size, chars := data.size }

def wcProgram : Program := fun _ p => do
  let spec : OptSpec := {
    shorts := [('c', .none), ('m', .none), ('l', .none), ('L', .none), ('w', .none)]
    longs := [⟨"bytes", .none, "c"⟩, ⟨"chars", .none, "m"⟩, ⟨"lines", .none, "l"⟩,
      ⟨"max-line-length", .none, "L"⟩, ⟨"words", .none, "w"⟩] }
  match ← wcManual.options p spec p.args with
  | .error e => usageError p e
  | .ok parsed =>
    let any := parsed.has "c" || parsed.has "m" || parsed.has "l" || parsed.has "L" || parsed.has "w"
    let showLines := parsed.has "l" || !any
    let showWords := parsed.has "w" || !any
    let showChars := parsed.has "m"
    let showBytes := parsed.has "c" || !any
    let showLongest := parsed.has "L"
    let shown := [showLines, showWords, showChars, showBytes, showLongest].countP id
    let files := if parsed.operands.isEmpty then ["-"] else parsed.operands
    let named := !parsed.operands.isEmpty
    -- the field width: from the sizes of regular files, at least 7 when an input is not one
    let mut regularTotal := 0
    let mut irregular := false
    let mut anyStat := false
    if !(files.length == 1 && shown == 1) then
      for name in files do
        if name == "-" then
          anyStat := true
          match ← placeOfFd p 0 with
          | some (place, _) => regularTotal := regularTotal + (← Sys.nodeData place).size
          | none => irregular := true
        else
          match (← Sys.tree).lookup p.here name with
          | .ok (_, .file data _) => anyStat := true; regularTotal := regularTotal + data.size
          | .ok _ => anyStat := true; irregular := true
          | .error _ => pure ()
    let width := if files.length == 1 && shown == 1 then 1
      else if !anyStat then 1
      else max (toString regularTotal).length (if irregular then 7 else 1)
    let field := fun (n : Nat) =>
      let s := toString n
      String.ofList (List.replicate (width - min width s.length) ' ') ++ s
    let render := fun (c : Counts) (name : Option String) =>
      let parts := (if showLines then [field c.lines] else []) ++ (if showWords then [field c.words] else []) ++
        (if showChars then [field c.chars] else []) ++ (if showBytes then [field c.bytes] else []) ++
        (if showLongest then [field c.longest] else [])
      " ".intercalate parts ++ (match name with | some n => " " ++ n | none => "") ++ "\n"
    let mut total : Counts := {}
    let mut failed := false
    for name in files do
      let desc ← openInput p name
      match desc with
      | .error e =>
        complain p (quoteName name ++ ": " ++ e.description)
        failed := true
      | .ok d =>
        match ← Sys.readRestDesc d with
        | .error e =>
          complain p (quoteName name ++ ": " ++ e.description)
          failed := true
          emitText p (render {} (if named then some name else none))
        | .ok feed =>
          let data ← finiteOrHang feed
          let c := countBytes data
          total := total.add c
          emitText p (render c (if named then some name else none))
    if files.length > 1 then emitText p (render total (some "total"))
    return (if failed then 1 else 0)

def teeProgram : Program := fun _ p => do
  let spec : OptSpec := {
    shorts := [('a', .none), ('i', .none), ('p', .none)]
    longs := [⟨"append", .none, "a"⟩, ⟨"ignore-interrupts", .none, "i"⟩] }
  match ← teeManual.options p spec p.args with
  | .error e => usageError p e
  | .ok parsed =>
    let access := if parsed.has "a" then Access.append else .truncate
    let mut outs : List Nat := []
    let mut failed := false
    for name in parsed.operands do
      match ← Sys.openPath p name access with
      | .error e => complain p (quoteName name ++ ": " ++ e.description); failed := true
      | .ok d => outs := outs ++ [d]
    match ← Sys.readRest p 0 with
    | .error e => complain p ("standard input: " ++ e.description); return 1
    | .ok feed =>
      let data ← finiteOrHang feed
      emit p data
      for d in outs do
        let _ ← Sys.writeDesc d data
      return (if failed then 1 else 0)

def readOneInput (p : Proc) (name : String) : Sys (Option ByteArray) := do
  match ← readInput p name with
  | .error e => complain p (quoteName name ++ ": " ++ e.description); return none
  | .ok feed => return some (← finiteOrHang feed)

end Pipework.Tools
