import Pipework.Tools.Printf

/-! `sort` as it behaves without a locale. -/

namespace Pipework.Tools

open Pipework.Host

/-- Which bytes a key leaves out when it compares: none, all but blanks, letters and digits,
or those that are not printable. -/
inductive Ignored where
  | none
  | nondictionary
  | nonprinting
  deriving Repr, DecidableEq, BEq, Inhabited

/-- How a key compares: blanks skipped at its start and end, bytes left out, case folded,
the kind of value compared, and whether the order is reversed. -/
structure KeyOrder where
  skipStartBlanks : Bool := false
  skipEndBlanks : Bool := false
  ignored : Ignored := .none
  fold : Bool := false
  numeric : Bool := false
  general : Bool := false
  human : Bool := false
  month : Bool := false
  random : Bool := false
  version : Bool := false
  reverse : Bool := false
  deriving Repr, Inhabited

def KeyOrder.isPlain (o : KeyOrder) : Bool :=
  !(o.ignored != .none || o.fold || o.skipStartBlanks || o.skipEndBlanks || o.numeric ||
    o.general || o.human || o.month || o.version || o.random)

/-- Which end of a key an ordering letter `b` applies to. -/
inductive BlankEnd where
  | start
  | stop
  | both
  deriving DecidableEq, BEq

def KeyOrder.set (o : KeyOrder) (blanks : BlankEnd) : Char → Option KeyOrder
  | 'b' => some { o with skipStartBlanks := o.skipStartBlanks || blanks != .stop,
                         skipEndBlanks := o.skipEndBlanks || blanks != .start }
  | 'd' => some { o with ignored := .nondictionary }
  | 'f' => some { o with fold := true }
  | 'g' => some { o with general := true }
  | 'h' => some { o with human := true }
  | 'i' => some (if o.ignored == .none then { o with ignored := .nonprinting } else o)
  | 'M' => some { o with month := true }
  | 'n' => some { o with numeric := true }
  | 'R' => some { o with random := true }
  | 'r' => some { o with reverse := true }
  | 'V' => some { o with version := true }
  | _ => none

def KeyOrder.setAll (o : KeyOrder) (blanks : BlankEnd) : List Char → KeyOrder × List Char
  | [] => (o, [])
  | c :: cs =>
    match o.set blanks c with
    | some o' => o'.setAll blanks cs
    | none => (o, c :: cs)

def KeyOrder.letters (o : KeyOrder) : String :=
  String.ofList ((if o.skipStartBlanks || o.skipEndBlanks then ['b'] else []) ++
    (if o.ignored == .nondictionary then ['d'] else []) ++ (if o.fold then ['f'] else []) ++
    (if o.general then ['g'] else []) ++ (if o.human then ['h'] else []) ++
    (if o.ignored == .nonprinting then ['i'] else []) ++ (if o.month then ['M'] else []) ++
    (if o.numeric then ['n'] else []) ++ (if o.random then ['R'] else []) ++
    (if o.reverse then ['r'] else []) ++ (if o.version then ['V'] else []))

def KeyOrder.conflicts (o : KeyOrder) : Bool :=
  [o.numeric, o.general, o.human, o.month, o.version || o.random || o.ignored != .none].countP id > 1

/-- A sort key: the field and character it starts at, counted from zero (no field for the
start of the line), the field and character it ends at (no field for the end of the line; an
end character of zero for the end of the field), and its ordering. -/
structure SortKey where
  startField : Option Nat := none
  startChar : Nat := 0
  endField : Option Nat := none
  endChar : Nat := 0
  order : KeyOrder := {}
  deriving Inhabited

def isSortBlank (b : UInt8) : Bool :=
  b == 32 || b == 9 || b == 10

def fieldCount (cs : List Char) (what : String) : Except String (Nat × List Char) :=
  let body := cs.dropWhile fun c => c == ' ' || c == '\t' || c == '\n'
  let body := match body with
    | '+' :: more => more
    | more => more
  let ds := body.takeWhile Char.isDigit
  if ds.isEmpty then .error (what ++ ": invalid count at start of " ++ localeQuote (String.ofList cs))
  else .ok (decimalValue ds, body.drop ds.length)

def parseKeyArg (spec : String) : Except String SortKey := do
  let fieldSpec (what : String) : String := what ++ ": invalid field specification " ++ localeQuote spec
  let (sword, rest) ← fieldCount spec.toList "invalid number at field start"
  if sword == 0 then throw (fieldSpec "field number is zero")
  let (schar, rest) ← match rest with
    | '.' :: more => do
      let (c, r) ← fieldCount more "invalid number after '.'"
      if c == 0 then throw (fieldSpec "character offset is zero")
      pure (c - 1, r)
    | r => pure (0, r)
  let startField := if sword == 1 && schar == 0 then none else some (sword - 1)
  let (order, rest) := ({} : KeyOrder).setAll .start rest
  let (endField, endChar, order, rest) ← match rest with
    | ',' :: more => do
      let (eword, r) ← fieldCount more "invalid number after ','"
      if eword == 0 then throw (fieldSpec "field number is zero")
      let (echar, r) ← match r with
        | '.' :: m => fieldCount m "invalid number after '.'"
        | r => pure (0, r)
      let (order, r) := order.setAll .stop r
      pure (some (eword - 1), echar, order, r)
    | r => pure (none, 0, order, r)
  if !rest.isEmpty then throw (fieldSpec "stray character in field spec")
  pure { startField, startChar := schar, endField, endChar, order }

def advanceWhile (bytes : ByteArray) (lim : Nat) (p : UInt8 → Bool) (pos : Nat) : Nat :=
  if h : pos < lim ∧ pos < bytes.size then
    if p bytes[pos] then advanceWhile bytes lim p (pos + 1) else pos
  else pos
termination_by lim - pos

def passField (line : ByteArray) (lim : Nat) (tab : Option UInt8) (pass : Bool) (pos : Nat) : Nat :=
  match tab with
  | some t =>
    let stop := advanceWhile line lim (· != t) pos
    if stop < lim && pass then stop + 1 else stop
  | none =>
    advanceWhile line lim (fun b => !isSortBlank b) (advanceWhile line lim isSortBlank pos)

def keyStart (line : ByteArray) (lim : Nat) (tab : Option UInt8) (key : SortKey) : Nat :=
  match key.startField with
  | none => if key.order.skipStartBlanks then advanceWhile line lim isSortBlank 0 else 0
  | some sword =>
    let pos := (List.range sword).foldl (fun pos _ =>
      if pos < lim then passField line lim tab true pos else pos) 0
    let pos := if key.order.skipStartBlanks then advanceWhile line lim isSortBlank pos else pos
    min lim (pos + key.startChar)

def keyLimit (line : ByteArray) (lim : Nat) (tab : Option UInt8) (key : SortKey) : Nat :=
  match key.endField with
  | none => lim
  | some eword =>
    let words := if key.endChar == 0 then eword + 1 else eword
    let pos := (List.range words).foldl (fun pos i =>
      if pos < lim then passField line lim tab (i + 1 < words || key.endChar != 0) pos else pos) 0
    if key.endChar != 0 then
      let pos := if key.order.skipEndBlanks then advanceWhile line lim isSortBlank pos else pos
      min lim (pos + key.endChar)
    else pos

def keyText (line : ByteArray) (tab : Option UInt8) (key : SortKey) : List UInt8 :=
  let lim := line.size
  let start := keyStart line lim tab key
  let stop := keyLimit line lim tab key
  if stop ≤ start then [] else (line.extract start stop).toList

def isDigitByte (b : UInt8) : Bool :=
  48 ≤ b && b ≤ 57

def numberParts (key : List UInt8) : Bool × List UInt8 × List UInt8 :=
  let cs := key.dropWhile isSortBlank
  let (neg, cs) := match cs with
    | 45 :: r => (true, r)
    | r => (false, r)
  let whole := (cs.takeWhile isDigitByte).dropWhile (· == 48)
  let rest := cs.dropWhile isDigitByte
  let frac := match rest with
    | 46 :: r => ((r.takeWhile isDigitByte).reverse.dropWhile (· == 48)).reverse
    | _ => []
  let isZero := whole.isEmpty && frac.isEmpty
  (neg && !isZero, whole, frac)

def compareBytes : List UInt8 → List UInt8 → Ordering
  | [], [] => .eq
  | [], _ => .lt
  | _, [] => .gt
  | a :: as, b :: bs => if a < b then .lt else if a > b then .gt else compareBytes as bs

def compareNumeric (a b : List UInt8) : Ordering :=
  let (na, wa, fa) := numberParts a
  let (nb, wb, fb) := numberParts b
  let magnitude :=
    if wa.length != wb.length then compare wa.length wb.length
    else match compareBytes wa wb with
      | .eq => compareBytes fa fb
      | o => o
  match na, nb with
  | false, false => magnitude
  | true, true => magnitude.swap
  | true, false => .lt
  | false, true => .gt

/-- The rank of a floating value read from the front of a key: keys that hold no number come
first, then not-a-number, then the numbers in order. -/
inductive FloatRank where
  | noNumber
  | notANumber
  | number (neg : Bool) (value : Magnitude)

def floatRank (key : List UInt8) : FloatRank :=
  let (neg, value, any, _) := readCFloat (bytesText key)
  if !any then .noNumber
  else match value with
    | .notANumber => .notANumber
    | v => .number neg v

def compareMagnitude : Magnitude → Magnitude → Ordering
  | .finite a da, .finite b db => compare (a * db) (b * da)
  | .finite _ _, _ => .lt
  | .infinity, .infinity => .eq
  | .infinity, _ => .gt
  | .notANumber, _ => .eq

def compareGeneral (a b : List UInt8) : Ordering :=
  let isZero : Magnitude → Bool := fun
    | .finite n _ => n == 0
    | _ => false
  match floatRank a, floatRank b with
  | .noNumber, .noNumber => .eq
  | .noNumber, _ => .lt
  | _, .noNumber => .gt
  | .notANumber, .notANumber => .eq
  | .notANumber, _ => .lt
  | _, .notANumber => .gt
  | .number na va, .number nb vb =>
    let na := na && !isZero va
    let nb := nb && !isZero vb
    match na, nb with
    | false, false => compareMagnitude va vb
    | true, true => compareMagnitude vb va
    | true, false => .lt
    | false, true => .gt

/-- The order of the unit after a number for `-h`: `K` (or `k`) is one, then `M`, `G`, `T`,
`P`, `E`, `Z`, `Y`; a number without a unit, or zero, has none; a negative number's units
count downwards. -/
def unitOrder (key : List UInt8) : Int :=
  let cs := key.dropWhile isSortBlank
  let (neg, cs) := match cs with
    | 45 :: r => (true, r)
    | r => (false, r)
  let rec scan (fuel : Nat) (cs : List UInt8) (nonzero : Bool) : Bool × Option UInt8 :=
    match fuel with
    | 0 => (nonzero, none)
    | fuel + 1 =>
      let ds := cs.takeWhile isDigitByte
      let nonzero := nonzero || ds.any (· != 48)
      match cs.drop ds.length with
      | 46 :: more => scan fuel more nonzero
      | c :: _ => (nonzero, some c)
      | [] => (nonzero, none)
  let (nonzero, unit) := scan (cs.length + 1) cs false
  let order : Int := match unit with
    | some c => match Char.ofNat c.toNat with
      | 'K' | 'k' => 1
      | 'M' => 2
      | 'G' => 3
      | 'T' => 4
      | 'P' => 5
      | 'E' => 6
      | 'Z' => 7
      | 'Y' => 8
      | _ => 0
    | none => 0
  if !nonzero then 0 else if neg then -order else order

def compareHuman (a b : List UInt8) : Ordering :=
  match compare (unitOrder a) (unitOrder b) with
  | .eq => compareNumeric a b
  | o => o

def monthOf (key : List UInt8) : Nat :=
  let cs := (key.dropWhile isSortBlank).take 3
  let upper := bytesText (cs.map fun b => if 97 ≤ b && b ≤ 122 then b - 32 else b)
  let months := ["JAN", "FEB", "MAR", "APR", "MAY", "JUN", "JUL", "AUG", "SEP", "OCT", "NOV", "DEC"]
  match months.findIdx? (· == upper) with
  | some i => i + 1
  | none => 0

def versionWeight : Option UInt8 → Int
  | none => -1
  | some c =>
    if isDigitByte c then 0
    else if (65 ≤ c && c ≤ 90) || (97 ≤ c && c ≤ 122) then c.toNat
    else if c == 126 then -2
    else c.toNat + 256

def compareVersionParts : Nat → List UInt8 → List UInt8 → Int
  | 0, _, _ => 0
  | fuel + 1, a, b =>
    if a.isEmpty && b.isEmpty then 0
    else
      let rec text (fuel : Nat) (a b : List UInt8) : Int ⊕ (List UInt8 × List UInt8) :=
        match fuel with
        | 0 => .inr (a, b)
        | fuel + 1 =>
          let aText := match a.head? with
            | some c => !isDigitByte c
            | none => false
          let bText := match b.head? with
            | some c => !isDigitByte c
            | none => false
          if aText || bText then
            let wa := versionWeight a.head?
            let wb := versionWeight b.head?
            if wa != wb then .inl (wa - wb) else text fuel (a.drop 1) (b.drop 1)
          else .inr (a, b)
      match text (a.length + b.length + 1) a b with
      | .inl d => d
      | .inr (a, b) =>
        let a := a.dropWhile (· == 48)
        let b := b.dropWhile (· == 48)
        let da := a.takeWhile isDigitByte
        let db := b.takeWhile isDigitByte
        if da.length != db.length then (if da.length > db.length then 1 else -1)
        else
          let firstDiff := ((da.zip db).find? fun (x, y) => x != y).map fun (x, y) =>
            (x.toNat : Int) - y.toNat
          match firstDiff with
          | some d => d
          | none => compareVersionParts fuel (a.drop da.length) (b.drop db.length)

def versionPrefixLength (s : List UInt8) : Nat :=
  let isAlpha := fun (b : UInt8) => (65 ≤ b && b ≤ 90) || (97 ≤ b && b ≤ 122)
  let rec go (fuel : Nat) (i prefixLen : Nat) : Nat :=
    match fuel with
    | 0 => prefixLen
    | fuel + 1 =>
      if i ≥ s.length then prefixLen
      else
        let i := i + 1
        let prefixLen := i
        let rec suffixes (fuel : Nat) (i : Nat) : Nat :=
          match fuel with
          | 0 => i
          | fuel + 1 =>
            if i + 1 < s.length && s.getD i 0 == 46 &&
                (isAlpha (s.getD (i + 1) 0) || s.getD (i + 1) 0 == 126) then
              let j := ((s.drop (i + 2)).takeWhile fun b => isAlpha b || isDigitByte b || b == 126).length
              suffixes fuel (i + 2 + j)
            else i
        go fuel (suffixes (s.length + 1) i) prefixLen
  go (s.length + 1) 0 0

/-- Compares two keys as versions: empty first, then `.`, then `..`, then other names that
start with a dot, then the rest; names compare without their suffixes first, and with them
when that ties. -/
def compareVersion (a b : List UInt8) : Ordering :=
  let sign (d : Int) : Ordering := if d < 0 then .lt else if d > 0 then .gt else .eq
  if a.isEmpty then (if b.isEmpty then .eq else .lt)
  else if b.isEmpty then .gt
  else
    let special : Option Ordering :=
      if a.head? == some 46 then
        if b.head? != some 46 then some .lt
        else if a.length == 1 then some (if b.length == 1 then .eq else .lt)
        else if b.length == 1 then some .gt
        else if a == [46, 46] then some (if b == [46, 46] then .eq else .lt)
        else if b == [46, 46] then some .gt
        else none
      else if b.head? == some 46 then some .gt
      else none
    match special with
    | some o => o
    | none =>
      let pa := versionPrefixLength a
      let pb := versionPrefixLength b
      let fuel := a.length + b.length + 1
      let first := compareVersionParts fuel (a.take pa) (b.take pb)
      if first != 0 || (pa == a.length && pb == b.length) then sign first
      else sign (compareVersionParts fuel a b)

def keyBytes (o : KeyOrder) (bytes : List UInt8) : List UInt8 :=
  let isAlnum := fun (b : UInt8) => isDigitByte b || (65 ≤ b && b ≤ 90) || (97 ≤ b && b ≤ 122)
  let bytes := match o.ignored with
    | .nondictionary => bytes.filter fun b => isAlnum b || isSortBlank b
    | .nonprinting => bytes.filter fun b => 32 ≤ b && b < 127
    | .none => bytes
  if o.fold then bytes.map fun b => if 97 ≤ b && b ≤ 122 then b - 32 else b else bytes

def compareByKey (tab : Option UInt8) (key : SortKey) (a b : ByteArray) : Ordering :=
  let o := key.order
  let ka := keyBytes o (keyText a tab key)
  let kb := keyBytes o (keyText b tab key)
  let result :=
    if o.numeric then compareNumeric ka kb
    else if o.general then compareGeneral ka kb
    else if o.human then compareHuman ka kb
    else if o.month then compare (monthOf ka) (monthOf kb)
    else if o.random then .eq
    else if o.version then compareVersion ka kb
    else compareBytes ka kb
  if o.reverse then result.swap else result

def compareByKeys (tab : Option UInt8) : List SortKey → ByteArray → ByteArray → Ordering
  | [], _, _ => .eq
  | k :: ks, a, b =>
    match compareByKey tab k a b with
    | .eq => compareByKeys tab ks a b
    | o => o

/-- How `sort` orders lines: its keys, the field separator, whether ties between keys stand
(for `-s` and `-u`), and whether the comparison of whole lines is reversed. -/
structure LineOrder where
  keys : List SortKey
  tab : Option UInt8
  keysDecide : Bool
  reverse : Bool

def LineOrder.compare (lo : LineOrder) (a b : ByteArray) : Ordering :=
  let byKeys := if lo.keys.isEmpty then .eq else compareByKeys lo.tab lo.keys a b
  if byKeys != .eq || (!lo.keys.isEmpty && lo.keysDecide) then byKeys
  else
    let o := compareBytes a.toList b.toList
    if lo.reverse then o.swap else o

def mergeLines (lo : LineOrder) : List ByteArray → List ByteArray → List ByteArray
  | [], ys => ys
  | xs, [] => xs
  | x :: xs, y :: ys =>
    if lo.compare x y != .gt then x :: mergeLines lo xs (y :: ys)
    else y :: mergeLines lo (x :: xs) ys

def firstOfRuns (lo : LineOrder) (lines : List ByteArray) : List ByteArray :=
  (lines.splitBy fun a b => lo.compare a b == .eq).filterMap List.head?

/-- What one option of `sort` sets beyond the orderings: the check mode, merging, output,
separator and so on. -/
structure SortSettings where
  global : KeyOrder := {}
  keys : List SortKey := []
  check : Option Char := none
  merge : Bool := false
  stable : Bool := false
  unique : Bool := false
  zero : Bool := false
  output : Option String := none
  tab : Option UInt8 := none

/-- Why `sort` stops before reading: a fault reported alone, or a misuse reported with the
pointer to the help. -/
inductive SortFault where
  | fatal (message : String)
  | misuse (message : String)

def SortSettings.apply (s : SortSettings) : String × Option String → Except SortFault SortSettings
  | ("k", v) =>
    match parseKeyArg (v.getD "") with
    | .ok key => .ok { s with keys := s.keys ++ [key] }
    | .error e => .error (.fatal e)
  | ("t", v) =>
    let arg := v.getD ""
    let bytes := arg.toUTF8
    if bytes.size == 0 then .error (.fatal "empty tab")
    else
      let tab : Except SortFault UInt8 :=
        if bytes.size == 1 then .ok (bytes.get! 0)
        else if arg == "\\0" then .ok 0
        else .error (.fatal ("multi-character tab " ++ localeQuote arg))
      match tab with
      | .error e => .error e
      | .ok t =>
        match s.tab with
        | some old => if old != t then .error (.fatal "incompatible tabs") else .ok s
        | none => .ok { s with tab := some t }
  | ("c", v) =>
    match v with
    | none => .ok { s with check := some 'c' }
    | some arg =>
      match argMatch "--check" arg [("quiet", 'C'), ("silent", 'C'), ("diagnose-first", 'c')] with
      | .ok c => .ok { s with check := some c }
      | .error e => .error (.misuse e)
  | ("C", _) => .ok { s with check := some 'C' }
  | ("m", _) => .ok { s with merge := true }
  | ("s", _) => .ok { s with stable := true }
  | ("u", _) => .ok { s with unique := true }
  | ("z", _) => .ok { s with zero := true }
  | ("o", v) => .ok { s with output := v }
  | ("sort", v) =>
    match argMatch "--sort" (v.getD "") [("general-numeric", 'g'), ("human-numeric", 'h'),
        ("month", 'M'), ("numeric", 'n'), ("random", 'R'), ("version", 'V')] with
    | .ok c => .ok { s with global := (s.global.set .both c).getD s.global }
    | .error e => .error (.misuse e)
  | (key, _) =>
    match key.toList with
    | [c] => .ok { s with global := (s.global.set .both c).getD s.global }
    | _ => .ok s

def SortSettings.finalKeys (s : SortSettings) : List SortKey :=
  if s.keys.isEmpty then
    if s.global.isPlain then [] else [{ order := s.global }]
  else s.keys.map fun k =>
    if k.order.isPlain && !k.order.reverse then { k with order := s.global } else k

def sortRecords (zero : Bool) (data : ByteArray) : List ByteArray :=
  if zero then
    let bytes := data.toList
    let rec go (fuel : Nat) (rest : List UInt8) (acc : List ByteArray) : List ByteArray :=
      match fuel with
      | 0 => acc.reverse
      | fuel + 1 =>
        if rest.isEmpty then acc.reverse
        else
          let record := rest.takeWhile (· != 0)
          go fuel (rest.drop (record.length + 1)) (ByteArray.mk record.toArray :: acc)
    go (bytes.length + 1) bytes []
  else (splitLines data).map chompLine

def sortProgram : Program := fun _ p => do
  let spec : OptSpec := {
    shorts := [('b', .none), ('c', .none), ('C', .none), ('d', .none), ('f', .none), ('g', .none),
      ('h', .none), ('i', .none), ('k', .required), ('m', .none), ('M', .none), ('n', .none),
      ('o', .required), ('r', .none), ('R', .none), ('s', .none), ('S', .required),
      ('t', .required), ('T', .required), ('u', .none), ('V', .none), ('y', .required), ('z', .none)]
    longs := [⟨"ignore-leading-blanks", .none, "b"⟩, ⟨"check", .optional, "c"⟩,
      ⟨"compress-program", .required, "compress-program"⟩, ⟨"debug", .none, "debug"⟩,
      ⟨"dictionary-order", .none, "d"⟩, ⟨"ignore-case", .none, "f"⟩,
      ⟨"files0-from", .required, "files0-from"⟩, ⟨"general-numeric-sort", .none, "g"⟩,
      ⟨"ignore-nonprinting", .none, "i"⟩, ⟨"key", .required, "k"⟩, ⟨"merge", .none, "m"⟩,
      ⟨"month-sort", .none, "M"⟩, ⟨"numeric-sort", .none, "n"⟩,
      ⟨"human-numeric-sort", .none, "h"⟩, ⟨"version-sort", .none, "V"⟩,
      ⟨"random-sort", .none, "R"⟩, ⟨"random-source", .required, "random-source"⟩,
      ⟨"sort", .required, "sort"⟩, ⟨"output", .required, "o"⟩, ⟨"reverse", .none, "r"⟩,
      ⟨"stable", .none, "s"⟩, ⟨"batch-size", .required, "batch-size"⟩,
      ⟨"buffer-size", .required, "S"⟩, ⟨"field-separator", .required, "t"⟩,
      ⟨"temporary-directory", .required, "T"⟩, ⟨"unique", .none, "u"⟩,
      ⟨"zero-terminated", .none, "z"⟩, ⟨"parallel", .required, "parallel"⟩] }
  match ← sortManual.options p spec p.args with
  | .error e => usageError p e 2
  | .ok parsed =>
    match parsed.opts.foldlM (fun s o => s.apply o) ({} : SortSettings) with
    | .error (.fatal e) => complain p e; return 2
    | .error (.misuse e) => usageError p e 2
    | .ok settings =>
    let keys := settings.finalKeys
    match keys.find? (·.order.conflicts) with
    | some k =>
      let o := { k.order with skipStartBlanks := false, skipEndBlanks := false, reverse := false }
      complain p ("options '-" ++ o.letters ++ "' are incompatible"); return 2
    | none =>
    let files := if parsed.operands.isEmpty then ["-"] else parsed.operands
    let order : LineOrder :=
      { keys, tab := settings.tab, keysDecide := settings.unique || settings.stable,
        reverse := settings.global.reverse }
    let ending := byteOf (if settings.zero then 0 else 10)
    if let some mode := settings.check then
      if let some extra := files[1]? then
        complain p ("extra operand " ++ quoteFile extra ++ " not allowed with -" ++ String.singleton mode)
        return 2
      if settings.output.isSome then
        complain p ("options '-" ++ String.singleton mode ++ "o' are incompatible"); return 2
    let mut inputs : List (List ByteArray) := []
    for name in files do
      match ← openInput p name with
      | .error e =>
        complain p ("open failed: " ++ quoteName name ++ ": " ++ e.description)
        return 2
      | .ok d =>
        match ← Sys.readRestDesc d with
        | .error e =>
          complain p ("read failed: " ++ quoteName name ++ ": " ++ e.description)
          return 2
        | .ok feed =>
          let data ← finiteOrHang feed
          inputs := inputs ++ [sortRecords settings.zero data]
    if let some mode := settings.check then
      let lines := inputs.headD []
      let pairs := lines.zip (lines.drop 1)
      match pairs.zipIdx.find? fun ((a, b), _) =>
          order.compare a b == .gt || (settings.unique && order.compare a b == .eq) with
      | some ((_, b), i) =>
        if mode == 'c' then
          Sys.say p 2 (p.name ++ ": " ++ files.headD "-" ++ ":" ++ toString (i + 2) ++ ": disorder: ")
          let _ ← Sys.write p 2 (b.push 10)
        return 1
      | none => return 0
    let sorted := if settings.merge then inputs.foldl (mergeLines order) []
      else (inputs.foldl (· ++ ·) []).mergeSort fun a b => order.compare a b != .gt
    let sorted := if settings.unique then firstOfRuns order sorted else sorted
    let out := concatBytes (sorted.map (· ++ ending))
    match settings.output with
    | none => emit p out; return 0
    | some name =>
      match ← Sys.openPath p name .truncate with
      | .error e => complain p ("open failed: " ++ quoteName name ++ ": " ++ e.description); return 2
      | .ok d => let _ ← Sys.writeDesc d out; return 0

end Pipework.Tools
