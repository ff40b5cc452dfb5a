import Pipework.Tools.Text

/-! `tr`: translates, deletes or squeezes bytes. -/

namespace Pipework.Tools

open Pipework.Host

def classBytes (name : String) : Option (List UInt8) :=
  let all := (List.range 256).map (·.toUInt8)
  let isUpper := fun (b : UInt8) => 65 ≤ b && b ≤ 90
  let isLower := fun (b : UInt8) => 97 ≤ b && b ≤ 122
  let isDigit := fun (b : UInt8) => 48 ≤ b && b ≤ 57
  let isAlpha := fun b => isUpper b || isLower b
  let isPrint := fun (b : UInt8) => 32 ≤ b && b < 127
  let isSpace := fun (b : UInt8) => b == 32 || (9 ≤ b && b ≤ 13)
  match name with
  | "alnum" => some (all.filter fun b => isAlpha b || isDigit b)
  | "alpha" => some (all.filter isAlpha)
  | "blank" => some [9, 32]
  | "cntrl" => some (all.filter fun b => b < 32 || b == 127)
  | "digit" => some (all.filter isDigit)
  | "graph" => some (all.filter fun b => isPrint b && b != 32)
  | "lower" => some (all.filter isLower)
  | "print" => some (all.filter isPrint)
  | "punct" => some (all.filter fun b => isPrint b && b != 32 && !isAlpha b && !isDigit b)
  | "space" => some (all.filter isSpace)
  | "upper" => some (all.filter isUpper)
  | "xdigit" => some (all.filter fun b => isDigit b || (65 ≤ b && b ≤ 70) || (97 ≤ b && b ≤ 102))
  | _ => none

/-- A byte of a set text after its backslash escapes are read, and whether it was written
escaped (an escaped byte never starts or ends a bracket construct). -/
structure SetChar where
  byte : UInt8
  escaped : Bool := false

def isOctalByte (b : UInt8) : Bool :=
  48 ≤ b && b ≤ 55

def byteChar (b : UInt8) : String :=
  String.singleton (Char.ofNat b.toNat)

/-- Reads the backslash escapes of a set text: the bytes with whether each was escaped, and
the warnings the reading gives. A backslash at the end stands for itself; an octal escape
takes up to three digits while its value fits in a byte. `fuel` bounds the bytes read. -/
def unquoteSet : Nat → List UInt8 → List SetChar × List String
  | 0, _ => ([], [])
  | _ + 1, [] => ([], [])
  | fuel + 1, 92 :: rest =>
    match rest with
    | [] => ([{ byte := 92 }], ["warning: an unescaped backslash at end of string is not portable"])
    | c :: more =>
      if isOctalByte c then
        let v1 := c.toNat - 48
        match more with
        | d2 :: more2 =>
          if isOctalByte d2 then
            let v2 := v1 * 8 + (d2.toNat - 48)
            match more2 with
            | d3 :: more3 =>
              if isOctalByte d3 then
                if v2 * 8 + (d3.toNat - 48) < 256 then
                  let (cs, ws) := unquoteSet fuel more3
                  ({ byte := (v2 * 8 + (d3.toNat - 48)).toUInt8, escaped := true } :: cs, ws)
                else
                  let warning := "warning: the ambiguous octal escape \\" ++ byteChar c ++ byteChar d2 ++
                    byteChar d3 ++ " is being\n\tinterpreted as the 2-byte sequence \\0" ++ byteChar c ++
                    byteChar d2 ++ ", " ++ byteChar d3
                  let (cs, ws) := unquoteSet fuel more2
                  ({ byte := v2.toUInt8, escaped := true } :: cs, warning :: ws)
              else
                let (cs, ws) := unquoteSet fuel more2
                ({ byte := v2.toUInt8, escaped := true } :: cs, ws)
            | [] => ([{ byte := v2.toUInt8, escaped := true }], [])
          else
            let (cs, ws) := unquoteSet fuel more
            ({ byte := v1.toUInt8, escaped := true } :: cs, ws)
        | [] => ([{ byte := v1.toUInt8, escaped := true }], [])
      else
        let b : UInt8 := match c with
          | 97 => 7 | 98 => 8 | 102 => 12 | 110 => 10 | 114 => 13 | 116 => 9 | 118 => 11
          | _ => c
        let (cs, ws) := unquoteSet fuel more
        ({ byte := b, escaped := true } :: cs, ws)
  | fuel + 1, b :: rest =>
    let (cs, ws) := unquoteSet fuel rest
    ({ byte := b } :: cs, ws)

/-- One element of a set: a byte, a range of bytes, a character class, an equivalence class,
or a byte repeated a number of times (zero: as often as the other set needs). -/
inductive SetPart where
  | byte (b : UInt8)
  | range (lo hi : UInt8)
  | cls (name : String)
  | equiv (b : UInt8)
  | repeated (b : UInt8) (count : Nat)

def printableSetByte (b : UInt8) : String :=
  match b.toNat with
  | 92 => "\\"
  | 7 => "\\a"
  | 8 => "\\b"
  | 12 => "\\f"
  | 10 => "\\n"
  | 13 => "\\r"
  | 9 => "\\t"
  | 11 => "\\v"
  | n => if 32 ≤ n && n < 127 then byteChar b else "\\" ++ octal3 b

def printableSetText (bs : List UInt8) : String :=
  String.join (bs.map printableSetByte)

def printableRangeEnd (b : UInt8) : String :=
  if isPrintableByte b then byteChar b else "\\" ++ octal3 b

def setMatch (es : Array SetChar) (i : Nat) (c : UInt8) : Bool :=
  match es[i]? with
  | some sc => sc.byte == c && !sc.escaped
  | none => false

def closingDelim (es : Array SetChar) (start : Nat) (delim : UInt8) : Option Nat :=
  ((List.range (es.size - 1 - min (es.size - 1) start)).map (· + start)).find? fun j =>
    setMatch es j delim && setMatch es (j + 1) 93

def starDigitsClose (es : Array SetChar) (idx : Nat) : Bool :=
  setMatch es idx 42 &&
    match ((List.range (es.size - min es.size (idx + 1))).map (· + idx + 1)).find? fun j =>
        match es[j]? with
        | some sc => !(48 ≤ sc.byte && sc.byte ≤ 57) || sc.escaped
        | none => true with
    | some j => setMatch es j 93
    | none => false

def repeatCount (ds : List UInt8) : Option Nat :=
  let octal := ds.headD 0 == 48
  let ok := ds.all fun d => if octal then isOctalByte d else 48 ≤ d && d ≤ 57
  if ds.isEmpty || !ok then none
  else some (ds.foldl (fun v d => v * (if octal then 8 else 10) + (d.toNat - 48)) 0)

/-- Reads a repeat `[c*n]` or `[c*]` whose byte stands at `start`: the byte, the count (zero
for none) and where the construct closes; nothing when there is no such construct; or the
message about a count that is not one. -/
def bracketedRepeat (es : Array SetChar) (start : Nat) : Except String (Option (UInt8 × Nat × Nat)) :=
  if !setMatch es (start + 1) 42 then .ok none
  else
    let candidates := (List.range (es.size - min es.size (start + 2))).map (· + start + 2)
    let unescaped := candidates.takeWhile fun j => !(es[j]?.map (·.escaped)).getD true
    match unescaped.find? fun j => (es[j]?.map (·.byte)) == some 93 with
    | none => .ok none
    | some j =>
      let digits := ((List.range (j - (start + 2))).map (· + start + 2)).filterMap fun k => es[k]?.map (·.byte)
      let b := (es[start]?.map (·.byte)).getD 0
      if digits.isEmpty then .ok (some (b, 0, j))
      else
        match repeatCount digits with
        | some n => .ok (some (b, n, j))
        | none => .error ("invalid repeat count " ++ localeQuote (printableSetText digits) ++ " in [c*n] construct")

/-- Reads the elements of a set from its unescaped bytes, as `tr` does: brackets open classes
`[:name:]`, equivalence classes `[=c=]` and repeats `[c*n]`; `a-z` is a range; any other byte
stands for itself. `fuel` bounds the elements read. -/
def setParts (es : Array SetChar) : Nat → Nat → Except String (List SetPart)
  | 0, _ => .ok []
  | fuel + 1, i =>
    let byteAt := fun (k : Nat) => (es[k]?.map (·.byte)).getD 0
    if i + 2 < es.size then
      let plain : Except String (List SetPart) :=
        if setMatch es (i + 1) 45 then
          let lo := byteAt i
          let hi := byteAt (i + 2)
          if hi < lo then
            .error ("range-endpoints of '" ++ printableRangeEnd lo ++ "-" ++ printableRangeEnd hi ++
              "' are in reverse collating sequence order")
          else do
            let more ← setParts es fuel (i + 3)
            pure (.range lo hi :: more)
        else do
          let more ← setParts es fuel (i + 1)
          pure (.byte (byteAt i) :: more)
      let repeatOr (fallback : Except String (List SetPart)) : Except String (List SetPart) :=
        match bracketedRepeat es (i + 1) with
        | .error e => .error e
        | .ok (some (b, n, close)) => do
          let more ← setParts es fuel (close + 1)
          pure (.repeated b n :: more)
        | .ok none => fallback
      if setMatch es i 91 then
        if setMatch es (i + 1) 58 || setMatch es (i + 1) 61 then
          let delim := byteAt (i + 1)
          match closingDelim es (i + 2) delim with
          | some close =>
            let operand := ((List.range (close - (i + 2))).map (· + i + 2)).map byteAt
            if operand.isEmpty then
              .error (if delim == 58 then "missing character class name '[::]'"
                else "missing equivalence class character '[==]'")
            else if delim == 58 then
              let name := bytesText operand
              if (classBytes name).isSome then do
                let more ← setParts es fuel (close + 2)
                pure (.cls name :: more)
              else if starDigitsClose es (i + 2) then repeatOr plain
              else .error ("invalid character class " ++ localeQuote (printableSetText operand))
            else
              if operand.length == 1 then do
                let more ← setParts es fuel (close + 2)
                pure (.equiv (operand.headD 0) :: more)
              else if starDigitsClose es (i + 2) then repeatOr plain
              else .error (printableSetText operand ++ ": equivalence class operand must be a single character")
          | none => repeatOr plain
        else repeatOr plain
      else plain
    else
      .ok (((List.range (es.size - min es.size i)).map (· + i)).map fun k => .byte (byteAt k))

def SetPart.size : SetPart → Nat
  | .byte _ => 1
  | .range lo hi => hi.toNat - lo.toNat + 1
  | .cls name => ((classBytes name).getD []).length
  | .equiv _ => 1
  | .repeated _ n => n

def SetPart.bytes : SetPart → List (UInt8 × Option String)
  | .byte b => [(b, none)]
  | .range lo hi => (List.range (hi.toNat - lo.toNat + 1)).map fun k => ((lo.toNat + k).toUInt8, none)
  | .cls name =>
    let tag := if name == "upper" || name == "lower" then some name else none
    ((classBytes name).getD []).map (·, tag)
  | .equiv b => [(b, none)]
  | .repeated b n => List.replicate n (b, none)

def setStream (parts : List SetPart) : List (UInt8 × Nat × Option String) :=
  (parts.zipIdx.map fun (part, i) => part.bytes.map fun (b, c) => (b, i, c)).flatten

/-- The translation table of `tr` from two sets (the second already filled out): byte for
byte in order, except that a `lower` class against an `upper` class (or the reverse) maps
every letter of one case to the other, after which both classes are passed over. `fuel`
bounds the steps. -/
def translationTable : Nat → List (UInt8 × Nat × Option String) → List (UInt8 × Nat × Option String) →
    Array UInt8 → Array UInt8
  | 0, _, _, t => t
  | fuel + 1, s1, s2, t =>
    let skip (s : List (UInt8 × Nat × Option String)) : List (UInt8 × Nat × Option String) :=
      match s with
      | (_, i, _) :: more => more.dropWhile (·.2.1 == i)
      | [] => []
    match s1, s2 with
    | (c1, _, k1) :: _, (c2, _, k2) :: _ =>
      let t := if k1 == some "lower" && k2 == some "upper" then
          (List.range 26).foldl (fun t k => t.set! (97 + k) (65 + k).toUInt8) t
        else if k1 == some "upper" && k2 == some "lower" then
          (List.range 26).foldl (fun t k => t.set! (65 + k) (97 + k).toUInt8) t
        else t.set! c1.toNat c2
      if k2.isSome then translationTable fuel (skip s1) (skip s2) t
      else translationTable fuel (s1.drop 1) (s2.drop 1) t
    | _, _ => t

/-- Whether a case class of the second set starts where the first set is not at the start of
a class too: the case classes of the two sets must stand against each other. The sets are
walked together byte by byte, a case class of the second set and the element against it
passed over whole. `fuel` bounds the steps. -/
def caseClassesMisaligned : Nat → List (UInt8 × Nat × Option String) → List (UInt8 × Nat × Option String) →
    Bool → Bool → Bool
  | 0, _, _, _, _ => false
  | fuel + 1, s1, s2, new1, new2 =>
    match s2 with
    | [] => false
    | (_, i2, k2) :: more2 =>
      match s1 with
      | [] => new2 && k2.isSome
      | (_, i1, k1) :: more1 =>
        if new2 && k2.isSome && !(new1 && k1.isSome) then true
        else if k2.isSome then
          caseClassesMisaligned fuel (more1.dropWhile (·.2.1 == i1)) (more2.dropWhile (·.2.1 == i2)) true true
        else
          let new1 := match more1.head? with
            | some (_, j, _) => j != i1
            | none => true
          let new2 := match more2.head? with
            | some (_, j, _) => j != i2
            | none => true
          caseClassesMisaligned fuel more1 more2 new1 new2

/-- What `tr` does with its two sets: the bytes of the first (complemented when asked), the
bytes whose runs it squeezes, and the translation table. -/
structure TrPlan where
  set1 : List UInt8
  squeezeSet : List UInt8
  table : Array UInt8

def partsBytes (parts : List SetPart) : List UInt8 :=
  (setStream parts).map (·.1)

/-- Checks the two sets as `tr` does and works out what it will do, or the message that
refuses them. A repeat without a count in the second set fills it out to the length of the
first; when translating, a shorter second set is extended by its last byte unless `-t` cuts
the first. -/
def trPlan (complement truncate translating twoSets : Bool) (parts1 parts2 : List SetPart) :
    Except String TrPlan := do
  let bytes1 := partsBytes parts1
  let all := (List.range 256).map (·.toUInt8)
  let set1 := if complement then all.filter fun b => !bytes1.contains b else bytes1
  let len1 := if complement then set1.length else (parts1.map SetPart.size).foldl (· + ·) 0
  let indefinite := fun (parts : List SetPart) => parts.countP fun
    | .repeated _ 0 => true
    | _ => false
  if indefinite parts1 > 0 then throw "the [c*] repeat construct may not appear in string1"
  if !twoSets then
    return { set1, squeezeSet := set1, table := all.toArray }
  let len2 := (parts2.map SetPart.size).foldl (· + ·) 0
  let parts2 := if len1 ≥ len2 && indefinite parts2 == 1 then
      parts2.map fun
        | .repeated b 0 => .repeated b (len1 - len2)
        | part => part
    else parts2
  let len2 := (parts2.map SetPart.size).foldl (· + ·) 0
  if indefinite parts2 > 1 then throw "only one [c*] repeat construct may appear in string2"
  if !translating then
    if indefinite parts2 > 0 then throw "the [c*] construct may appear in string2 only when translating"
    return { set1, squeezeSet := partsBytes parts2, table := all.toArray }
  let isClass := fun (part : SetPart) => match part with
    | .cls _ => true
    | _ => false
  if parts2.any fun part => match part with
      | .equiv _ => true
      | _ => false then
    throw "[=c=] expressions may not appear in string2 when translating"
  if parts2.any fun part => match part with
      | .cls name => name != "upper" && name != "lower"
      | _ => false then
    throw "when translating, the only character classes that may appear in\nstring2 are 'upper' and 'lower'"
  let stream1 := setStream parts1
  if !complement && parts2.any isClass then
    let stream2 := setStream parts2
    if caseClassesMisaligned (stream1.length + stream2.length + 1) stream1 stream2 true true then
      throw "misaligned [:upper:] and/or [:lower:] construct"
  let parts2 ← if len1 > len2 && !truncate then
      if len2 == 0 then throw "when not truncating set1, string2 must be non-empty"
      else
        match parts2.getLast? with
        | some (.byte b) => pure (parts2 ++ [.repeated b (len1 - len2)])
        | some (.range _ hi) => pure (parts2 ++ [.repeated hi (len1 - len2)])
        | some (.repeated b _) => pure (parts2 ++ [.repeated b (len1 - len2)])
        | some (.equiv b) => pure (parts2 ++ [.repeated b (len1 - len2)])
        | _ => throw "when translating with string1 longer than string2,\nthe latter string must not end with a character class"
    else pure parts2
  let bytes2 := partsBytes parts2
  if complement && parts1.any isClass then
    let homogeneous := match bytes2 with
      | b :: more => more.all (· == b)
      | [] => false
    if !(bytes2.length == len1 && homogeneous) then
      throw "when translating with complemented character classes,\nstring2 must map all characters in the domain to one"
  let table := if complement then
      ((set1.zip bytes2).foldl (fun (t : Array UInt8) (a, b) => t.set! a.toNat b) all.toArray)
    else
      let stream2 := setStream parts2
      translationTable (stream1.length + stream2.length + 1) stream1 stream2 all.toArray
  return { set1, squeezeSet := bytes2, table }

def squeezeRuns (set : List UInt8) (bytes : List UInt8) : List UInt8 :=
  (bytes.splitBy fun a b => a == b && set.contains a).flatMap fun g =>
    if set.contains (g.headD 0) then [g.headD 0] else g

def trProgram : Program := fun _ p => do
  let spec : OptSpec := {
    shorts := [('c', .none), ('C', .none), ('d', .none), ('s', .none), ('t', .none)]
    longs := [⟨"complement", .none, "c"⟩, ⟨"delete", .none, "d"⟩, ⟨"squeeze-repeats", .none, "s"⟩,
      ⟨"truncate-set1", .none, "t"⟩] }
  match ← trManual.options p spec p.args with
  | .error e => usageError p e
  | .ok parsed =>
    let complement := parsed.has "c" || parsed.has "C"
    let delete := parsed.has "d"
    let squeeze := parsed.has "s"
    let ops := parsed.operands
    let translating := ops.length == 2 && !delete
    let minOps := if delete == squeeze then 2 else 1
    let maxOps := if !delete || squeeze then 2 else 1
    if ops.length < minOps then
      if ops.isEmpty then complain p "missing operand"
      else
        complain p ("missing operand after " ++ localeQuote (ops.getLastD ""))
        Sys.say p 2 (if squeeze then "Two strings must be given when both deleting and squeezing repeats.\n"
          else "Two strings must be given when translating.\n")
      tryHelp p
    else if maxOps < ops.length then
      complain p ("extra operand " ++ localeQuote (ops.getD maxOps ""))
      if ops.length == 2 then
        Sys.say p 2 "Only one string may be given when deleting without squeezing repeats.\n"
      tryHelp p
    else
      let text1 := (ops.headD "").toUTF8.toList
      let text2 := (ops.getD 1 "").toUTF8.toList
      let (chars1, warnings1) := unquoteSet (text1.length + 1) text1
      for w in warnings1 do complain p w
      match setParts chars1.toArray (chars1.length + 1) 0 with
      | .error e => complain p e; return 1
      | .ok parts1 =>
      let (chars2, warnings2) := if ops.length == 2 then unquoteSet (text2.length + 1) text2 else ([], [])
      for w in warnings2 do complain p w
      match (if ops.length == 2 then setParts chars2.toArray (chars2.length + 1) 0 else .ok []) with
      | .error e => complain p e; return 1
      | .ok parts2 =>
      match trPlan complement (parsed.has "t") translating (ops.length == 2) parts1 parts2 with
      | .error e => complain p e; return 1
      | .ok plan =>
        match ← Sys.readRest p 0 with
        | .error e => complain p ("read error: " ++ e.description); return 1
        | .ok feed =>
          if translating then
            let mapBytes := fun (bs : ByteArray) => ByteArray.mk (bs.data.map fun b => plan.table[b.toNat]!)
            if squeeze then
              let data ← finiteOrHang feed
              emit p (ByteArray.mk (squeezeRuns plan.squeezeSet (mapBytes data).toList).toArray)
              return 0
            else
              emit p (mapBytes feed.head)
              if feed.isEndless then throw (.endless 1 (mapBytes feed.cycle))
              return 0
          else
            let data ← finiteOrHang feed
            let kept := if delete then data.toList.filter fun b => !plan.set1.contains b else data.toList
            let out := if squeeze then squeezeRuns plan.squeezeSet kept else kept
            emit p (ByteArray.mk out.toArray)
            return 0

end Pipework.Tools
