import Pipework.Tools.Basic
import Pipework.Binary.Nearest

/-! `printf`: a format with backslash escapes and `%` conversions, applied to the arguments again
and again until they are used up. -/

namespace Pipework.Tools

open Pipework.Host Pipework.Binary

/-- The two dialects of `printf`. -/
inductive Dialect where
  /-- The stand-alone program. -/
  | program
  /-- The command built into the shell. -/
  | builtin
  deriving Repr, DecidableEq, Inhabited

def Dialect.flagChars : Dialect → List Char
  | .program => "I'-+ #0".toList
  | .builtin => "#-+ 0".toList

def Dialect.binaryDigits : Dialect → Nat
  | .program => 64
  | .builtin => 53

def Dialect.maxExponent : Dialect → Nat
  | .program => 16384
  | .builtin => 1024

def Dialect.minExponent : Dialect → Nat
  | .program => 16382
  | .builtin => 1022

def Dialect.lowestPlace (dialect : Dialect) : Int :=
  -((dialect.minExponent + dialect.binaryDigits - 1 : Nat) : Int)

def Dialect.leadBits : Dialect → Nat
  | .program => 4
  | .builtin => 1

/-- A conversion of the format: its flags, field width, precision and letter. -/
structure Directive where
  flags : List Char := []
  width : Option Nat := none
  precision : Option Nat := none
  letter : Char
  /-- The text of the directive, for messages. -/
  text : String

/-- How reading a number argument went. -/
inductive NumberRead where
  | whole
  | partly
  | none
  | outOfRange
  deriving Repr, DecidableEq, Inhabited

def isCSpace (c : Char) : Bool :=
  c == ' ' || c == '\t' || c == '\n' || c == '\x0b' || c == '\x0c' || c == '\r'

def digitsIn (base : Nat) : List Char → Nat → Nat → Nat × Nat × List Char
  | c :: cs, v, n =>
    let d := if c.isDigit then c.toNat - 48
      else if 'a' ≤ c && c ≤ 'z' then c.toNat - 87
      else if 'A' ≤ c && c ≤ 'Z' then c.toNat - 55 else 99
    if d < base then digitsIn base cs (v * base + d) (n + 1) else (v, n, c :: cs)
  | [], v, n => (v, n, [])

/-- Reads an integer as `strtoimax` with base 0 does: blanks, a sign, then hexadecimal after
`0x`, octal after `0`, decimal otherwise. Gives the sign, the magnitude, whether any digit
was read, and the rest. -/
def readCInteger (s : String) : Bool × Nat × Bool × List Char :=
  let cs := s.toList.dropWhile isCSpace
  let (neg, cs) := match cs with
    | '-' :: r => (true, r)
    | '+' :: r => (false, r)
    | r => (false, r)
  match cs with
  | '0' :: x :: h :: r =>
    if (x == 'x' || x == 'X') && isHexDigit h then
      let (v, _, rest) := digitsIn 16 (h :: r) 0 0
      (neg, v, true, rest)
    else
      let (v, _, rest) := digitsIn 8 (x :: h :: r) 0 0
      (neg, v, true, rest)
  | '0' :: r =>
    let (v, _, rest) := digitsIn 8 r 0 0
    (neg, v, true, rest)
  | r =>
    let (v, n, rest) := digitsIn 10 r 0 0
    (neg, v, n > 0, rest)

def intMax : Nat := Nat.pow 2 63 - 1

/-- How reading a number went, from whether any digit was read, whether the value was in
range, and the text left over. The program puts a range error first, the builtin text left
over. -/
def Dialect.numberRead (dialect : Dialect) (any inRange : Bool) (rest : List Char) : NumberRead :=
  let left := if rest.isEmpty then NumberRead.whole else if any then .partly else .none
  match dialect with
  | .program => if inRange then left else .outOfRange
  | .builtin => if inRange || left != .whole then left else .outOfRange

/-- The code that a leading quote asks for: the first byte after the quote, with the bytes
after it. The program needs a byte after the quote and warns about the bytes after it; the
builtin reads a lone quote as zero and ignores what follows. -/
def quotedCode? (dialect : Dialect) (s : String) : Option (Nat × ByteArray) :=
  match s.toList with
  | q :: rest =>
    if q == '\'' || q == '"' then
      let bytes := (String.ofList rest).toUTF8
      match dialect, bytes.toList with
      | .program, b :: more => some (b.toNat, ByteArray.mk more.toArray)
      | .program, [] => none
      | .builtin, b :: _ => some (b.toNat, .empty)
      | .builtin, [] => some (0, .empty)
    else none
  | [] => none

def signedArg (dialect : Dialect) (s : String) : Int × NumberRead × ByteArray :=
  match quotedCode? dialect s with
  | some (code, extra) => (code, .whole, extra)
  | none =>
    let (neg, v, any, rest) := readCInteger s
    let limit := if neg then intMax + 1 else intMax
    let value : Int := if v > limit then (if neg then -(limit : Int) else limit)
      else if neg then -(v : Int) else v
    (value, dialect.numberRead any (v ≤ limit) rest, .empty)

def unsignedArg (dialect : Dialect) (s : String) : Nat × NumberRead × ByteArray :=
  match quotedCode? dialect s with
  | some (code, extra) => (code, .whole, extra)
  | none =>
    let (neg, v, any, rest) := readCInteger s
    let value := if v ≥ Nat.pow 2 64 then Nat.pow 2 64 - 1
      else if neg && v != 0 then Nat.pow 2 64 - v else v
    (value, dialect.numberRead any (v < Nat.pow 2 64) rest, .empty)

def Dialect.numberMessage (dialect : Dialect) (arg : String) (how : NumberRead) : String :=
  match dialect, how with
  | .program, .partly => localeQuote arg ++ ": value not completely converted"
  | .program, .none => localeQuote arg ++ ": expected a numeric value"
  | .builtin, .partly => arg ++ ": not completely converted"
  | .builtin, .none => arg ++ ": expected numeric value"
  | .program, _ => localeQuote arg ++ ": Numerical result out of range"
  | .builtin, _ => arg ++ ": Numerical result out of range"

def reportNumber (dialect : Dialect) (p : Proc) (arg : String) : NumberRead × ByteArray → Sys Bool
  | (.whole, extra) => do
    if !extra.isEmpty then
      let _ ← Sys.write p 2 ((p.name ++ ": warning: ").toUTF8 ++ extra ++
        ": character(s) following character constant have been ignored\n".toUTF8)
    return false
  | (how, _) => do complain p (dialect.numberMessage arg how); return true

def padField (d : Directive) (body : ByteArray) : ByteArray :=
  match d.width with
  | none => body
  | some w =>
    if body.size ≥ w then body
    else
      let fill := ByteArray.mk (Array.replicate (w - body.size) 32)
      if d.flags.contains '-' then body ++ fill else fill ++ body

def layNumber (d : Directive) (sign : String) (digits : String) (zeroPadAllowed : Bool) : ByteArray :=
  let body := sign ++ digits
  match d.width with
  | some w =>
    if d.flags.contains '0' && !d.flags.contains '-' && zeroPadAllowed && body.length < w then
      (sign ++ String.ofList (List.replicate (w - body.length) '0') ++ digits).toUTF8
    else padField d body.toUTF8
  | none => body.toUTF8

def baseDigits (base : Nat) (upper : Bool) (n : Nat) : String :=
  let ds := Nat.toDigits base n
  String.ofList (if upper then ds.map Char.toUpper else ds)

def withPrecision (precision : Option Nat) (digits : String) (isZero : Bool) : String :=
  match precision with
  | none => digits
  | some 0 => if isZero then "" else digits
  | some n => if digits.length < n then String.ofList (List.replicate (n - digits.length) '0') ++ digits else digits

def formatSigned (d : Directive) (v : Int) : ByteArray :=
  let digits := withPrecision d.precision (toString v.natAbs) (v == 0)
  let sign := if v < 0 then "-" else if d.flags.contains '+' then "+"
    else if d.flags.contains ' ' then " " else ""
  layNumber d sign digits d.precision.isNone

def formatUnsigned (d : Directive) (v : Nat) : ByteArray :=
  let base := match d.letter with
    | 'o' => 8
    | 'x' | 'X' => 16
    | _ => 10
  let raw := baseDigits base (d.letter == 'X') v
  let digits := withPrecision d.precision raw (v == 0)
  let digits := if d.letter == 'o' && d.flags.contains '#' && !digits.startsWith "0" then "0" ++ digits
    else digits
  let prefixText := if d.flags.contains '#' && v != 0 then
      (if d.letter == 'x' then "0x" else if d.letter == 'X' then "0X" else "") else ""
  layNumber d prefixText digits d.precision.isNone

/-! ### Floating conversions -/

/-- A finite nonnegative value as an exact fraction, or an infinity or not-a-number. -/
inductive Magnitude where
  | finite (num den : Nat)
  | infinity
  | notANumber

def readExponent (mark : Char → Bool) (cs : List Char) : Int × List Char :=
  match cs with
  | e :: r =>
    if mark e then
      let (eneg, r') := match r with
        | '-' :: r'' => (true, r'')
        | '+' :: r'' => (false, r'')
        | r'' => (false, r'')
      let (ev, en, r'') := digitsIn 10 r' 0 0
      if en == 0 then (0, e :: r) else ((if eneg then -(ev : Int) else ev), r'')
    else (0, e :: r)
  | [] => (0, [])

def scaledMagnitude (mantissa base : Nat) (scale : Int) : Magnitude :=
  if scale ≥ 0 then .finite (mantissa * Nat.pow base scale.toNat) 1
  else .finite mantissa (Nat.pow base (-scale).toNat)

def isNanChar (c : Char) : Bool :=
  c.isAlphanum || c == '_'

def afterNan (cs : List Char) : List Char :=
  match cs with
  | '(' :: r =>
    let inside := r.takeWhile isNanChar
    match r.drop inside.length with
    | ')' :: rest => rest
    | _ => cs
  | _ => cs

/-- Reads a floating argument as `strtold` does (decimal with an optional exponent,
hexadecimal after `0x` with an optional binary exponent, `inf`, `infinity`, or `nan` with an
optional parenthesized tail): its sign, its value, whether anything was read, and what is
left. -/
def readCFloat (s : String) : Bool × Magnitude × Bool × List Char :=
  let cs := s.toList.dropWhile isCSpace
  let (neg, cs) := match cs with
    | '-' :: r => (true, r)
    | '+' :: r => (false, r)
    | r => (false, r)
  let lower := cs.map Char.toLower
  if lower.take 8 == "infinity".toList then (neg, .infinity, true, cs.drop 8)
  else if lower.take 3 == "inf".toList then (neg, .infinity, true, cs.drop 3)
  else if lower.take 3 == "nan".toList then (neg, .notANumber, true, afterNan (cs.drop 3))
  else
    let hex := match cs with
      | '0' :: x :: r =>
        if x == 'x' || x == 'X' then
          let (whole, n1, rest) := digitsIn 16 r 0 0
          let (frac, n2, rest) := match rest with
            | '.' :: r' => digitsIn 16 r' 0 0
            | r' => (0, 0, r')
          if n1 + n2 == 0 then none
          else
            let (expo, rest) := readExponent (fun c => c == 'p' || c == 'P') rest
            some (scaledMagnitude (whole * Nat.pow 16 n2 + frac) 2 (expo - 4 * n2), rest)
        else none
      | _ => none
    match hex with
    | some (value, rest) => (neg, value, true, rest)
    | none =>
      let (whole, n1, rest) := digitsIn 10 cs 0 0
      let (frac, n2, rest) := match rest with
        | '.' :: r => digitsIn 10 r 0 0
        | r => (0, 0, r)
      if n1 + n2 == 0 then (neg, .finite 0 1, false, s.toList)
      else
        let (expo, rest) := readExponent (fun c => c == 'e' || c == 'E') rest
        (neg, scaledMagnitude (whole * Nat.pow 10 n2 + frac) 10 (expo - n2), true, rest)

def fixedDigits (num den prec : Nat) : String :=
  let scaled := roundHalfEven (num * Nat.pow 10 prec) den
  let s := toString scaled
  let s := if s.length ≤ prec then String.ofList (List.replicate (prec + 1 - s.length) '0') ++ s else s
  let intPart := (s.take (s.length - prec)).toString
  let fracPart := (s.drop (s.length - prec)).toString
  if prec == 0 then intPart else intPart ++ "." ++ fracPart

def decimalExponent (num den : Nat) : Int :=
  let guess : Int := (toString (num / den)).length - 1
  if num ≥ den then guess
  else
    let rec go (fuel : Nat) (k : Nat) : Int :=
      match fuel with
      | 0 => -(k : Int)
      | fuel + 1 => if num * Nat.pow 10 k ≥ den then -(k : Int) else go fuel (k + 1)
    go (bitLength den + 4) 1

def scientificParts (num den prec : Nat) : String × Int :=
  let x := decimalExponent num den
  let exact (x : Int) : Nat :=
    let p : Int := prec - x
    if p ≥ 0 then roundHalfEven (num * Nat.pow 10 p.toNat) den else roundHalfEven num (den * Nat.pow 10 (-p).toNat)
  let m := exact x
  let (m, x) := if m ≥ Nat.pow 10 (prec + 1) then (exact (x + 1), x + 1) else (m, x)
  (toString m, x)

def exponentText (upper : Bool) (x : Int) : String :=
  let digits := toString x.natAbs
  let digits := if digits.length < 2 then "0" ++ digits else digits
  (if upper then "E" else "e") ++ (if x < 0 then "-" else "+") ++ digits

def eStyle (num den prec : Nat) (upper keepPoint : Bool) : String :=
  if num == 0 then
    (if prec == 0 then "0" ++ (if keepPoint then "." else "") else "0." ++ String.ofList (List.replicate prec '0')) ++
      exponentText upper 0
  else
    let (m, x) := scientificParts num den prec
    let body := if prec == 0 then m ++ (if keepPoint then "." else "")
      else (m.take 1).toString ++ "." ++ (m.drop 1).toString
    body ++ exponentText upper x

def trimZeros (s : String) : String :=
  if !s.contains '.' then s
  else
    let t := (s.toList.reverse.dropWhile (· == '0')).reverse
    let t := if t.getLast? == some '.' then t.dropLast else t
    String.ofList t

def gStyle (num den prec : Nat) (upper alt : Bool) : String :=
  let p := if prec == 0 then 1 else prec
  if num == 0 then
    if alt then "0." ++ String.ofList (List.replicate (p - 1) '0') else "0"
  else
    let (_, x) := scientificParts num den (p - 1)
    if x < p && x ≥ -4 then
      let s := fixedDigits num den (p - 1 - x).toNat
      if alt then s else trimZeros s
    else
      let s := eStyle num den (p - 1) upper alt
      if alt then s
      else
        match s.splitOn (if upper then "E" else "e") with
        | [m, e] => trimZeros m ++ (if upper then "E" else "e") ++ e
        | _ => s

def hexDigits (upper : Bool) (width n : Nat) : String :=
  let ds := baseDigits 16 upper n
  String.ofList (List.replicate (width - ds.length) '0') ++ ds

/-- Formats a value `m · 2^e` (or zero) in `%a` style, after the sign and the `0x` mark: the
first `lead` of the mantissa's `digits` binary digits make the digit before the point, the
rest the hexadecimal digits after it (all of them without trailing zeros, or rounded to the
precision), then the power of two. When rounding carries the digit before the point past
`f`, it becomes `1` and the power grows by four. -/
def hexStyle (digits lead : Nat) (m : Nat) (e : Int) (prec : Option Nat) (upper alt : Bool) : String :=
  let fracBits := digits - lead
  let places := fracBits / 4
  let (first, frac, power) : Nat × Nat × Int :=
    if m == 0 then (0, 0, 0) else (m / Nat.pow 2 fracBits, m % Nat.pow 2 fracBits, e + fracBits)
  let (first, fracText) := match prec with
    | none =>
      let text := hexDigits upper places frac
      (first, String.ofList (text.toList.reverse.dropWhile (· == '0')).reverse)
    | some p =>
      if p ≥ places then (first, hexDigits upper places frac ++ String.ofList (List.replicate (p - places) '0'))
      else
        let kept := roundHalfEven (first * Nat.pow 2 fracBits + frac) (Nat.pow 16 (places - p))
        (kept / Nat.pow 16 p, if p == 0 then "" else hexDigits upper p (kept % Nat.pow 16 p))
  let (first, power) := if first ≥ 16 then (1, power + 4) else (first, power)
  let point := if fracText.isEmpty && !alt then "" else "."
  baseDigits 16 upper first ++ point ++ fracText ++ (if upper then "P" else "p") ++
    (if power < 0 then "-" else "+") ++ toString power.natAbs

def formatFloat (dialect : Dialect) (d : Directive) (neg : Bool) (value : Magnitude) : ByteArray :=
  let upper := d.letter == 'E' || d.letter == 'F' || d.letter == 'G' || d.letter == 'A'
  let sign := if neg then "-" else if d.flags.contains '+' then "+"
    else if d.flags.contains ' ' then " " else ""
  match value with
  | .infinity => padField d (sign ++ (if upper then "INF" else "inf")).toUTF8
  | .notANumber => padField d (sign ++ (if upper then "NAN" else "nan")).toUTF8
  | .finite n dn =>
    let prec := d.precision.getD 6
    let alt := d.flags.contains '#'
    match d.letter with
    | 'a' | 'A' =>
      let (m, e) := if n == 0 then (0, 0) else nearestParts dialect.binaryDigits dialect.lowestPlace n dn
      layNumber d (sign ++ (if upper then "0X" else "0x"))
        (hexStyle dialect.binaryDigits dialect.leadBits m e d.precision upper alt) true
    | 'e' | 'E' => layNumber d sign (eStyle n dn prec upper alt) true
    | 'g' | 'G' => layNumber d sign (gStyle n dn prec upper alt) true
    | _ =>
      let s := fixedDigits n dn prec
      layNumber d sign (if alt && prec == 0 then s ++ "." else s) true

def floatArg (dialect : Dialect) (arg : String) : Bool × Magnitude × NumberRead × ByteArray :=
  match quotedCode? dialect arg with
  | some (code, extra) => (false, .finite code 1, .whole, extra)
  | none =>
    let (neg, value, any, rest) := if arg.isEmpty then (false, Magnitude.finite 0 1, true, [])
      else readCFloat arg
    match value with
    | .finite num den =>
      if num == 0 then (neg, .finite 0 1, dialect.numberRead any true rest, .empty)
      else
        let (m, e) := nearestParts dialect.binaryDigits dialect.lowestPlace num den
        let top := e + bitLength m
        if top > dialect.maxExponent then
          (neg, .infinity, dialect.numberRead any false rest, .empty)
        else
          let (n, d) := partsValue m e
          (neg, .finite n d, dialect.numberRead any (top > -(dialect.minExponent : Int)) rest, .empty)
    | other => (neg, other, dialect.numberRead any true rest, .empty)

/-! ### The format -/

/-- A `\u` or `\U` escape after its letter, for the program: exactly `width` hexadecimal
digits naming a character. A control character, a surrogate, or an ASCII character other than
`$`, `@` and the backquote is refused; other ASCII characters are written as themselves, and
any other character (which the plain C locale cannot write) as the escape again, its digits
in upper case. The builtin knows no such escape. -/
def universalEscape (dialect : Dialect) (letter : Char) (width : Nat) (cs : List Char) :
    ByteArray × List Char × Bool × Option String :=
  match dialect with
  | .builtin => (byteOf 92, letter :: cs, false, none)
  | .program =>
    let ds := cs.take width
    if ds.length < width || !ds.all isHexDigit then
      (.empty, cs, true, some "missing hexadecimal number in escape")
    else
      let v := ds.foldl (fun v c => v * 16 + hexValue c) 0
      let rest := cs.drop width
      if (v ≤ 0x9f && v != 0x24 && v != 0x40 && v != 0x60) || (0xd800 ≤ v && v ≤ 0xdfff) then
        (.empty, rest, true,
          some ("invalid universal character name \\" ++ String.singleton letter ++ hexDigits false width v))
      else if v < 0x80 then (byteOf v, rest, false, none)
      else
        ((if v < 0x10000 then "\\u" ++ hexDigits true 4 v else "\\U" ++ hexDigits true 8 v).toUTF8,
          rest, false, none)

/-- One escape of the format after its backslash (`\c` asks to stop). With `octalZero`, as
in `%b` arguments, an octal escape may start with an extra `0`. Gives the bytes, the rest,
whether to stop, and a message for a bad escape.

The program also knows `\x` with one or two hexadecimal digits, `\"` and `\c`; any other
character after the backslash is kept with it. The builtin knows only octal escapes and the
letters; after any other character it writes the backslash and reads that character anew. -/
def formatEscape (dialect : Dialect) (octalZero : Bool) : List Char → ByteArray × List Char × Bool × Option String
  | 'u' :: cs => universalEscape dialect 'u' 4 cs
  | 'U' :: cs => universalEscape dialect 'U' 8 cs
  | 'x' :: cs =>
    match dialect with
    | .builtin => (byteOf 92, 'x' :: cs, false, none)
    | .program =>
      let hex := cs.takeWhile isHexDigit |>.take 2
      if hex.isEmpty then (.empty, cs, true, some "missing hexadecimal number in escape")
      else (byteOf (hex.foldl (fun v c => v * 16 + hexValue c) 0), cs.drop hex.length, false, none)
  | c :: cs =>
    if isOctalDigit c then
      let body := if octalZero && c == '0' && (dialect == .program || (cs.head?.map isOctalDigit).getD false)
        then cs else c :: cs
      let (v, rest) := octalRun 3 0 body
      (byteOf v, rest, false, none)
    else match c with
      | '\\' => (byteOf 92, cs, false, none)
      | 'a' => (byteOf 7, cs, false, none)
      | 'b' => (byteOf 8, cs, false, none)
      | 'e' => (byteOf 27, cs, false, none)
      | 'f' => (byteOf 12, cs, false, none)
      | 'n' => (byteOf 10, cs, false, none)
      | 'r' => (byteOf 13, cs, false, none)
      | 't' => (byteOf 9, cs, false, none)
      | 'v' => (byteOf 11, cs, false, none)
      | _ =>
        match dialect, c with
        | .program, '"' => (byteOf 34, cs, false, none)
        | .program, 'c' => (.empty, cs, true, none)
        | .program, _ => ((byteOf 92) ++ charBytes c, cs, false, none)
        | .builtin, _ => (byteOf 92, c :: cs, false, none)
  | [] => (byteOf 92, [], false, none)

/-- How expanding the escapes of a `%b` argument ended. -/
inductive ArgEnd where
  /-- The whole argument was expanded. -/
  | whole
  /-- `\c` stopped all output. -/
  | stop
  /-- An escape was bad; the process ends. -/
  | bad (message : String)

def expandArgEscapes (dialect : Dialect) : Nat → List Char → ByteArray → ByteArray × ArgEnd
  | 0, _, acc => (acc, .whole)
  | _ + 1, [], acc => (acc, .whole)
  | _ + 1, '\\' :: 'c' :: _, acc => (acc, .stop)
  | fuel + 1, '\\' :: cs, acc =>
    match formatEscape dialect true cs with
    | (_, _, _, some message) => (acc, .bad message)
    | (bytes, rest, _, none) => expandArgEscapes dialect fuel rest (acc ++ bytes)
  | fuel + 1, c :: cs, acc => expandArgEscapes dialect fuel cs (acc ++ charBytes c)

/-- What a pass over the format ended with. -/
inductive PassEnd where
  /-- The format ended; this many arguments were used. -/
  | done (used : Nat)
  /-- Output stopped for good (`\c`). -/
  | stop
  /-- The format was bad; the process ends with this status. -/
  | fatal (status : Nat)

/-- Reads the flags, width, precision and (for the program) length letters of a directive
after its `%`. Gives the directive (with `*` fields taken from the arguments: a negative
width asks for left alignment, a negative precision for none), the rest of the format, the
arguments left and the arguments the `*` fields read; none when the format ends first. -/
def readDirective (dialect : Dialect) (cs : List Char) (args : List String) :
    Option (Directive × List Char × List String × List String) :=
  let flags := cs.takeWhile dialect.flagChars.contains
  let cs := cs.drop flags.length
  let (flags, width, cs, args, starred) : List Char × Option Nat × List Char × List String × List String :=
    match cs with
    | '*' :: r =>
      match args with
      | a :: more =>
        let w := (signedArg dialect a).1
        (if w < 0 then flags ++ ['-'] else flags, some w.natAbs, r, more, [a])
      | [] => (flags, some 0, r, [], [])
    | _ =>
      let ds := cs.takeWhile Char.isDigit
      (flags, if ds.isEmpty then none else some (String.ofList ds).toNat!, cs.drop ds.length, args, [])
  let (precision, cs, args, starred) : Option Nat × List Char × List String × List String :=
    match cs with
    | '.' :: '*' :: r =>
      match args with
      | a :: more =>
        let p := (signedArg dialect a).1
        (if p < 0 then none else some p.toNat, r, more, starred ++ [a])
      | [] => (some 0, r, [], starred)
    | '.' :: r =>
      let ds := r.takeWhile Char.isDigit
      (some (if ds.isEmpty then 0 else (String.ofList ds).toNat!), r.drop ds.length, args, starred)
    | _ => (none, cs, args, starred)
  let cs := match dialect with
    | .program => cs.dropWhile fun c => "lLhjtz".contains c
    | .builtin => cs
  match cs with
  | c :: rest => some ({ flags, width, precision, letter := c, text := "" }, rest, args, starred)
  | [] => none

def nextArg : List String → String × List String
  | a :: rest => (a, rest)
  | [] => ("", [])

def convert (dialect : Dialect) (p : Proc) (d : Directive) (arg : String) : Sys (Bool × Bool) := do
  match d.letter with
  | 's' =>
    let bytes := arg.toUTF8
    let bytes := match d.precision with
      | some n => bytes.extract 0 n
      | none => bytes
    emit p (padField d bytes); return (false, false)
  | 'b' =>
    let (bytes, ending) := expandArgEscapes dialect (arg.length + 1) arg.toList .empty
    let bytes := match d.precision with
      | some n => bytes.extract 0 n
      | none => bytes
    emit p (padField d bytes)
    match ending with
    | .whole => return (false, false)
    | .stop => return (false, true)
    | .bad message => complain p message; return (true, true)
  | 'c' =>
    let b := arg.toUTF8
    emit p (padField d (if b.isEmpty then byteOf 0 else b.extract 0 1)); return (false, false)
  | 'd' | 'i' =>
    let (v, how, extra) := signedArg dialect arg
    emit p (formatSigned d v)
    let bad ← reportNumber dialect p arg (how, extra)
    return (bad, false)
  | 'o' | 'u' | 'x' | 'X' =>
    let (v, how, extra) := unsignedArg dialect arg
    emit p (formatUnsigned d v)
    let bad ← reportNumber dialect p arg (how, extra)
    return (bad, false)
  | _ =>
    let (neg, value, how, extra) := floatArg dialect arg
    emit p (formatFloat dialect d neg value)
    let bad ← reportNumber dialect p arg (how, extra)
    return (bad, false)

def reportStarred (dialect : Dialect) (p : Proc) : List String → Sys Bool
  | [] => pure false
  | a :: more => do
    let (_, how, _) := signedArg dialect a
    let bad ← reportNumber dialect p a (how, .empty)
    let badLater ← reportStarred dialect p more
    return bad || badLater

/-- Whether a directive's letter may follow its flags. The builtin takes every conversion
letter. The program takes `%b` and `%q` only without flags, and refuses the flags that do not
apply: grouping for a letter that does not group, `#` for one it does not change, `0` for one
that is not a number. -/
def Dialect.accepts (dialect : Dialect) (flags : List Char) (letter : Char) : Bool :=
  match dialect with
  | .builtin => "diouxXfFeEgGaAcsb".contains letter
  | .program =>
    "aAcdeEfFgGiosuxX".contains letter
      && !((flags.contains 'I' || flags.contains (Char.ofNat 39)) && "aAceEosxX".contains letter)
      && !(flags.contains '#' && "cdisu".contains letter)
      && !(flags.contains '0' && "cs".contains letter)

def refuseDirective (dialect : Dialect) (p : Proc) (text : String) : Sys PassEnd := do
  match dialect with
  | .program =>
    complain p ("%" ++ text ++ ": invalid conversion specification")
    pure (.fatal 1)
  | .builtin =>
    complain p ("%" ++ text ++ ": invalid directive")
    pure (.fatal 2)

/-- What a pass does after a directive: end, or go on with the rest of the format, the
arguments left, the count of arguments used and whether a number was bad. -/
abbrev AfterDirective := Except (PassEnd × Bool) (List Char × List String × Nat × Bool)

def directive (dialect : Dialect) (p : Proc) (cs : List Char) (args : List String) (used : Nat)
    (failed : Bool) : Sys AfterDirective := do
  match readDirective dialect cs args with
  | none =>
    match dialect with
    | .program => pure (.error (← refuseDirective dialect p (String.ofList cs), failed))
    | .builtin =>
      complain p "missing format character"
      pure (.error (.fatal 2, failed))
  | some (d, rest, argsLeft, starred) =>
    let starBad ← reportStarred dialect p starred
    if dialect.accepts d.flags d.letter then
      let (arg, argsAfter) := nextArg argsLeft
      let taken := if argsLeft.isEmpty then 0 else 1
      let (bad, stop) ← convert dialect p d arg
      let failed := failed || starBad || bad
      if stop then pure (.error (.stop, failed))
      else pure (.ok (rest, argsAfter, used + starred.length + taken, failed))
    else
      let shown := cs.take (cs.length - rest.length)
      pure (.error (← refuseDirective dialect p (String.ofList shown), failed || starBad))

def bareDirective (p : Proc) (letter : Char) (cs : List Char) (args : List String) (used : Nat)
    (failed : Bool) : Sys AfterDirective := do
  match args with
  | [] => pure (.ok (cs, args, used, failed))
  | a :: more =>
    if letter == 'q' then
      emit p (shellQuotedIfNeeded false a).toUTF8
      pure (.ok (cs, more, used + 1, failed))
    else
      let (bytes, ending) := expandArgEscapes .program (a.length + 1) a.toList .empty
      emit p bytes
      match ending with
      | .whole => pure (.ok (cs, more, used + 1, failed))
      | .stop => pure (.error (.stop, failed))
      | .bad message => complain p message; pure (.error (.fatal 1, failed))

def formatPass (dialect : Dialect) (p : Proc) : Nat → List Char → List String → Nat → Bool → Sys (PassEnd × Bool)
  | 0, _, _, used, failed => pure (.done used, failed)
  | _ + 1, [], _, used, failed => pure (.done used, failed)
  | fuel + 1, '\\' :: cs, args, used, failed => do
    let (bytes, rest, stop, bad) := formatEscape dialect false cs
    match bad with
    | some message => complain p message; pure (.fatal 1, failed)
    | none =>
      if stop then pure (.stop, failed)
      else do emit p bytes; formatPass dialect p fuel rest args used failed
  | fuel + 1, '%' :: '%' :: cs, args, used, failed => do
    emit p (byteOf 37); formatPass dialect p fuel cs args used failed
  | fuel + 1, '%' :: cs, args, used, failed => do
    let after ← match dialect, cs with
      | .program, 'b' :: rest => bareDirective p 'b' rest args used failed
      | .program, 'q' :: rest => bareDirective p 'q' rest args used failed
      | _, _ => directive dialect p cs args used failed
    match after with
    | .error ending => pure ending
    | .ok (rest, args, used, failed) => formatPass dialect p fuel rest args used failed
  | fuel + 1, c :: cs, args, used, failed => do
    emit p (charBytes c); formatPass dialect p fuel cs args used failed

def formatRounds (dialect : Dialect) (p : Proc) (format : List Char) : Nat → List String → Bool → Sys Nat
  | 0, _, failed => pure (if failed then 1 else 0)
  | rounds + 1, args, failed => do
    let (ending, failed) ← formatPass dialect p (format.length + 1) format args 0 failed
    match ending with
    | .stop => pure (if failed && dialect == .builtin then 1 else 0)
    | .fatal status => pure status
    | .done used =>
      let rest := args.drop used
      if used > 0 && !rest.isEmpty then formatRounds dialect p format rounds rest failed
      else
        if used == 0 && !rest.isEmpty && dialect == .program then
          complain p ("warning: ignoring excess arguments, starting with " ++ localeQuote (rest.headD ""))
        pure (if failed then 1 else 0)

def printfWith (dialect : Dialect) : Program := fun _ p => do
  match dialect, p.args with
  | .program, args =>
    printfManual.lone p
    let args := match args with
      | "--" :: rest => rest
      | rest => rest
    match args with
    | [] => usageError p "missing operand"
    | format :: rest => formatRounds dialect p format.toList (rest.length + 1) rest false
  | .builtin, args =>
    let option := match args with
      | w :: _ => match w.toList with
        | ['-', '-'] => none
        | '-' :: c :: _ => some c
        | _ => none
      | [] => none
    match option with
    | some c =>
      complain p ("Illegal option -" ++ String.singleton c)
      return 2
    | none =>
    let args := match args with
      | "--" :: rest => rest
      | rest => rest
    match args with
    | [] =>
      complain p "usage: printf format [arg ...]"
      return 2
    | format :: rest => formatRounds dialect p format.toList (rest.length + 1) rest false

def printfProgram : Program := printfWith .program

end Pipework.Tools
