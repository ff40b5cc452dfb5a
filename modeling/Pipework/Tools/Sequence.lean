import Pipework.Tools.Printf

/-! `seq`: the numbers from a first to a last in equal steps. -/

namespace Pipework.Tools

open Pipework.Host

/-- A number written for `seq`: its exact value `digits / 10 ^ scale`, whether it was written
with a minus sign (which a zero keeps when printed), the digits it asks for after the point,
and the width it takes when printed. -/
structure SeqNumber where
  digits : Int
  scale : Nat
  minus : Bool := false
  precision : Int := 0
  width : Int := 1

def SeqNumber.one : SeqNumber :=
  { digits := 1, scale := 0 }

def SeqNumber.at (n : SeqNumber) (scale : Nat) : Int :=
  n.digits * Int.pow 10 (scale - n.scale)

def isCBlank (c : Char) : Bool :=
  c == ' ' || c == '\t' || c == '\n' || c == '\r' || c == '\x0b' || c == '\x0c'

def exponentPart (cs : List Char) : Option (Int × List Char) :=
  let (neg, body) := match cs with
    | '-' :: more => (true, more)
    | '+' :: more => (false, more)
    | more => (false, more)
  let ds := body.takeWhile Char.isDigit
  if ds.isEmpty then none
  else
    let v : Int := decimalValue ds
    some (if neg then -v else v, body.drop ds.length)

def readDecimal (s : String) : Option (Int × Nat × Bool) :=
  let cs := s.toList.dropWhile isCBlank
  let (neg, cs) := match cs with
    | '-' :: more => (true, more)
    | '+' :: more => (false, more)
    | more => (false, more)
  let whole := cs.takeWhile Char.isDigit
  let cs := cs.drop whole.length
  let (frac, cs) := match cs with
    | '.' :: more => let f := more.takeWhile Char.isDigit; (f, more.drop f.length)
    | more => ([], more)
  if whole.isEmpty && frac.isEmpty then none
  else
    let (power, rest) := match cs with
      | c :: more => if c == 'e' || c == 'E' then (exponentPart more).getD (0, c :: more) else (0, cs)
      | [] => (0, [])
    if !rest.isEmpty then none
    else
      let mantissa : Int := decimalValue (whole ++ frac)
      let signed := if neg then -mantissa else mantissa
      let shift : Int := (frac.length : Int) - power
      if shift ≥ 0 then some (signed, shift.toNat, neg)
      else some (signed * Int.pow 10 (-shift).toNat, 0, neg)

def isNotANumber (s : String) : Bool :=
  let cs := (s.toList.dropWhile isCBlank).dropWhile (fun c => c == '-' || c == '+')
  (String.ofList (cs.take 3)).toLower == "nan"

/-- The digits after the point and the printed width that a number's text asks for: the
digits written after the point, shifted by the exponent; the width of the text without its
exponent, with a zero before a bare point and without a point that ends the number. -/
def shapeOf (s : String) : Int × Int :=
  let cs := (s.toList.dropWhile fun c => isCBlank c || c == '+')
  let pointAt := cs.findIdx? (· == '.')
  let width0 : Int := cs.length
  let (precision, width, fracLen) := match pointAt with
    | none => ((0 : Int), width0, (0 : Int))
    | some i =>
      let fracLen : Int := ((cs.drop (i + 1)).takeWhile fun c => c != 'e' && c != 'E').length
      let extra : Int := if fracLen == 0 then -1
        else if i == 0 || !(cs.getD (i - 1) ' ').isDigit then 1 else 0
      (fracLen, width0 + extra, fracLen)
  let eAt := match cs.findIdx? (· == 'e') with
    | some i => some i
    | none => cs.findIdx? (· == 'E')
  match eAt with
  | none => (precision, width)
  | some e =>
    let power : Int := ((exponentPart (cs.drop (e + 1))).map (·.1)).getD 0
    let precision := if power < 0 then precision - power else precision - min precision power
    let width := width - ((cs.length : Int) - e)
    if power < 0 then
      let width := match pointAt with
        | some i => if e == i + 1 then width + 1 else width
        | none => width + 1
      (precision, width - power)
    else
      let width := if pointAt.isSome && precision == 0 && fracLen != 0 then width - 1 else width
      (precision, width - min precision power)

def seqNumber (s : String) : Except String SeqNumber :=
  if isNotANumber s then .error ("invalid 'not-a-number' argument: " ++ localeQuote s)
  else
    match readDecimal s with
    | none => .error ("invalid floating point argument: " ++ localeQuote s)
    | some (digits, scale, minus) =>
      let (precision, width) := shapeOf s
      .ok { digits, scale, minus, precision, width }

def fixedText (digits : Int) (scale prec : Nat) (minus : Bool) : String × String :=
  let whole := (digits.natAbs * Nat.pow 10 (prec - scale))
  let text := toString whole
  let text := if text.length ≤ prec then String.ofList (List.replicate (prec + 1 - text.length) '0') ++ text else text
  let body := if prec == 0 then text
    else (text.take (text.length - prec)).toString ++ "." ++ (text.drop (text.length - prec)).toString
  (if digits < 0 || minus then "-" else "", body)

/-- How each number is printed: by a given format (its text before and after the one
conversion, and the conversion), or with a number of digits after the point, padded with
zeros to a width when one is given. -/
inductive SeqStyle where
  | format (before after : String) (d : Directive)
  | fixed (prec : Nat) (width : Option Nat)

def formatLiteral : List Char → String
  | '%' :: '%' :: more => "%" ++ formatLiteral more
  | c :: more => String.singleton c ++ formatLiteral more
  | [] => ""

def splitAtDirective : List Char → List Char × List Char
  | '%' :: '%' :: more => let (a, b) := splitAtDirective more; ('%' :: '%' :: a, b)
  | '%' :: more => ([], '%' :: more)
  | c :: more => let (a, b) := splitAtDirective more; (c :: a, b)
  | [] => ([], [])

def hasDirective : List Char → Bool
  | '%' :: '%' :: more => hasDirective more
  | '%' :: _ => true
  | _ :: more => hasDirective more
  | [] => false

def seqFormat (fmt : String) : Except String SeqStyle :=
  let (before, rest) := splitAtDirective fmt.toList
  match rest with
  | [] => .error ("format " ++ localeQuote fmt ++ " has no % directive")
  | _ :: cs =>
    let flags := cs.takeWhile fun c => "-+#0 '".contains c
    let cs := cs.drop flags.length
    let widthDigits := cs.takeWhile Char.isDigit
    let cs := cs.drop widthDigits.length
    let (precision, cs) := match cs with
      | '.' :: more => let ds := more.takeWhile Char.isDigit; (some (decimalValue ds), more.drop ds.length)
      | more => (none, more)
    let cs := match cs with
      | 'L' :: more => more
      | more => more
    match cs with
    | [] => .error ("format " ++ localeQuote fmt ++ " ends in %")
    | letter :: after =>
      if !"efgaEFGA".contains letter then
        .error ("format " ++ localeQuote fmt ++ " has unknown %" ++ String.singleton letter ++ " directive")
      else if hasDirective after then
        .error ("format " ++ localeQuote fmt ++ " has too many % directives")
      else
        let width := if widthDigits.isEmpty then none else some (decimalValue widthDigits)
        .ok (.format (formatLiteral before) (formatLiteral after)
          { flags, width, precision, letter, text := "" })

def SeqStyle.show (style : SeqStyle) (digits : Int) (scale : Nat) (minus : Bool) : String :=
  match style with
  | .format before after d =>
    let (sign, body) := fixedText digits scale scale minus
    let (neg, value, _, _) := floatArg .program (sign ++ body)
    before ++ (String.fromUTF8? (formatFloat .program d neg value)).getD "" ++ after
  | .fixed prec width =>
    let (sign, body) := fixedText digits scale (max prec scale) minus
    match width with
    | some w =>
      let pad := w - (sign.length + body.length)
      sign ++ String.ofList (List.replicate pad '0') ++ body
    | none => sign ++ body

def defaultStyle (first step last : SeqNumber) (equalWidth : Bool) : SeqStyle :=
  let prec := max first.precision step.precision
  if !equalWidth then .fixed prec.toNat none
  else
    let firstWidth := first.width + (prec - first.precision)
    let lastWidth := last.width + (prec - last.precision)
    let lastWidth := if last.precision != 0 && prec == 0 then lastWidth - 1 else lastWidth
    let lastWidth := if last.precision == 0 && prec != 0 then lastWidth + 1 else lastWidth
    let firstWidth := if first.precision == 0 && prec != 0 then firstWidth + 1 else firstWidth
    .fixed prec.toNat (some (max firstWidth lastWidth).toNat)

def readBack (style : SeqStyle) (text : String) : Option (Int × Nat) :=
  let inner := match style with
    | .format before after _ =>
      ((text.drop before.length).toString.dropEnd after.length).toString
    | .fixed _ _ => text
  (readDecimal inner).map fun (d, s, _) => (d, s)

/-- The numbers from the first on, each the first plus `i` steps, joined by the separator.
When a number passes the last, it is printed all the same if its text reads back as the last
and differs from the text before it, as happens when the style rounds. `fuel` bounds the
numbers printed. -/
def seqLines (style : SeqStyle) (first step last : SeqNumber) (sep : String) :
    Nat → Nat → String → List String → List String
  | 0, _, _, acc => acc.reverse
  | fuel + 1, i, previous, acc =>
    let scale := max first.scale step.scale
    let x := first.at scale + (i : Int) * step.at scale
    let lastAt := last.at (max scale last.scale)
    let xAt := x * Int.pow 10 (max scale last.scale - scale)
    let beyond := if step.digits < 0 then xAt < lastAt else lastAt < xAt
    let text := style.show x scale false
    if !beyond then seqLines style first step last sep fuel (i + 1) text (text :: sep :: acc)
    else
      let readsAsLast := match readBack style text with
        | some (d, s) => d * Int.pow 10 (max s last.scale - s) == last.digits * Int.pow 10 (max s last.scale - last.scale)
        | none => false
      if readsAsLast && text != previous then (text :: sep :: acc).reverse
      else acc.reverse

def seqOutput (style : SeqStyle) (first step last : SeqNumber) (sep : String) : String :=
  let scale := max first.scale step.scale |> max last.scale
  let f := first.at scale
  let s := step.at scale
  let l := last.at scale
  if (if s < 0 then f < l else l < f) then ""
  else
    let firstText := style.show (first.digits) first.scale first.minus
    let count := ((l - f) / s).toNat + 2
    String.join (firstText :: seqLines style first step last sep count 1 firstText []) ++ "\n"

def seqOperands : List String → Except String (SeqNumber × SeqNumber × SeqNumber)
  | [l] => do
    let last ← seqNumber l
    pure (SeqNumber.one, SeqNumber.one, last)
  | [f, l] => do
    let first ← seqNumber f
    let last ← seqNumber l
    pure (first, SeqNumber.one, last)
  | [f, s, l] => do
    let first ← seqNumber f
    let step ← seqNumber s
    if step.digits == 0 then throw ("invalid Zero increment value: " ++ localeQuote s)
    let last ← seqNumber l
    pure (first, step, last)
  | _ => throw "missing operand"

def looksNegative (arg : String) : Bool :=
  match arg.toList with
  | '-' :: c :: _ => c == '.' || c.isDigit
  | _ => false

def seqOptionWords (spec : OptSpec) : Nat → List String → List String
  | 0, _ => []
  | _, [] => []
  | fuel + 1, arg :: rest =>
    if looksNegative arg then []
    else if arg == "--" then [arg]
    else if arg.startsWith "--" then
      let name := String.ofList ((arg.drop 2).toString.toList.takeWhile (· != '='))
      let takesNext := !arg.contains '=' && match findLong spec name with
        | .ok o => o.arg == .required
        | .error _ => false
      if takesNext then arg :: rest.take 1 ++ seqOptionWords spec fuel (rest.drop 1)
      else arg :: seqOptionWords spec fuel rest
    else if arg.startsWith "-" && arg != "-" then
      let letters := (arg.drop 1).toString.toList
      let valueAt := letters.findIdx? fun c => spec.shorts.any fun (l, k) => l == c && k == .required
      let takesNext := match valueAt with
        | some i => i + 1 == letters.length
        | none => false
      if takesNext then arg :: rest.take 1 ++ seqOptionWords spec fuel (rest.drop 1)
      else arg :: seqOptionWords spec fuel rest
    else []

def seqProgram : Program := fun _ p => do
  let spec : OptSpec := {
    shorts := [('f', .required), ('s', .required), ('w', .none)]
    longs := [⟨"format", .required, "f"⟩, ⟨"separator", .required, "s"⟩,
      ⟨"equal-width", .none, "w"⟩]
    inOrder := true }
  let words := seqOptionWords spec (p.args.length + 1) p.args
  match ← seqManual.options p spec words with
  | .error e => usageError p e
  | .ok parsed =>
    let operands := parsed.operands ++ p.args.drop words.length
    match operands with
    | [] => usageError p "missing operand"
    | _ :: _ :: _ :: extra :: _ => usageError p ("extra operand " ++ localeQuote extra)
    | _ =>
      let given : Except String (Option SeqStyle) := match parsed.last? "f" with
        | some fmt => (seqFormat fmt).map some
        | none => .ok none
      match given with
      | .error e => complain p e; return 1
      | .ok style =>
      if style.isSome && parsed.has "w" then
        return ← usageError p "format string may not be specified when printing equal width strings"
      match seqOperands operands with
      | .error e => usageError p e
      | .ok (first, step, last) =>
        let style := style.getD (defaultStyle first step last (parsed.has "w"))
        let sep := (parsed.last? "s").getD "\n"
        emitText p (seqOutput style first step last sep)
        return 0

end Pipework.Tools
