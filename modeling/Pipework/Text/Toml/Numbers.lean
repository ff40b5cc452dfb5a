import Pipework.Text.Toml.Scan

/-! Numbers and date-times of TOML. -/

namespace Pipework.Text.Toml.Scan

open Pipework.Binary

/-- Digits, each pair of them possibly parted by one underscore, after a first digit that
has been read; an underscore must be followed by a digit, and `wanted` says what was expected
when it is not. -/
def moreDigits (isDigit : Char → Bool) (wanted : List String) (fuel : Nat) (acc : List Char) :
    Scan (List Char) := do
  match fuel with
  | 0 => pure acc
  | fuel + 1 =>
    match ← peek with
    | some '_' =>
      bump
      let d ← final (expecting wanted (charWhere isDigit))
      moreDigits isDigit wanted fuel (acc ++ ['_', d])
    | some c => if isDigit c then bump; moreDigits isDigit wanted fuel (acc ++ [c]) else pure acc
    | none => pure acc

def decimalText : Scan (List Char) := label "integer" do
  let sign ← match ← peek with
    | some '+' => bump; pure ['+']
    | some '-' => bump; pure ['-']
    | _ => pure []
  let body ← firstOf [
    do
      let d ← charWhere fun c => '1' ≤ c && c ≤ '9'
      moreDigits Char.isDigit ["digit"] ((← get).rest.length + 1) [d],
    (fun d => [d]) <$> charWhere Char.isDigit]
  return sign ++ body

def zeroPrefixable : Scan (List Char) := do
  let d ← charWhere Char.isDigit
  moreDigits Char.isDigit [] ((← get).rest.length + 1) [d]

def int64Max : Nat := Nat.pow 2 63 - 1

def decimalValue (ds : List Char) : Except (Option String) Int :=
  let ds := ds.filter (· != '_')
  let (negative, digits) := match ds with
    | '-' :: r => (true, r)
    | '+' :: r => (false, r)
    | r => (false, r)
  let n := digitsValue 10 digits
  if negative then
    if n > int64Max + 1 then .error (some "number too small to fit in target type") else .ok (-(n : Int))
  else if n > int64Max then .error (some "number too large to fit in target type") else .ok n

def prefixedInteger (pre : String) (base : Nat) (name : String) (isDigit : Char → Bool) : Scan Int :=
  final <| checked (label name do
      text pre
      final do
        let d ← charWhere isDigit
        moreDigits isDigit ["digit"] ((← get).rest.length + 1) [d])
    fun ds =>
      let n := digitsValue base (ds.filter (· != '_'))
      if n > int64Max then .error (some "number too large to fit in target type") else .ok n

def integer : Scan Int := do
  if ← startsWith "0x" then prefixedInteger "0x" 16 "hexadecimal integer" isHexChar
  else if ← startsWith "0o" then prefixedInteger "0o" 8 "octal integer" fun c => '0' ≤ c && c ≤ '7'
  else if ← startsWith "0b" then prefixedInteger "0b" 2 "binary integer" fun c => c == '0' || c == '1'
  else
    let start ← here
    let ds ← decimalText
    match decimalValue ds with
    | .ok n => pure n
    | .error cause => throw { pos := start, cause, final := true }

def exponentPart : Scan (List Char) := do
  let e ← charWhere fun c => c == 'e' || c == 'E'
  let sign ← match ← peek with
    | some '+' => bump; pure ['+']
    | some '-' => bump; pure ['-']
    | _ => pure []
  let ds ← final zeroPrefixable
  return e :: sign ++ ds

def fractionPart : Scan (List Char) := do
  char '.'
  let ds ← final (expecting ["digit"] zeroPrefixable)
  return '.' :: ds

def floatValue (text : List Char) : Double :=
  let cs := text.filter (· != '_')
  let (negative, cs) := match cs with
    | '-' :: r => (true, r)
    | '+' :: r => (false, r)
    | r => (false, r)
  let whole := cs.takeWhile Char.isDigit
  let cs := cs.drop whole.length
  let frac := match cs with
    | '.' :: r => r.takeWhile Char.isDigit
    | _ => []
  let cs := match cs with
    | '.' :: r => r.drop frac.length
    | r => r
  let exp : Int := match cs with
    | e :: r =>
      if e == 'e' || e == 'E' then
        match r with
        | '-' :: ds => -(digitsValue 10 ds : Int)
        | '+' :: ds => digitsValue 10 ds
        | ds => digitsValue 10 ds
      else 0
    | [] => 0
  Double.ofDecimal negative (digitsValue 10 (whole ++ frac)) (exp - frac.length)

def specialFloat : Scan Double := do
  let negative ← match ← peek with
    | some '+' => bump; pure false
    | some '-' => bump; pure true
    | _ => pure false
  firstOf [
    do text "inf"; pure (Double.infinite negative),
    do text "nan"; pure (Double.notANumber negative)]

def float : Scan Double := label "floating-point number" <| firstOf [
  do
    let start ← here
    let whole ← decimalText
    let tail ← firstOf [exponentPart, do
      let f ← fractionPart
      let e ← attempt exponentPart
      pure (f ++ e.getD [])]
    match floatValue (whole ++ tail) with
    | .infinite false => throw { pos := start, final := true }
    | x => pure x,
  specialFloat]

def rangedDigits (n low high : Nat) : Scan Nat :=
  checked (takeBetween n n Char.isDigit) fun ds =>
    let v := digitsValue 10 ds
    if low ≤ v && v ≤ high then .ok v else .error (some "value is out of range")

def monthDays (year month : Nat) : Nat :=
  if month == 2 then
    if year % 4 == 0 && (year % 100 != 0 || year % 400 == 0) then 29 else 28
  else if month == 4 || month == 6 || month == 9 || month == 11 then 30
  else 31

def fullDate : Scan Unit := do
  let year ← takeBetween 4 4 Char.isDigit
  char '-'
  final do
    let month ← rangedDigits 2 1 12
    char '-'
    let dayStart ← here
    let day ← rangedDigits 2 1 31
    if monthDays (digitsValue 10 year) month < day then
      throw { pos := dayStart, cause := some "value is out of range" }

def partialTime : Scan Unit := do
  let _ ← rangedDigits 2 0 23
  char ':'
  final do
    let _ ← rangedDigits 2 0 59
    char ':'
    let _ ← rangedDigits 2 0 60
    let _ ← attempt do
      char '.'
      let _ ← takeBetween 1 (Nat.pow 2 62) Char.isDigit

def timeOffset : Scan Unit := label "time offset" <| firstOf [
  do let _ ← charWhere fun c => c == 'Z' || c == 'z',
  checked (do
      let sign ← charWhere fun c => c == '+' || c == '-'
      final do
        let h ← rangedDigits 2 0 23
        char ':'
        let m ← rangedDigits 2 0 59
        pure (sign, h, m))
    fun (_, h, m) => if h * 60 + m ≤ 24 * 60 then .ok () else .error none]

def dateTime : Scan Unit := firstOf [
  label "date-time" do
    fullDate
    let _ ← attempt do
      let _ ← charWhere fun c => c == 'T' || c == 't' || c == ' '
      partialTime
      let _ ← attempt timeOffset,
  label "time" partialTime]

end Pipework.Text.Toml.Scan
