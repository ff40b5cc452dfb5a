import Pipework.Binary.Nearest

/-! Double-precision values and their shortest decimal text. -/

namespace Pipework.Binary

/-- A double-precision value. -/
inductive Double where
  | finite (negative : Bool) (mantissa : Nat) (exponent : Int)
  | infinite (negative : Bool)
  | notANumber (negative : Bool)
  deriving Repr, DecidableEq, Inhabited

def doubleDigits : Nat := 53

def doubleLowest : Int := -1074

def Double.ofFraction (negative : Bool) (num den : Nat) : Double :=
  if num == 0 then .finite negative 0 0
  else
    let (m, e) := nearestParts doubleDigits doubleLowest num den
    if e + bitLength m > 1024 then .infinite negative else .finite negative m e

def Double.ofDecimal (negative : Bool) (digits : Nat) (exponent : Int) : Double :=
  if exponent ≥ 0 then Double.ofFraction negative (digits * Nat.pow 10 exponent.toNat) 1
  else Double.ofFraction negative digits (Nat.pow 10 (-exponent).toNat)

def decimalFloor (num den : Nat) : Int :=
  if num ≥ den then ((toString (num / den)).length : Int) - 1
  else
    let rec below (fuel k : Nat) : Int :=
      match fuel with
      | 0 => -(k : Int)
      | fuel + 1 => if num * Nat.pow 10 k ≥ den then -(k : Int) else below fuel (k + 1)
    below (bitLength den + 4) 1

def gridHits (low high den : Nat) (closed : Bool) (q : Nat) (s : Int) : Bool :=
  let (value, scale) := if s ≥ 0 then (q * Nat.pow 10 s.toNat * den, 1) else (q * den, Nat.pow 10 (-s).toNat)
  if closed then low * scale ≤ value && value ≤ high * scale
  else low * scale < value && value < high * scale

/-- The decimal `q · 10^s` with the fewest digits that lies strictly within (or, when
`closed`, on the ends of) the interval `low/den .. high/den` around `value/den`: each number
of digits in turn, from one to seventeen, is tried with the two points of its grid beside the
value, the nearer of two hits winning and a tie going to the even one. -/
def shortestIn (value low high den : Nat) (closed : Bool) : Nat × Int :=
  let top := decimalFloor value den
  let rec search (fuel : Nat) (k : Nat) : Nat × Int :=
    match fuel with
    | 0 => (value / den, 0)
    | fuel + 1 =>
      let s : Int := top - (k : Int) + 1
      let (scaled, unit) := if s ≥ 0 then (value, den * Nat.pow 10 s.toNat) else (value * Nat.pow 10 (-s).toNat, den)
      let q := scaled / unit
      let downHit := gridHits low high den closed q s
      let upHit := gridHits low high den closed (q + 1) s
      let below := scaled - q * unit
      let above := (q + 1) * unit - scaled
      if downHit && upHit then
        (if below < above || (below == above && q % 2 == 0) then (q, s) else (q + 1, s))
      else if downHit then (q, s)
      else if upHit then (q + 1, s)
      else search fuel (k + 1)
  search 17 1

def trimDecimal (q : Nat) (s : Int) (fuel : Nat) : Nat × Int :=
  match fuel with
  | 0 => (q, s)
  | fuel + 1 => if q != 0 && q % 10 == 0 then trimDecimal (q / 10) (s + 1) fuel else (q, s)

/-- The shortest decimal `q · 10^s` that reads back as the positive double `m · 2^e`: the
doubles beside it are half a place away, or a quarter place below a power of two that is not
the lowest; the ends belong to it when its mantissa is even. -/
def shortestDecimal (m : Nat) (e : Int) : Nat × Int :=
  let k : Nat := (2 - e).toNat
  let den := Nat.pow 2 k
  let value := m * Nat.pow 2 (e + k).toNat
  let up := Nat.pow 2 (e - 1 + k).toNat
  let down := if m == Nat.pow 2 (doubleDigits - 1) && e > doubleLowest then Nat.pow 2 (e - 2 + k).toNat else up
  let (q, s) := shortestIn value (value - down) (value + up) den (m % 2 == 0)
  trimDecimal q s (toString q).length

def zeros (n : Nat) : String :=
  String.ofList (List.replicate n '0')

def positional (q : Nat) (s : Int) : String :=
  let ds := toString q
  let point : Int := ds.length + s
  if point ≤ 0 then "0." ++ zeros (-point).toNat ++ ds
  else if point.toNat < ds.length then (ds.take point.toNat).toString ++ "." ++ (ds.drop point.toNat).toString
  else ds ++ zeros (point.toNat - ds.length)

def Double.text : Double → String
  | .finite negative m e =>
    let body := if m == 0 then "0" else
      let (q, s) := shortestDecimal m e
      positional q s
    (if negative then "-" else "") ++ body
  | .infinite negative => if negative then "-inf" else "inf"
  | .notANumber _ => "NaN"

def Double.isFinite : Double → Bool
  | .finite .. => true
  | _ => false

end Pipework.Binary
