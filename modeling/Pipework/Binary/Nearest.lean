/-! The binary floating value nearest to a fraction. -/

namespace Pipework.Binary

def bitLength (n : Nat) : Nat :=
  Nat.log2 n + (if n == 0 then 0 else 1)

def roundHalfEven (num den : Nat) : Nat :=
  let q := num / den
  let r := num % den
  if 2 * r > den then q + 1 else if 2 * r < den then q else if q % 2 == 1 then q + 1 else q

def scaleDown (num den : Nat) (shift : Int) : Nat × Nat :=
  if shift ≥ 0 then (num, den * Nat.pow 2 shift.toNat) else (num * Nat.pow 2 (-shift).toNat, den)

/-- The value with `digits` significant binary digits nearest to a positive fraction, as a
mantissa and a power of two. The mantissa has exactly `digits` digits unless the power would
fall below `lowest`: there the value is rounded to a multiple of two to the `lowest`, with
fewer digits, and may become zero. -/
def nearestParts (digits : Nat) (lowest : Int) (num den : Nat) : Nat × Int :=
  let guess : Int := (bitLength num : Int) - bitLength den - digits
  let (n, d) := scaleDown num den guess
  let shift := if n ≥ d * Nat.pow 2 digits then guess + 1 else guess
  let shift := max shift lowest
  let (n, d) := scaleDown num den shift
  let m := roundHalfEven n d
  if m ≥ Nat.pow 2 digits then (m / 2, shift + 1) else (m, shift)

def partsValue (m : Nat) (e : Int) : Nat × Nat :=
  if e ≥ 0 then (m * Nat.pow 2 e.toNat, 1) else (m, Nat.pow 2 (-e).toNat)

end Pipework.Binary
