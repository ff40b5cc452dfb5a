import Pipework.Posix.Syntax

/-! Brace expansion, which bash applies to the words of a command before any other expansion:
`a{b,c}d` gives `abd` and `acd`, and `{1..3}` or `{a..e..2}` a sequence. -/

namespace Pipework.Posix

def intText (n : Int) : String :=
  if n < 0 then "-" ++ toString n.natAbs else toString n.natAbs

def seqNumber? (cs : List Char) : Option Int :=
  let (neg, digits) := match cs with
    | '-' :: r => (true, r)
    | '+' :: r => (false, r)
    | r => (false, r)
  if digits.isEmpty || !digits.all Char.isDigit then none
  else
    let n : Nat := digits.foldl (fun v c => v * 10 + (c.toNat - 48)) 0
    some (if neg then -(n : Int) else (n : Int))

def seqTerms (lo hi step : Int) : Nat → List Int
  | 0 => []
  | fuel + 1 =>
    if (step > 0 && lo > hi) || (step < 0 && lo < hi) then []
    else lo :: seqTerms (lo + step) hi step fuel

/-- The texts of a sequence expression `x..y` or `x..y..step`: numbers, padded with zeros to
the width of the wider end when either is written with a leading zero, or single letters.
The step's sign is taken from the direction of the ends. -/
def sequenceTexts (body : List Char) : Option (List String) :=
  let parts := (String.ofList body).splitOn ".."
  let (a, b, stepText) := match parts with
    | [a, b] => (a, b, some "1")
    | [a, b, s] => (a, b, some s)
    | _ => ("", "", none)
  match stepText with
  | none => none
  | some s =>
    match seqNumber? s.toList with
    | none => none
    | some stepRaw =>
      let step := if stepRaw == 0 then 1 else (stepRaw.natAbs : Int)
      match seqNumber? a.toList, seqNumber? b.toList with
      | some x, some y =>
        let signed := if x ≤ y then step else -step
        let terms := seqTerms x y signed ((x - y).natAbs / step.natAbs + 2)
        let padded (t : String) : Bool := t.startsWith "0" && t.length > 1 || t.startsWith "-0"
        let width := if padded a || padded b then max a.length b.length else 0
        some (terms.map fun n =>
          let digits := toString n.natAbs
          let sign := if n < 0 then "-" else ""
          let room := width - sign.length
          sign ++ String.ofList (List.replicate (room - digits.length) '0') ++ digits)
      | _, _ =>
        match a.toList, b.toList with
        | [c], [d] =>
          if c.isAlpha && d.isAlpha then
            let x : Int := c.toNat
            let y : Int := d.toNat
            let signed := if x ≤ y then step else -step
            some ((seqTerms x y signed ((x - y).natAbs / step.natAbs + 2)).map fun n =>
              String.singleton (Char.ofNat n.toNat))
          else none
        | _, _ => none

def closeBrace : Nat → Nat → List WordItem → List WordItem → List (List WordItem) →
    Option (List (List WordItem) × List WordItem)
  | 0, _, _, _, _ => none
  | _ + 1, _, [], _, _ => none
  | fuel + 1, depth, item :: rest, current, parts =>
    match item with
    | .char '}' =>
      if depth == 0 then some ((parts ++ [current.reverse]), rest)
      else closeBrace fuel (depth - 1) rest (item :: current) parts
    | .char '{' => closeBrace fuel (depth + 1) rest (item :: current) parts
    | .char ',' =>
      if depth == 0 then closeBrace fuel depth rest [] (parts ++ [current.reverse])
      else closeBrace fuel depth rest (item :: current) parts
    | _ => closeBrace fuel depth rest (item :: current) parts

def plainChars (items : List WordItem) : Option (List Char) :=
  items.mapM fun | .char c => some c | .piece _ => none

def braceExpand : Nat → List WordItem → List WordItem → List (List WordItem)
  | 0, before, rest => [before.reverse ++ rest]
  | _ + 1, before, [] => [before.reverse]
  | fuel + 1, before, item :: rest =>
    match item with
    | .char '{' =>
      match closeBrace (rest.length + 1) 0 rest [] [] with
      | some (parts, after) =>
        let alternatives : Option (List (List WordItem)) :=
          if parts.length > 1 then some parts
          else match parts, (parts.headD []) with
            | [_], inner =>
              (plainChars inner).bind sequenceTexts |>.map fun texts =>
                texts.map fun t => t.toList.map WordItem.char
            | _, _ => none
        match alternatives with
        | some alts =>
          let tails := braceExpand fuel [] after
          alts.flatMap fun alt =>
            (braceExpand fuel [] alt).flatMap fun a =>
              tails.map fun t => before.reverse ++ a ++ t
        | none => braceExpand fuel (item :: before) rest
      | none => braceExpand fuel (item :: before) rest
    | _ => braceExpand fuel (item :: before) rest

def expandBraces (w : Word) : List Word :=
  let items := wordItems w
  if !items.any (fun | .char '{' => true | _ => false) then [w]
  else (braceExpand (items.length + 2) [] items).map itemsWord

end Pipework.Posix
