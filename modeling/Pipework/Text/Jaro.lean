/-! Jaro similarity of two texts, the measure that decides whether a mistyped word is close enough
to a known one to be offered in its place. -/

namespace Pipework.Text

def freePosition (b : List Char) (taken : List Bool) (c : Char) (lo hi : Nat) : Option Nat :=
  (List.range' lo (hi - lo)).find? fun j => b[j]? == some c && taken[j]? == some false

def takePosition (taken : List Bool) (j : Nat) : List Bool :=
  taken.set j true

def matchedChars (a b : List Char) : List Char × List Bool :=
  let window := max a.length b.length / 2 - 1
  a.zipIdx.foldl (fun (acc : List Char × List Bool) (c, i) =>
    match freePosition b acc.2 c (i - window) (min b.length (i + window + 1)) with
    | some j => (acc.1 ++ [c], takePosition acc.2 j)
    | none => acc) ([], List.replicate b.length false)

def matchCounts (a b : List Char) : Nat × Nat :=
  let (fromA, taken) := matchedChars a b
  let fromB := (b.zip taken).filterMap fun (c, t) => if t then some c else none
  let differing := ((fromA.zip fromB).filter fun (x, y) => x != y).length
  (fromA.length, differing / 2)

def jaro (a b : String) : Float :=
  let xs := a.toList
  let ys := b.toList
  if xs.isEmpty && ys.isEmpty then 1
  else if xs.isEmpty || ys.isEmpty then 0
  else
    let (m, t) := matchCounts xs ys
    if m == 0 then 0
    else
      (m.toFloat / xs.length.toFloat + m.toFloat / ys.length.toFloat +
        (m - t).toFloat / m.toFloat) / 3

def similarWords (word : String) (known : List String) : List String :=
  let scored := (known.map fun k => (jaro word k, k)).filter fun (s, _) => s > 0.7
  (scored.mergeSort fun x y => x.1 ≤ y.1).map (·.2)

def closestWord? (word : String) (known : List String) : Option String :=
  (similarWords word known).getLast?

end Pipework.Text
