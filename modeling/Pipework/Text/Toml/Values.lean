import Pipework.Text.Toml.Strings
import Pipework.Text.Toml.Numbers

/-! Keys and values of TOML: dotted keys of bare or quoted parts, and values of every kind, arrays
and inline tables included. -/

namespace Pipework.Text.Toml.Scan

open Pipework.Binary

def keyPart : Scan Key := do
  blanks
  let start ← here
  let before := (← get).rest
  let name ← match ← peek with
    | some '"' => basicString
    | some '\'' => literalString
    | _ => String.ofList <$> takeBetween 1 (Nat.pow 2 62) isBareKeyChar
  let stop ← here
  let raw := String.ofList (before.take (before.length - (← get).rest.length))
  blanks
  return ⟨name, raw, ⟨start, stop⟩⟩

def keyParts (fuel : Nat) (acc : List Key) : Scan (List Key) := do
  match fuel with
  | 0 => pure acc
  | fuel + 1 =>
    match ← attempt (do char '.'; keyPart) with
    | some k => keyParts fuel (acc ++ [k])
    | none => pure acc

def nestingLimit : Nat := 80

def tooDeep : String := "recursion limit exceeded"

def key : Scan (List Key) := do
  let start ← here
  let parts ← label "key" do
    let first ← keyPart
    keyParts ((← get).rest.length + 1) [first]
  if parts.length < nestingLimit then pure parts else throw { pos := start, cause := some tooDeep }

def stringExpected {α : Type} (p : Scan α) : Scan α :=
  expecting ["`\"`", "`'`"] (label "string" p)

def number : Scan Value :=
  firstOf [(fun () => Value.datetime) <$> dateTime, Value.float <$> float, Value.int <$> integer]

def descendInline (f : Value → Except Clash Value) (dotted : Bool) (done : List String) :
    List Key → Value → Except Clash Value
  | [], t => f t
  | k :: more, t =>
    match t with
    | .inline entries implicit isDotted =>
      let child := (findEntry entries k.name).getD (.inline [] dotted dotted)
      let entries := if (findEntry entries k.name).isSome then entries else entries ++ [(k, child)]
      match child with
      | .inline .. => do
        let child ← descendInline f dotted (done ++ [k.name]) more child
        pure (.inline (replaceEntry entries k.name child) implicit isDotted)
      | v => .error (.extendsValue (done ++ [k.name]) v.typeName)
    | _ => .error (.duplicate k.name none)

def addInlinePair (table : Value) (pair : List Key × Value) : Except Clash Value :=
  let (path, v) := pair
  let within := path.dropLast
  match path.getLast? with
  | none => .ok table
  | some k =>
    descendInline (fun t =>
      match t with
      | .inline entries implicit isDotted =>
        if isDotted == within.isEmpty then .error (.duplicate k.name none)
        else if (findEntry entries k.name).isSome then .error (.duplicate k.name none)
        else .ok (.inline (entries ++ [(k, v)]) implicit isDotted)
      | _ => .error (.duplicate k.name none)) (!within.isEmpty) [] within table

def inlineOfPairs (pairs : List (List Key × Value)) : Except Clash Value :=
  pairs.foldlM addInlinePair (.inline [] false false)

mutual

def value (fuel depth : Nat) : Scan (Value × Extent) := do
  let start ← here
  match fuel with
  | 0 => miss
  | fuel + 1 =>
    let v ← match ← peek with
      | none => miss
      | some c =>
        match c with
        | '"' | '\'' => Value.str <$> string
        | '[' => array fuel depth
        | '{' => inlineTable fuel depth
        | '+' | '-' => number
        | '_' => expecting ["leading digit"] (Value.int <$> integer)
        | '.' => expecting ["leading digit"] (Value.float <$> float)
        | 't' => stringExpected (do text "true"; pure (Value.bool true))
        | 'f' => stringExpected (do text "false"; pure (Value.bool false))
        | 'i' => stringExpected (do text "inf"; pure (Value.float (.infinite false)))
        | 'n' => stringExpected (do text "nan"; pure (Value.float (.notANumber false)))
        | c => if c.isDigit then number else stringExpected miss
    return (v, ⟨start, ← here⟩)

def arrayItem (fuel depth : Nat) : Scan (Value × Extent) := do
  match fuel with
  | 0 => miss
  | fuel + 1 =>
    fillerLines ((← get).rest.length + 1)
    let item ← value fuel depth
    fillerLines ((← get).rest.length + 1)
    return item

def moreItems (fuel depth : Nat) (acc : List (Value × Extent)) : Scan (List (Value × Extent)) := do
  match fuel with
  | 0 => pure acc
  | fuel + 1 =>
    match ← attempt (do char ','; arrayItem fuel depth) with
    | some item => moreItems fuel depth (acc ++ [item])
    | none => pure acc

def arrayItems (fuel depth : Nat) : Scan (List (Value × Extent)) := do
  match fuel with
  | 0 => pure []
  | fuel + 1 =>
    let items ← attempt do
      let first ← arrayItem fuel depth
      let items ← moreItems fuel depth [first]
      let _ ← attempt (char ',')
      pure items
    fillerLines ((← get).rest.length + 1)
    return items.getD []

def array (fuel depth : Nat) : Scan Value := do
  match fuel with
  | 0 => miss
  | fuel + 1 =>
    if nestingLimit ≤ depth + 1 then throw { pos := ← here, cause := some tooDeep, final := true }
    char '['
    let items ← final (arrayItems fuel (depth + 1))
    final (expecting ["`]`"] (label "array" (char ']')))
    return .array items

def inlinePair (fuel depth : Nat) : Scan (List Key × Value) := do
  match fuel with
  | 0 => miss
  | fuel + 1 =>
    let path ← key
    final do
      expecting ["`.`", "`=`"] (char '=')
      blanks
      let (v, _) ← value fuel depth
      blanks
      return (path, v)

def morePairs (fuel depth : Nat) (acc : List (List Key × Value)) : Scan (List (List Key × Value)) := do
  match fuel with
  | 0 => pure acc
  | fuel + 1 =>
    match ← attempt (do char ','; inlinePair fuel depth) with
    | some pair => morePairs fuel depth (acc ++ [pair])
    | none => pure acc

def inlineTable (fuel depth : Nat) : Scan Value := do
  match fuel with
  | 0 => miss
  | fuel + 1 =>
    if nestingLimit ≤ depth + 1 then throw { pos := ← here, cause := some tooDeep, final := true }
    char '{'
    let start ← here
    let pairs ← final do
      let pairs ← match ← attempt (inlinePair fuel (depth + 1)) with
        | some first => morePairs fuel (depth + 1) [first]
        | none => pure []
      blanks
      pure pairs
    let table ← match inlineOfPairs pairs with
      | .ok t => pure t
      | .error clash => throw { pos := start, cause := some clash.message, final := true }
    final (expecting ["`\x7d`"] (label "inline table" (char '}')))
    return table

end

end Pipework.Text.Toml.Scan
