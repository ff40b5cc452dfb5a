import Pipework.Text.Toml.Scan

/-! The four kinds of TOML string: basic strings with escapes, literal strings taken as written, and
their multi-line forms. -/

namespace Pipework.Text.Toml.Scan

def hexEscape (width : Nat) : Scan Char :=
  checked (takeWhile isHexChar width) fun ds =>
    if ds.length != width then .error none
    else
      let n := digitsValue 16 ds
      if n < 0xD800 || (0xDFFF < n && n < 0x110000) then .ok (Char.ofNat n)
      else .error (some "value is out of range")

def escapeLetters : List String :=
  ["`b`", "`f`", "`n`", "`r`", "`t`", "`u`", "`U`", "`\\`", "`\"`"]

def escapeSequence : Scan Char := do
  match ← peek with
  | none => miss
  | some c =>
    bump
    match c with
    | 'b' => pure '\x08'
    | 'f' => pure '\x0c'
    | 'n' => pure '\n'
    | 'r' => pure '\r'
    | 't' => pure '\t'
    | '\\' => pure '\\'
    | '"' => pure '"'
    | 'u' => final (label "unicode 4-digit hex code" (hexEscape 4))
    | 'U' => final (label "unicode 8-digit hex code" (hexEscape 8))
    | _ => final (label "escape sequence" (expecting escapeLetters miss))

def escaped : Scan Char := do
  char '\\'
  escapeSequence

def basicPiece : Scan String :=
  firstOf [String.ofList <$> takeBetween 1 (Nat.pow 2 62) isBasicChar, (String.singleton ·) <$> escaped]

def pieces (piece : Scan String) (fuel : Nat) (acc : String) : Scan String := do
  match fuel with
  | 0 => pure acc
  | fuel + 1 =>
    match ← attempt piece with
    | some s => pieces piece fuel (acc ++ s)
    | none => pure acc

def basicString : Scan String := do
  char '"'
  let body ← pieces basicPiece ((← get).rest.length + 1) ""
  label "basic string" (final (char '"'))
  return body

def literalString : Scan String := label "literal string" do
  char '\''
  let body ← takeWhile isLiteralChar (← get).rest.length
  final (char '\'')
  return String.ofList body

def blankLines (fuel : Nat) : Scan Unit := do
  match fuel with
  | 0 => pure ()
  | fuel + 1 =>
    match ← peek with
    | some ' ' | some '\t' => blanks; blankLines fuel
    | some '\n' | some '\r' =>
      match ← attempt newline with
      | some () => blankLines fuel
      | none => pure ()
    | _ => pure ()

def escapedLineEnd : Scan Unit := do
  char '\\'
  blanks
  newline
  blankLines (← get).rest.length

def escapedLineEnds : Scan String := do
  escapedLineEnd
  let rec more (fuel : Nat) : Scan Unit := do
    match fuel with
    | 0 => pure ()
    | fuel + 1 =>
      match ← attempt escapedLineEnd with
      | some () => more fuel
      | none => pure ()
  more (← get).rest.length
  return ""

def multiBasicPiece : Scan String :=
  firstOf [String.ofList <$> takeBetween 1 (Nat.pow 2 62) isBasicChar, escapedLineEnds,
    (String.singleton ·) <$> escaped, (fun () => "\n") <$> newline]

def innerQuotes (quote : Char) (follows : Scan Bool) : Scan String := do
  let two := String.ofList [quote, quote]
  let one := String.singleton quote
  let tryQuotes (q : String) : Scan String := do
    text q
    if ← follows then pure q else miss
  firstOf [tryQuotes two, tryQuotes one]

def otherThan (quote : Char) : Scan Bool := do
  match ← peek with
  | some c => pure (c != quote)
  | none => pure false

def multiBasicBody : Scan String := do
  let budget := (← get).rest.length + 1
  let body ← pieces multiBasicPiece budget ""
  let rec quoted (fuel : Nat) (acc : String) : Scan String := do
    match fuel with
    | 0 => pure acc
    | fuel + 1 =>
      match ← attempt (innerQuotes '"' (otherThan '"')) with
      | none => pure acc
      | some q =>
        match ← attempt multiBasicPiece with
        | none => pure acc
        | some first =>
          let rest ← pieces multiBasicPiece budget ""
          quoted fuel (acc ++ q ++ first ++ rest)
  let body ← quoted budget body
  match ← attempt (innerQuotes '"' (startsWith "\"\"\"")) with
  | some q => pure (body ++ q)
  | none => pure body

def multiBasicString : Scan String := label "multiline basic string" do
  text "\"\"\""
  let _ ← attempt newline
  let body ← final multiBasicBody
  final (text "\"\"\"")
  return body

def multiLiteralPiece : Scan String := do
  match ← peek with
  | some '\n' => bump; pure "\n"
  | some '\r' => newline; pure "\n"
  | _ => String.singleton <$> charWhere isLiteralChar

def multiLiteralPieces : Scan String := do
  let first ← multiLiteralPiece
  pieces multiLiteralPiece ((← get).rest.length + 1) first

def multiLiteralBody : Scan String := do
  let budget := (← get).rest.length + 1
  let body ← pieces multiLiteralPiece budget ""
  let group : Scan String := do
    let q ← innerQuotes '\'' (otherThan '\'')
    let more ← multiLiteralPieces
    pure (q ++ more)
  let body ← pieces group budget body
  match ← attempt (innerQuotes '\'' (startsWith "'''")) with
  | some q => pure (body ++ q)
  | none => pure body

def multiLiteralString : Scan String := label "multiline literal string" do
  text "'''"
  let _ ← attempt newline
  let body ← final multiLiteralBody
  final (text "'''")
  return body

def string : Scan String :=
  firstOf [multiBasicString, basicString, multiLiteralString, literalString]

end Pipework.Text.Toml.Scan
