import Pipework.Posix.Syntax

/-! Reading shell words and operators from script text. -/

namespace Pipework.Posix

/-- A token of the shell grammar. -/
inductive Tok where
  /-- A word with its pieces, its source text, and whether it had no quoting or expansion
  (only such a word can be a reserved word or a name). -/
  | word (w : Word) (raw : String) (plain : Bool)
  /-- An operator: `&&`, `||`, `;;`, `;&`, `;;&`, `;`, `&`, `|`, `(`, `)`, or a newline. -/
  | op (text : String)
  | redir (fd : Option Nat) (op : RedirOp)
  /-- bash's `((...))`, with the text between the double parentheses. -/
  | dparen (text : String)
  | eof
  deriving Inhabited

def reservedWords : List String :=
  ["!", "\x7b", "\x7d", "case", "do", "done", "elif", "else", "esac", "fi", "for", "if", "in", "then",
   "until", "while"]

def bashReservedWords : List String :=
  ["[[", "]]", "function", "select", "time", "coproc"]

def Tok.name : Tok → String
  | .word _ raw plain => if plain && reservedWords.contains raw then "\"" ++ raw ++ "\"" else "word"
  | .op "\n" => "newline"
  | .op text => "\"" ++ text ++ "\""
  | .redir _ _ => "redirection"
  | .dparen _ => "word"
  | .eof => "end of file"

def Tok.text : Tok → String
  | .word _ raw _ => raw
  | .op "\n" => "newline"
  | .op text => text
  | .redir fd kind => (match fd with | some n => toString n | none => "") ++ kind.text
  | .dparen text => "((" ++ text ++ "))"
  | .eof => ""

/-- What is wrong with a script's syntax. -/
inductive SynIssue where
  /-- A token where it does not belong, and what was expected there, if one thing was. -/
  | unexpected (tok : Tok) (expecting : Option String)
  | unterminatedQuote (quote : Char)
  | badSubstitution
  | missingBrace
  | missingArith
  | backquoteEnd
  | badFdNumber
  deriving Inhabited

/-- A syntax error: the line the reader had reached, and the issue. -/
structure SynErr where
  line : Nat
  issue : SynIssue
  deriving Inhabited

def SynIssue.dashText : SynIssue → String
  | .unexpected tok none => tok.name ++ " unexpected"
  | .unexpected tok (some e) => tok.name ++ " unexpected (expecting " ++ e ++ ")"
  | .unterminatedQuote _ => "Unterminated quoted string"
  | .badSubstitution => "Bad substitution"
  | .missingBrace => "Missing '\x7d'"
  | .missingArith => "Missing '))'"
  | .backquoteEnd => "EOF in backquote substitution"
  | .badFdNumber => "Bad fd number"

def isNameStart (c : Char) : Bool :=
  c.isAlpha || c == '_'

def isNameChar (c : Char) : Bool :=
  c.isAlphanum || c == '_'

def isName (s : String) : Bool :=
  match s.toList with
  | c :: cs => isNameStart c && cs.all isNameChar
  | [] => false

def isWordEnd (c : Char) : Bool :=
  c == ' ' || c == '\t' || c == '\n' || c == ';' || c == '&' || c == '|' || c == '(' ||
    c == ')' || c == '<' || c == '>'

def hexValue? (c : Char) : Option Nat :=
  if c.isDigit then some (c.toNat - 48)
  else if 'a' ≤ c && c ≤ 'f' then some (c.toNat - 87)
  else if 'A' ≤ c && c ≤ 'F' then some (c.toNat - 55)
  else none

def digitRun (base : Nat) : Nat → List Char → Nat → Nat → Nat × Nat × List Char
  | 0, cs, v, n => (v, n, cs)
  | _ + 1, [], v, n => (v, n, [])
  | count + 1, c :: cs, v, n =>
    match hexValue? c with
    | some d => if d < base then digitRun base count cs (v * base + d) (n + 1) else (v, n, c :: cs)
    | none => (v, n, c :: cs)

def upperHex (width n : Nat) : String :=
  let digits := (Nat.toDigits 16 n).map Char.toUpper
  String.ofList (List.replicate (width - digits.length) '0' ++ digits)

def unwritableChar (code : Nat) : ByteArray :=
  (if code < 65536 then "\\u" ++ upperHex 4 code else "\\U" ++ upperHex 8 code).toUTF8

def controlOf (c : Char) : UInt8 :=
  if c == '?' then 127 else (c.toUpper.toNat % 32).toUInt8

def ansiEscape : List Char → ByteArray × List Char
  | 'a' :: r => (ByteArray.mk #[7], r)
  | 'b' :: r => (ByteArray.mk #[8], r)
  | 'e' :: r | 'E' :: r => (ByteArray.mk #[27], r)
  | 'f' :: r => (ByteArray.mk #[12], r)
  | 'n' :: r => (ByteArray.mk #[10], r)
  | 'r' :: r => (ByteArray.mk #[13], r)
  | 't' :: r => (ByteArray.mk #[9], r)
  | 'v' :: r => (ByteArray.mk #[11], r)
  | '\\' :: r => (ByteArray.mk #[92], r)
  | '\'' :: r => (ByteArray.mk #[39], r)
  | '"' :: r => (ByteArray.mk #[34], r)
  | '?' :: r => (ByteArray.mk #[63], r)
  | 'c' :: c :: r => (ByteArray.mk #[controlOf c], r)
  | 'x' :: r =>
    let (v, n, rest) := digitRun 16 2 r 0 0
    if n == 0 then ("\\x".toUTF8, r) else (ByteArray.mk #[(v % 256).toUInt8], rest)
  | 'u' :: r => universal 'u' 4 r
  | 'U' :: r => universal 'U' 8 r
  | d :: r =>
    if '0' ≤ d && d ≤ '7' then
      let (v, _, rest) := digitRun 8 2 r (d.toNat - 48) 0
      (ByteArray.mk #[(v % 256).toUInt8], rest)
    else (("\\" ++ String.singleton d).toUTF8, r)
  | [] => ("\\".toUTF8, [])
where
  /-- A `\u` or `\U` escape: up to `width` hexadecimal digits naming a character. -/
  universal (letter : Char) (width : Nat) (r : List Char) : ByteArray × List Char :=
    let (v, n, rest) := digitRun 16 width r 0 0
    if n == 0 then (("\\" ++ String.singleton letter).toUTF8, r)
    else if v < 128 then (ByteArray.mk #[v.toUInt8], rest)
    else (unwritableChar v, rest)

def ansiBytes : Nat → List Char → ByteArray → ByteArray
  | 0, _, acc => acc
  | _ + 1, [], acc => acc
  | fuel + 1, '\\' :: cs, acc =>
    let (bytes, rest) := ansiEscape cs
    if bytes.toList.contains 0 then acc ++ ⟨(bytes.toList.takeWhile (· != 0)).toArray⟩
    else ansiBytes fuel rest (acc ++ bytes)
  | fuel + 1, c :: cs, acc => ansiBytes fuel cs (acc ++ (String.singleton c).toUTF8)

def textOfBytes (bytes : ByteArray) : String :=
  match String.fromUTF8? bytes with
  | some s => s
  | none => String.ofList (bytes.toList.map fun b => if b < 128 then Char.ofNat b.toNat else '�')

def scanAnsi : Nat → List Char → String → Nat → Except SynIssue (String × List Char × Nat)
  | 0, _, _, _ => .error (.unterminatedQuote '\'')
  | _ + 1, [], _, _ => .error (.unterminatedQuote '\'')
  | _ + 1, '\'' :: rest, acc, lines => .ok (acc, rest, lines)
  | fuel + 1, '\\' :: c :: rest, acc, lines =>
    scanAnsi fuel rest ((acc.push '\\').push c) (if c == '\n' then lines + 1 else lines)
  | fuel + 1, c :: rest, acc, lines =>
    scanAnsi fuel rest (acc.push c) (if c == '\n' then lines + 1 else lines)

def isAssignPrefix (raw : String) : Bool :=
  let cs := raw.toList
  let name := cs.takeWhile isNameChar
  match cs.headD ' ', cs.drop name.length with
  | c, rest =>
    isNameStart c && !name.isEmpty &&
      (rest == ['='] || rest == ['+', '='] ||
        (rest.headD ' ' == '[' && (rest.getLast? == some '=') &&
          (rest.dropLast.getLast? == some ']' ||
            (rest.dropLast.getLast? == some '+' && rest.dropLast.dropLast.getLast? == some ']'))))

def looksLikeAssignment (raw : String) : Bool :=
  match raw.splitOn "=" with
  | front :: _ :: _ =>
    let lead := if front.endsWith "+" then (front.dropEnd 1).toString else front
    let base := (lead.splitOn "[").headD ""
    isName base && (base == lead || lead.endsWith "]")
  | _ => false

/-- The words being built: finished pieces, the pending unquoted text, the source text, and
whether everything so far was plain. -/
structure WordAcc where
  pieces : Word := []
  lit : String := ""
  raw : String := ""
  plain : Bool := true

namespace WordAcc

def flush (a : WordAcc) : WordAcc :=
  if a.lit.isEmpty then a else { a with pieces := a.pieces ++ [.lit a.lit], lit := "" }

def addLit (a : WordAcc) (c : Char) : WordAcc :=
  { a with lit := a.lit.push c, raw := a.raw.push c }

def addPiece (a : WordAcc) (p : Piece) (src : String) : WordAcc :=
  let a := a.flush
  { a with pieces := a.pieces ++ [p], raw := a.raw ++ src, plain := false }

def finish (a : WordAcc) : Word :=
  a.flush.pieces

end WordAcc

def scanParens : Nat → Nat → List Char → String → Nat → Except SynIssue (String × List Char × Nat)
  | 0, _, _, _, _ => .error (.unexpected .eof (some "\")\""))
  | _ + 1, _, [], _, _ => .error (.unexpected .eof (some "\")\""))
  | fuel + 1, depth, ')' :: rest, acc, lines =>
    if depth == 0 then .ok (acc, rest, lines) else scanParens fuel (depth - 1) rest (acc.push ')') lines
  | fuel + 1, depth, '(' :: rest, acc, lines => scanParens fuel (depth + 1) rest (acc.push '(') lines
  | fuel + 1, depth, '\\' :: c :: rest, acc, lines =>
    scanParens fuel depth rest ((acc.push '\\').push c) (if c == '\n' then lines + 1 else lines)
  | fuel + 1, depth, '\'' :: rest, acc, lines =>
    let body := rest.takeWhile (· != '\'')
    let after := rest.drop body.length
    match after with
    | [] => .error (.unterminatedQuote '\'')
    | _ :: more => scanParens fuel depth more (acc ++ "'" ++ String.ofList body ++ "'")
        (lines + body.count '\n')
  | fuel + 1, depth, c :: rest, acc, lines =>
    scanParens fuel depth rest (acc.push c) (if c == '\n' then lines + 1 else lines)

def scanArith : Nat → Nat → List Char → String → Nat → Except SynIssue (String × List Char × Nat)
  | 0, _, _, _, _ => .error .missingArith
  | _ + 1, _, [], _, _ => .error .missingArith
  | _ + 1, 0, ')' :: ')' :: rest, acc, lines => .ok (acc, rest, lines)
  | fuel + 1, depth, ')' :: rest, acc, lines =>
    if depth == 0 then .error .missingArith else scanArith fuel (depth - 1) rest (acc.push ')') lines
  | fuel + 1, depth, '(' :: rest, acc, lines => scanArith fuel (depth + 1) rest (acc.push '(') lines
  | fuel + 1, depth, c :: rest, acc, lines =>
    scanArith fuel depth rest (acc.push c) (if c == '\n' then lines + 1 else lines)

def scanBrace : Nat → Nat → List Char → String → Nat → Except SynIssue (String × List Char × Nat)
  | 0, _, _, _, _ => .error .missingBrace
  | _ + 1, _, [], _, _ => .error .missingBrace
  | fuel + 1, depth, '}' :: rest, acc, lines =>
    if depth == 0 then .ok (acc, rest, lines) else scanBrace fuel (depth - 1) rest (acc.push '}') lines
  | fuel + 1, depth, '$' :: '{' :: rest, acc, lines => scanBrace fuel (depth + 1) rest (acc ++ "$\x7b") lines
  | fuel + 1, depth, '\\' :: c :: rest, acc, lines =>
    scanBrace fuel depth rest ((acc.push '\\').push c) (if c == '\n' then lines + 1 else lines)
  | fuel + 1, depth, '\'' :: rest, acc, lines =>
    let body := rest.takeWhile (· != '\'')
    match rest.drop body.length with
    | [] => .error (.unterminatedQuote '\'')
    | _ :: more => scanBrace fuel depth more (acc ++ "'" ++ String.ofList body ++ "'") (lines + body.count '\n')
  | fuel + 1, depth, c :: rest, acc, lines =>
    scanBrace fuel depth rest (acc.push c) (if c == '\n' then lines + 1 else lines)

def scanBackquote (inQuotes : Bool) : Nat → List Char → String → Nat → Except SynIssue (String × List Char × Nat)
  | 0, _, _, _ => .error .backquoteEnd
  | _ + 1, [], _, _ => .error .backquoteEnd
  | _ + 1, '`' :: rest, acc, lines => .ok (acc, rest, lines)
  | fuel + 1, '\\' :: c :: rest, acc, lines =>
    if c == '$' || c == '`' || c == '\\' || (inQuotes && c == '"') then
      scanBackquote inQuotes fuel rest (acc.push c) lines
    else if c == '\n' then scanBackquote inQuotes fuel rest acc (lines + 1)
    else scanBackquote inQuotes fuel rest ((acc.push '\\').push c) lines
  | fuel + 1, c :: rest, acc, lines =>
    scanBackquote inQuotes fuel rest (acc.push c) (if c == '\n' then lines + 1 else lines)

def isSpecialParam (c : Char) : Bool :=
  "@*#?-$!0123456789".contains c

def paramName? : List Char → Option (String × List Char)
  | c :: rest =>
    if isNameStart c then
      let more := rest.takeWhile isNameChar
      some (String.ofList (c :: more), rest.drop more.length)
    else if c.isDigit then
      let more := rest.takeWhile Char.isDigit
      some (String.ofList (c :: more), rest.drop more.length)
    else if isSpecialParam c then some (String.singleton c, rest)
    else none
  | [] => none

def closeBracket : Nat → Nat → List Char → List Char → Option (List Char × List Char)
  | 0, _, _, _ => none
  | _ + 1, _, [], _ => none
  | fuel + 1, depth, ']' :: rest, acc =>
    if depth == 0 then some (acc.reverse, rest) else closeBracket fuel (depth - 1) rest (']' :: acc)
  | fuel + 1, depth, '[' :: rest, acc => closeBracket fuel (depth + 1) rest ('[' :: acc)
  | fuel + 1, depth, '\\' :: c :: rest, acc => closeBracket fuel depth rest (c :: '\\' :: acc)
  | fuel + 1, depth, c :: rest, acc => closeBracket fuel depth rest (c :: acc)

def paramRef? (wordOf : String → Except SynIssue Word) (cs : List Char) :
    Except SynIssue (Option (Param × List Char)) :=
  match paramName? cs with
  | none => pure none
  | some (name, rest) =>
    if isName name then
      match rest with
      | '[' :: more =>
        match closeBracket (more.length + 1) 0 more [] with
        | some (['@'], after) => pure (some (.every name false, after))
        | some (['*'], after) => pure (some (.every name true, after))
        | some (inside, after) => do
          let index ← wordOf (String.ofList inside)
          pure (some (.element name index, after))
        | none => pure (some (.named name, rest))
      | _ => pure (some (.named name, rest))
    else pure (some (.named name, rest))

def splitTop (sep : Char) : Nat → Nat → List Char → List Char → List Char × Option (List Char)
  | 0, _, cs, acc => (acc.reverse ++ cs, none)
  | _ + 1, _, [], acc => (acc.reverse, none)
  | fuel + 1, depth, c :: rest, acc =>
    if c == sep && depth == 0 then (acc.reverse, some rest)
    else if c == '\\' then
      match rest with
      | d :: more => splitTop sep fuel depth more (d :: c :: acc)
      | [] => (acc.reverse ++ [c], none)
    else if c == '\'' then
      let body := rest.takeWhile (· != '\'')
      let after := rest.drop (body.length + 1)
      splitTop sep fuel depth after ('\'' :: (body.reverse ++ '\'' :: acc))
    else if c == '(' || c == '\x7b' || c == '[' then splitTop sep fuel (depth + 1) rest (c :: acc)
    else if (c == ')' || c == '\x7d' || c == ']') && depth > 0 then splitTop sep fuel (depth - 1) rest (c :: acc)
    else splitTop sep fuel depth rest (c :: acc)

def bashParamOp (wordOf : String → Except SynIssue Word) (src : String) (after : List Char) :
    Except SynIssue ParamOp :=
  let word (cs : List Char) := wordOf (String.ofList cs)
  let bad : Except SynIssue ParamOp := pure (.invalid src)
  match after with
  | [] => pure .plain
  | ':' :: k :: w =>
    if "-=?+".contains k then do pure (.fallback k true (← word w))
    else do
      let (offset, count) := splitTop ':' (w.length + 2) 0 (k :: w) []
      let offsetWord ← word offset
      match count with
      | some c => pure (.slice offsetWord (some (← word c)))
      | none => pure (.slice offsetWord none)
  | [':'] => bad
  | k :: w =>
    if "-=?+".contains k then do pure (.fallback k false (← word w))
    else if k == '#' || k == '%' then
      match w with
      | k2 :: w2 => if k2 == k then do pure (.trim (k == '%') true (← word w2))
                    else do pure (.trim (k == '%') false (← word w))
      | [] => pure (.trim (k == '%') false [])
    else if k == '/' then
      let (mode, body) := match w with
        | '/' :: r => (ReplaceMode.every, r)
        | '#' :: r => (.front, r)
        | '%' :: r => (.back, r)
        | r => (.first, r)
      let (pat, rep) := splitTop '/' (body.length + 2) 0 body []
      do pure (.replace mode (← word pat) (← word (rep.getD [])))
    else if k == '^' || k == ',' then
      match w with
      | k2 :: w2 => if k2 == k then do pure (.caseMap (k == '^') true (← word w2))
                    else do pure (.caseMap (k == '^') false (← word w))
      | [] => pure (.caseMap (k == '^') false [])
    else if k == '@' then
      match w with
      | [letter] => if "QEPAaUuLKk".contains letter then pure (.transform letter) else bad
      | _ => bad
    else bad

def bashParam (wordOf : String → Except SynIssue Word) (cs : List Char) (src : String)
    (inQuotes : Bool) : Except SynIssue Piece := do
  let bad := Piece.param (.named "") (.invalid src) inQuotes
  let withOp (target : Param) (after : List Char) : Except SynIssue Piece := do
    pure (.param target (← bashParamOp wordOf src after) inQuotes)
  match cs with
  | [] => pure bad
  | ['#'] => pure (.param (.named "#") .plain inQuotes)
  | '#' :: rest =>
    match ← paramRef? wordOf rest with
    | some (target, []) => pure (.param target .length inQuotes)
    | _ => withOp (.named "#") rest
  | ['!'] => pure (.param (.named "!") .plain inQuotes)
  | '!' :: rest =>
    let name := rest.takeWhile isNameChar
    let after := rest.drop name.length
    if !name.isEmpty && isNameStart (name.headD ' ') && (after == ['*'] || after == ['@']) then
      pure (.param (.prefixed (String.ofList name) (after == ['*'])) .plain inQuotes)
    else
      match ← paramRef? wordOf rest with
      | some (.every n joined, []) => pure (.param (.keys n joined) .plain inQuotes)
      | some (target, after) => withOp (.indirect target) after
      | none => withOp (.named "!") rest
  | _ =>
    match ← paramRef? wordOf cs with
    | some (target, after) => withOp target after
    | none => pure bad

def dashParam (wordOf : String → Except SynIssue Word) (cs : List Char) (inQuotes : Bool) :
    Except SynIssue Piece :=
  match cs with
  | ['#'] => pure (.param (.named "#") .plain inQuotes)
  | '#' :: name =>
    let n := String.ofList name
    if isName n || (n.length == 1 && isSpecialParam (name.headD ' ')) || (n.toList.all Char.isDigit && !n.isEmpty) then
      pure (.param (.named n) .length inQuotes)
    else .error .badSubstitution
  | c :: more =>
    let nameChars := if isNameStart c then c :: more.takeWhile isNameChar
      else if c.isDigit then c :: more.takeWhile Char.isDigit
      else if isSpecialParam c then [c] else []
    if nameChars.isEmpty then .error .badSubstitution
    else
      let name := String.ofList nameChars
      let param (op : ParamOp) : Piece := .param (.named name) op inQuotes
      match cs.drop nameChars.length with
      | [] => pure (param .plain)
      | ':' :: k :: w =>
        if "-=?+".contains k then do
          let word ← wordOf (String.ofList w)
          pure (param (.fallback k true word))
        else .error .badSubstitution
      | k :: w =>
        if "-=?+".contains k then do
          let word ← wordOf (String.ofList w)
          pure (param (.fallback k false word))
        else if k == '%' || k == '#' then
          match w with
          | k2 :: w2 =>
            if k2 == k then do
              let pat ← wordOf (String.ofList w2)
              pure (param (.trim (k == '%') true pat))
            else do
              let pat ← wordOf (String.ofList w)
              pure (param (.trim (k == '%') false pat))
          | [] => pure (param (.trim (k == '%') false []))
        else .error .badSubstitution
  | [] => .error .badSubstitution

mutual

def readDollar (bash inQuotes : Bool) : Nat → List Char → Except SynIssue (Option (Word × String × List Char × Nat))
  | 0, _ => .error .badSubstitution
  | fuel + 1, cs =>
    let wordOf := wordOfText bash fuel
    match cs with
    | '(' :: '(' :: rest =>
      match scanArith fuel 0 rest "" 0 with
      | .ok (text, after, lines) => do
        let expr ← wordOf text
        pure (some ([.arith expr inQuotes], "$((" ++ text ++ "))", after, lines))
      | .error _ => do
        let (text, after, lines) ← scanParens fuel 0 cs.tail "" 0
        pure (some ([.command text inQuotes], "$(" ++ text ++ ")", after, lines))
    | '(' :: rest => do
      let (text, after, lines) ← scanParens fuel 0 rest "" 0
      pure (some ([.command text inQuotes], "$(" ++ text ++ ")", after, lines))
    | '{' :: rest => do
      let (text, after, lines) ← scanBrace fuel 0 rest "" 0
      let src := "$\x7b" ++ text ++ "\x7d"
      let piece ← if bash then bashParam wordOf text.toList src inQuotes
        else dashParam wordOf text.toList inQuotes
      pure (some ([piece], src, after, lines))
    | '\'' :: rest =>
      if bash && !inQuotes then do
        let (body, after, lines) ← scanAnsi fuel rest "" 0
        let text := textOfBytes (ansiBytes (body.length + 1) body.toList .empty)
        pure (some ([.quoted text], "$'" ++ body ++ "'", after, lines))
      else pure none
    | '"' :: rest =>
      if bash && !inQuotes then do
        let (pieces, src, after, lines) ← readQuoted bash false fuel rest [] "" "" 0
        let pieces := if pieces.isEmpty then [Piece.quoted ""] else pieces
        pure (some (pieces, "$\"" ++ src ++ "\"", after, lines))
      else pure none
    | c :: rest =>
      if isNameStart c then
        let name := c :: rest.takeWhile isNameChar
        pure (some ([.param (.named (String.ofList name)) .plain inQuotes], "$" ++ String.ofList name,
          rest.drop (name.length - 1), 0))
      else if isSpecialParam c then
        pure (some ([.param (.named (String.singleton c)) .plain inQuotes], "$" ++ String.singleton c, rest, 0))
      else pure none
    | [] => pure none

/-- Reads the inside of double quotes up to the closing quote, or with `hereDoc` the body of
a here-document to its end, where a double quote is an ordinary character: pieces marked as
quoted, the source, the rest and the lines read. -/
def readQuoted (bash hereDoc : Bool) : Nat → List Char → Word → String → String → Nat →
    Except SynIssue (Word × String × List Char × Nat)
  | 0, _, _, _, _, _ => .error (.unterminatedQuote '"')
  | _ + 1, [], pieces, text, src, lines =>
    if hereDoc then .ok (pieces ++ (if text.isEmpty then [] else [.quoted text]), src, [], lines)
    else .error (.unterminatedQuote '"')
  | fuel + 1, '"' :: rest, pieces, text, src, lines =>
    if hereDoc then readQuoted bash hereDoc fuel rest pieces (text.push '"') (src.push '"') lines
    else .ok (pieces ++ (if text.isEmpty then [] else [.quoted text]), src, rest, lines)
  | fuel + 1, '\\' :: c :: rest, pieces, text, src, lines =>
    if c == '\n' then readQuoted bash hereDoc fuel rest pieces text (src ++ "\\\n") (lines + 1)
    else if c == '$' || c == '`' || (c == '"' && !hereDoc) || c == '\\' then
      readQuoted bash hereDoc fuel rest pieces (text.push c) ((src.push '\\').push c) lines
    else readQuoted bash hereDoc fuel rest pieces ((text.push '\\').push c) ((src.push '\\').push c) lines
  | fuel + 1, '$' :: rest, pieces, text, src, lines =>
    match readDollar bash true fuel rest with
    | .error e => .error e
    | .ok none => readQuoted bash hereDoc fuel rest pieces (text.push '$') (src.push '$') lines
    | .ok (some (found, psrc, after, l)) =>
      let pieces := pieces ++ (if text.isEmpty then [] else [.quoted text]) ++ found
      readQuoted bash hereDoc fuel after pieces "" (src ++ psrc) (lines + l)
  | fuel + 1, '`' :: rest, pieces, text, src, lines =>
    match scanBackquote true fuel rest "" 0 with
    | .error e => .error e
    | .ok (script, after, l) =>
      let pieces := pieces ++ (if text.isEmpty then [] else [.quoted text]) ++ [.command script true]
      readQuoted bash hereDoc fuel after pieces "" (src ++ "`" ++ script ++ "`") (lines + l)
  | fuel + 1, c :: rest, pieces, text, src, lines =>
    readQuoted bash hereDoc fuel rest pieces (text.push c) (src.push c) (if c == '\n' then lines + 1 else lines)

def readWordWith (bash delimited : Bool) : Nat → List Char → WordAcc → Nat → Except SynIssue (WordAcc × List Char × Nat)
  | 0, cs, acc, lines => .ok (acc, cs, lines)
  | _ + 1, [], acc, lines => .ok (acc, [], lines)
  | fuel + 1, c :: rest, acc, lines =>
    if delimited && c == '(' && bash && isAssignPrefix acc.raw then
      match scanParens fuel 0 rest "" 0 with
      | .error e => .error e
      | .ok (text, after, l) =>
        match listWords bash fuel text.toList with
        | .error e => .error e
        | .ok items =>
          readWordWith bash delimited fuel after (acc.addPiece (.list items) ("(" ++ text ++ ")")) (lines + l)
    else if delimited && isWordEnd c then .ok (acc, c :: rest, lines)
    else match c with
    | '\\' =>
      match rest with
      | '\n' :: more => readWordWith bash delimited fuel more { acc with raw := acc.raw ++ "\\\n" } (lines + 1)
      | d :: more => readWordWith bash delimited fuel more (acc.addPiece (.quoted (String.singleton d)) ("\\" ++ String.singleton d)) lines
      | [] => .ok (acc.addPiece (.quoted "\\") "\\", [], lines)
    | '\'' =>
      let body := rest.takeWhile (· != '\'')
      match rest.drop body.length with
      | [] => .error (.unterminatedQuote '\'')
      | _ :: more =>
        readWordWith bash delimited fuel more
          (acc.addPiece (.quoted (String.ofList body)) ("'" ++ String.ofList body ++ "'")) (lines + body.count '\n')
    | '"' =>
      match readQuoted bash false fuel rest [] "" "" 0 with
      | .error e => .error e
      | .ok (pieces, src, more, l) =>
        let acc := acc.flush
        let pieces := if pieces.isEmpty then [Piece.quoted ""] else pieces
        readWordWith bash delimited fuel more
          { acc with pieces := acc.pieces ++ pieces, raw := acc.raw ++ "\"" ++ src ++ "\"", plain := false } (lines + l)
    | '$' =>
      match readDollar bash false fuel rest with
      | .error e => .error e
      | .ok none => readWordWith bash delimited fuel rest (acc.addLit '$') lines
      | .ok (some (found, src, more, l)) =>
        let acc := acc.flush
        readWordWith bash delimited fuel more
          { acc with pieces := acc.pieces ++ found, raw := acc.raw ++ src, plain := false } (lines + l)
    | '`' =>
      match scanBackquote false fuel rest "" 0 with
      | .error e => .error e
      | .ok (script, more, l) =>
        readWordWith bash delimited fuel more (acc.addPiece (.command script false) ("`" ++ script ++ "`")) (lines + l)
    | '~' =>
      let leading := acc.raw.isEmpty
      let inAssignment := !leading && looksLikeAssignment acc.raw &&
        ((acc.raw.endsWith "=" && (acc.raw.splitOn "=").length == 2) || acc.raw.endsWith ":")
      if delimited && (leading || inAssignment) then
        let user := rest.takeWhile fun d => isNameChar d || d == '-' || d == '.' || d == '+'
        match rest.drop user.length with
        | [] | '/' :: _ | ' ' :: _ | '\t' :: _ | '\n' :: _ | ';' :: _ | '&' :: _ | '|' :: _
        | ')' :: _ | '<' :: _ | '>' :: _ =>
          readWordWith bash delimited fuel (rest.drop user.length)
            (acc.addPiece (.tilde (String.ofList user) leading) ("~" ++ String.ofList user)) lines
        | ':' :: _ =>
          if inAssignment then
            readWordWith bash delimited fuel (rest.drop user.length)
              (acc.addPiece (.tilde (String.ofList user) leading) ("~" ++ String.ofList user)) lines
          else readWordWith bash delimited fuel rest (acc.addLit '~') lines
        | _ => readWordWith bash delimited fuel rest (acc.addLit '~') lines
      else readWordWith bash delimited fuel rest (acc.addLit '~') lines
    | _ => readWordWith bash delimited fuel rest (acc.addLit c) (if c == '\n' then lines + 1 else lines)

def listWords (bash : Bool) : Nat → List Char → Except SynIssue (List Word)
  | 0, _ => pure []
  | fuel + 1, cs =>
    match cs.dropWhile (fun c => c == ' ' || c == '\t' || c == '\n') with
    | [] => pure []
    | '#' :: rest => listWords bash fuel (rest.dropWhile (· != '\n'))
    | start => do
      let (acc, after, _) ← readWordWith bash true fuel start {} 0
      if acc.raw.isEmpty then
        -- an operator character where a word should be: take it as text
        let (c, more) := (start.headD ' ', start.drop 1)
        let rest ← listWords bash fuel more
        pure ([Piece.lit (String.singleton c)] :: rest)
      else
        let rest ← listWords bash fuel after
        pure (acc.finish :: rest)

def wordOfText (bash : Bool) : Nat → String → Except SynIssue Word
  | 0, _ => .error .badSubstitution
  | depth + 1, text => do
    let (acc, _, _) ← readWordWith bash false depth text.toList {} 0
    pure acc.finish

end

def wordFuel (cs : List Char) : Nat :=
  4 * cs.length + 64

def readWord (bash : Bool) (cs : List Char) : Except SynIssue (WordAcc × List Char × Nat) :=
  readWordWith bash true (wordFuel cs) cs {} 0

def textWord (bash : Bool) (text : String) : Except SynIssue Word :=
  wordOfText bash (wordFuel text.toList) text

/-- Reads the body of a here-document whose delimiter was not quoted: parameters, command
substitutions and arithmetic are expanded in it, and a backslash quotes only `$`, a
backquote, a backslash and a newline. -/
def hereDocWord (bash : Bool) (body : String) : Except SynIssue Word := do
  let (pieces, _, _, _) ← readQuoted bash true (wordFuel body.toList) body.toList [] "" "" 0
  pure pieces

end Pipework.Posix
