import Pipework.Posix.Lex

/-! The parser of shell scripts, one complete command at a time, as a shell reads a script: a
command ends at a newline outside any compound command, and it runs before the next one is read. -/

namespace Pipework.Posix

/-- A here-document whose body is still to be read: its delimiter, whether leading tabs are
stripped, whether the delimiter was quoted (which keeps the body from being expanded), and
the line of its operator. -/
structure HereSpec where
  delimiter : String
  strip : Bool
  quoted : Bool
  line : Nat

/-- The parser's state: the rest of the script, the line reached, a token read ahead, the
here-documents whose bodies are still to come, the bodies read for the current command,
and warnings with the lines they are given at. -/
structure PState where
  input : List Char
  line : Nat := 1
  ahead : Option Tok := none
  bash : Bool := false
  pending : List HereSpec := []
  docs : Array Word := #[]
  warnings : List (Nat × String) := []

/-- Parsing actions. -/
abbrev P := StateT PState (Except SynErr)

def failWith {α : Type} (issue : SynIssue) : P α := do
  throw { line := (← get).line, issue }

def skipFiller : List Char → Nat → List Char × Nat
  | ' ' :: rest, lines => skipFiller rest lines
  | '\t' :: rest, lines => skipFiller rest lines
  | '\\' :: '\n' :: rest, lines => skipFiller rest (lines + 1)
  | '#' :: rest, lines => (rest.dropWhile (· != '\n'), lines)
  | cs, lines => (cs, lines)

def redirOpAt (bash : Bool) : List Char → Option (RedirOp × List Char)
  | '<' :: '<' :: '<' :: rest => if bash then some (.hereString, rest) else some (.hereDoc false, '<' :: rest)
  | '<' :: '<' :: '-' :: rest => some (.hereDoc true, rest)
  | '<' :: '<' :: rest => some (.hereDoc false, rest)
  | '<' :: '&' :: rest => some (.dupInput, rest)
  | '<' :: '>' :: rest => some (.readWrite, rest)
  | '<' :: rest => some (.input, rest)
  | '>' :: '>' :: rest => some (.append, rest)
  | '>' :: '&' :: rest => some (.dupOutput, rest)
  | '>' :: '|' :: rest => some (.clobber, rest)
  | '>' :: rest => some (.output, rest)
  | _ => none

/-- The lines of a here-document's body up to its delimiter line: the body, the rest of
the input, the lines read and whether the delimiter was found. With `strip`, leading tabs
are taken from every line, the delimiter line included. -/
def takeHereBody (spec : HereSpec) : Nat → List Char → String → Nat → String × List Char × Nat × Bool
  | 0, cs, body, lines => (body, cs, lines, false)
  | _ + 1, [], body, lines => (body, [], lines, false)
  | fuel + 1, cs, body, lines =>
    let lineChars := cs.takeWhile (· != '\n')
    let hasNewline := lineChars.length < cs.length
    let after := cs.drop (lineChars.length + 1)
    let content := if spec.strip then lineChars.dropWhile (· == '\t') else lineChars
    let lines := if hasNewline then lines + 1 else lines
    if String.ofList content == spec.delimiter then (body, after, lines, true)
    else takeHereBody spec fuel after (body ++ String.ofList content ++ (if hasNewline then "\n" else "")) lines

def readBodies : List HereSpec → P Unit
  | [] => pure ()
  | spec :: more => do
    let st ← get
    let (body, rest, lines, found) := takeHereBody spec (st.input.length + 1) st.input "" 0
    let word ← if spec.quoted then pure (if body.isEmpty then [] else [Piece.quoted body])
      else match hereDocWord st.bash body with
        | .ok w => pure w
        | .error issue => failWith issue
    let warnings := if found || !st.bash then st.warnings
      else st.warnings ++ [(st.line + lines, "warning: here-document at line " ++ toString spec.line ++
        " delimited by end-of-file (wanted `" ++ spec.delimiter ++ "')")]
    set { st with input := rest, line := st.line + lines, docs := st.docs.push word, warnings }
    readBodies more

def readPendingBodies : P Unit := do
  let pending := (← get).pending
  modify fun st => { st with pending := [] }
  readBodies pending

def readTok : P Tok := do
  let st ← get
  let (cs, extra) := skipFiller st.input 0
  let line := st.line + extra
  let give (tok : Tok) (rest : List Char) (lines : Nat := 0) : P Tok := do
    set { st with input := rest, line := line + lines }
    return tok
  let bash := st.bash
  match cs with
  | [] =>
    set { st with input := [], line }
    readPendingBodies
    return .eof
  | '\n' :: rest =>
    set { st with input := rest, line := line + 1 }
    readPendingBodies
    return .op "\n"
  | '&' :: '&' :: rest => give (.op "&&") rest
  | '&' :: '>' :: '>' :: rest =>
    if bash then give (.redir none .bothAppend) rest else give (.op "&") ('>' :: '>' :: rest)
  | '&' :: '>' :: rest => if bash then give (.redir none .both) rest else give (.op "&") ('>' :: rest)
  | '&' :: rest => give (.op "&") rest
  | '|' :: '|' :: rest => give (.op "||") rest
  | '|' :: rest => give (.op "|") rest
  | ';' :: ';' :: '&' :: rest => if bash then give (.op ";;&") rest else give (.op ";;") ('&' :: rest)
  | ';' :: ';' :: rest => give (.op ";;") rest
  | ';' :: '&' :: rest => if bash then give (.op ";&") rest else give (.op ";") ('&' :: rest)
  | ';' :: rest => give (.op ";") rest
  | '(' :: '(' :: rest =>
    if bash then
      match scanArith (rest.length + 1) 0 rest "" 0 with
      | .ok (text, after, lines) => give (.dparen text) after lines
      | .error _ => give (.op "(") ('(' :: rest)
    else give (.op "(") ('(' :: rest)
  | '(' :: rest => give (.op "(") rest
  | ')' :: rest => give (.op ")") rest
  | d :: rest =>
    match redirOpAt bash cs with
    | some (op, after) => give (.redir none op) after
    | none =>
      match (if d.isDigit then redirOpAt bash rest else none) with
      | some (op, after) => give (.redir (some (d.toNat - 48)) op) after
      | none =>
        match readWord bash cs with
        | .error issue =>
          set { st with input := [], line := line + cs.count '\n' }
          failWith issue
        | .ok (acc, after, lines) => give (.word acc.finish acc.raw acc.plain) after lines

def peekTok : P Tok := do
  match (← get).ahead with
  | some t => return t
  | none =>
    let t ← readTok
    modify fun st => { st with ahead := some t }
    return t

def nextTok : P Tok := do
  match (← get).ahead with
  | some t => modify (fun st => { st with ahead := none }); return t
  | none => readTok

def unexpected {α : Type} (tok : Tok) (expecting : Option String := none) : P α :=
  failWith (.unexpected tok expecting)

def Tok.isWord (t : Tok) (w : String) : Bool :=
  match t with
  | .word _ raw true => raw == w
  | _ => false

def Tok.isOp (t : Tok) (o : String) : Bool :=
  match t with
  | .op text => text == o
  | _ => false

def Tok.isEof : Tok → Bool
  | .eof => true
  | _ => false

def skipNewlines : Nat → P Unit
  | 0 => pure ()
  | fuel + 1 => do
    if (← peekTok).isOp "\n" then
      let _ ← nextTok
      skipNewlines fuel

def expectWord (w : String) : P Unit := do
  let t ← nextTok
  if !t.isWord w then unexpected t (some ("\"" ++ w ++ "\""))

def endsList (t : Tok) : Bool :=
  ["then", "else", "elif", "fi", "do", "done", "esac", "\x7d"].any t.isWord ||
    t.isOp ")" || t.isOp ";;" || t.isOp ";&" || t.isOp ";;&" || t.isEof

def subscriptItems : Nat → Nat → List WordItem → List WordItem → Option (List WordItem × List WordItem)
  | 0, _, _, _ => none
  | _ + 1, _, [], _ => none
  | fuel + 1, depth, .char ']' :: rest, acc =>
    if depth == 0 then some (acc.reverse, rest) else subscriptItems fuel (depth - 1) rest (.char ']' :: acc)
  | fuel + 1, depth, .char '[' :: rest, acc => subscriptItems fuel (depth + 1) rest (.char '[' :: acc)
  | fuel + 1, depth, item :: rest, acc => subscriptItems fuel depth rest (item :: acc)

def assignValueOf (items : List WordItem) : AssignValue :=
  match items with
  | [.piece (.list words)] => .list words
  | _ => .scalar (itemsWord items)

def assignmentOf (bash : Bool) (w : Word) : Option Assign :=
  let items := wordItems w
  let nameChars := items.takeWhile fun | .char c => isNameChar c | _ => false
  let name := String.ofList (nameChars.filterMap fun | .char c => some c | _ => none)
  if !isName name then none
  else
    let afterName := items.drop nameChars.length
    let (index, afterIndex) : Option (Option Word × List WordItem) × Unit :=
      match afterName with
      | .char '[' :: rest =>
        if bash then
          match subscriptItems (rest.length + 1) 0 rest [] with
          | some (inside, after) => (some (some (itemsWord inside), after), ())
          | none => (none, ())
        else (none, ())
      | _ => (some (none, afterName), ())
    let _ := afterIndex
    match index with
    | none => none
    | some (idx, rest) =>
      match rest with
      | .char '=' :: value => some { name, index := idx, value := assignValueOf value }
      | .char '+' :: .char '=' :: value =>
        if bash then some { name, index := idx, append := true, value := assignValueOf value } else none
      | _ => none

def hasList (w : Word) : Bool :=
  w.any fun | .list _ => true | _ => false

def declarationCommands : List String :=
  ["declare", "typeset", "local", "export", "readonly"]

def unquoteDelimiter : Nat → List Char → List Char
  | 0, _ => []
  | _ + 1, [] => []
  | fuel + 1, '\\' :: c :: rest => c :: unquoteDelimiter fuel rest
  | fuel + 1, '\'' :: rest =>
    let body := rest.takeWhile (· != '\'')
    body ++ unquoteDelimiter fuel (rest.drop (body.length + 1))
  | fuel + 1, '"' :: rest => unquoteDelimiter fuel rest
  | fuel + 1, c :: rest => c :: unquoteDelimiter fuel rest

/-- Reads the target word of a redirection. In dash a descriptor duplication needs a
number or `-` when its target is written plainly. The word of a here-document is its
delimiter; its body is read later and the target is left empty until then. -/
def redirTarget (op : RedirOp) : P Word := do
  match ← nextTok with
  | .word w raw plain =>
    if (op == .dupInput || op == .dupOutput) && plain && !(← get).bash &&
        !(raw == "-" || (!raw.isEmpty && raw.toList.all Char.isDigit)) then
      failWith .badFdNumber
    match op with
    | .hereDoc strip =>
      let quoted := raw.any fun c => c == '\'' || c == '"' || c == '\\'
      let delimiter := String.ofList (unquoteDelimiter (raw.length + 1) raw.toList)
      modify fun st => { st with pending := st.pending ++ [{ delimiter, strip, quoted, line := st.line }] }
      return []
    | _ => return w
  | t => unexpected t

def trailingRedirs : Nat → P (List Redir)
  | 0 => pure []
  | fuel + 1 => do
    match ← peekTok with
    | .redir fd op =>
      let _ ← nextTok
      let target ← redirTarget op
      let more ← trailingRedirs fuel
      return { fd := fd, op := op, target := target } :: more
    | _ => return []

def condUnaryOps : List String :=
  ["-a", "-b", "-c", "-d", "-e", "-f", "-g", "-h", "-k", "-p", "-r", "-s", "-t", "-u", "-w", "-x",
   "-G", "-L", "-N", "-O", "-S", "-n", "-z", "-o", "-v", "-R"]

def condBinaryOps : List String :=
  ["==", "=", "!=", "=~", "-eq", "-ne", "-lt", "-le", "-gt", "-ge", "-nt", "-ot", "-ef"]

def condBinaryOp? : Tok → Option String
  | .word _ raw true => if condBinaryOps.contains raw then some raw else none
  | .redir none .input => some "<"
  | .redir none .output => some ">"
  | _ => none

def regexText : Nat → Nat → List Char → String → String × List Char
  | 0, _, cs, acc => (acc, cs)
  | _ + 1, _, [], acc => (acc, [])
  | fuel + 1, depth, c :: rest, acc =>
    if depth == 0 && (c == ' ' || c == '\t' || c == '\n') then (acc, c :: rest)
    else if c == '\\' then
      match rest with
      | d :: more => regexText fuel depth more ((acc.push c).push d)
      | [] => (acc.push c, [])
    else if c == '\'' || c == '"' then
      let body := rest.takeWhile (· != c)
      regexText fuel depth (rest.drop (body.length + 1)) (acc.push c ++ String.ofList body |>.push c)
    else if c == '(' then regexText fuel (depth + 1) rest (acc.push c)
    else if c == ')' && depth > 0 then regexText fuel (depth - 1) rest (acc.push c)
    else regexText fuel depth rest (acc.push c)

def regexWord : P Word := do
  let st ← get
  let cs := st.input.dropWhile fun c => c == ' ' || c == '\t'
  let (text, rest) := regexText (cs.length + 1) 0 cs ""
  set { st with input := rest }
  match textWord true text with
  | .ok w => return w
  | .error issue => failWith issue

def arithForParts (text : String) : Option (String × String × String) :=
  let (a, rest) := splitTop ';' (text.length + 2) 0 text.toList []
  match rest with
  | some r =>
    let (b, rest2) := splitTop ';' (r.length + 2) 0 r []
    match rest2 with
    | some c => some (String.ofList a, String.ofList b, String.ofList c)
    | none => none
  | none => none

def wordFrom (text : String) : P Word := do
  match textWord (← get).bash text with
  | .ok w => return w
  | .error issue => failWith issue

mutual

def parseList (fuel : Nat) (top : Bool) : P Cmd := do
  match fuel with
  | 0 => failWith (.unexpected .eof none)
  | fuel + 1 =>
    let first ← parseAndOr fuel
    let items ← listRest fuel top [first]
    return match items with
      | [one] => one
      | many => .sequence many

def listRest (fuel : Nat) (top : Bool) (items : List Cmd) : P (List Cmd) := do
  match fuel with
  | 0 => return items
  | fuel + 1 =>
    let t ← peekTok
    if t.isOp ";" || t.isOp "&" then
      let _ ← nextTok
      let items := if t.isOp "&" then
          match items.reverse with
          | last :: before => (Cmd.background last :: before).reverse
          | [] => items
        else items
      if !top then skipNewlines fuel
      let t2 ← peekTok
      if t2.isOp "\n" || t2.isEof || (!top && endsList t2) then
        return items
      let next ← parseAndOr fuel
      listRest fuel top (items ++ [next])
    else if t.isOp "\n" then
      if top then return items
      skipNewlines fuel
      let t2 ← peekTok
      if endsList t2 then return items
      let next ← parseAndOr fuel
      listRest fuel top (items ++ [next])
    else if top && !t.isEof then unexpected t
    else return items

def parseAndOr (fuel : Nat) : P Cmd := do
  match fuel with
  | 0 => failWith (.unexpected .eof none)
  | fuel + 1 =>
    let first ← parsePipeline fuel
    let rest ← andOrRest fuel
    return if rest.isEmpty then first else .andOr first rest

def andOrRest (fuel : Nat) : P (List (Bool × Cmd)) := do
  match fuel with
  | 0 => return []
  | fuel + 1 =>
    let t ← peekTok
    if t.isOp "&&" || t.isOp "||" then
      let _ ← nextTok
      skipNewlines fuel
      let next ← parsePipeline fuel
      let more ← andOrRest fuel
      return (t.isOp "&&", next) :: more
    else return []

def parsePipeline (fuel : Nat) : P Cmd := do
  match fuel with
  | 0 => failWith (.unexpected .eof none)
  | fuel + 1 =>
    let negate := (← peekTok).isWord "!"
    if negate then let _ ← nextTok
    let first ← parseCommand fuel
    let rest ← pipeRest fuel
    return if rest.isEmpty && !negate then first else .pipeline negate (first :: rest)

def pipeRest (fuel : Nat) : P (List Cmd) := do
  match fuel with
  | 0 => return []
  | fuel + 1 =>
    if (← peekTok).isOp "|" then
      let _ ← nextTok
      skipNewlines fuel
      let next ← parseCommand fuel
      let more ← pipeRest fuel
      return next :: more
    else return []

def compoundList (fuel : Nat) : P Cmd := do
  match fuel with
  | 0 => failWith (.unexpected .eof none)
  | fuel + 1 =>
    skipNewlines fuel
    parseList fuel false

def loopBody (fuel : Nat) : P Cmd := do
  match fuel with
  | 0 => failWith (.unexpected .eof none)
  | fuel + 1 =>
    if (← get).bash && (← peekTok).isWord "\x7b" then
      let _ ← nextTok
      let body ← compoundList fuel
      expectWord "\x7d"
      return body
    expectWord "do"
    let body ← compoundList fuel
    expectWord "done"
    return body

def parseCommand (fuel : Nat) : P Cmd := do
  match fuel with
  | 0 => failWith (.unexpected .eof none)
  | fuel + 1 =>
    let t ← peekTok
    let bash := (← get).bash
    if t.isOp "(" then
      let _ ← nextTok
      let body ← compoundList fuel
      let close ← nextTok
      if !close.isOp ")" then unexpected close (some "\")\"")
      return .subshell body (← trailingRedirs fuel)
    else if t.isWord "\x7b" then
      let _ ← nextTok
      let body ← compoundList fuel
      expectWord "\x7d"
      return .group body (← trailingRedirs fuel)
    else if t.isWord "if" then
      let _ ← nextTok
      let cond ← compoundList fuel
      expectWord "then"
      let thenPart ← compoundList fuel
      let (branches, otherwise) ← ifRest fuel
      return .ifThen ((cond, thenPart) :: branches) otherwise (← trailingRedirs fuel)
    else if t.isWord "while" || t.isWord "until" then
      let _ ← nextTok
      let cond ← compoundList fuel
      expectWord "do"
      let body ← compoundList fuel
      expectWord "done"
      return .whileLoop (t.isWord "until") cond body (← trailingRedirs fuel)
    else if t.isWord "for" then
      let _ ← nextTok
      let line := (← get).line
      match ← peekTok with
      | .dparen text =>
        let _ ← nextTok
        match arithForParts text with
        | none => unexpected (.dparen text)
        | some (a, b, c) =>
          let init ← wordFrom a
          let test ← wordFrom b
          let step ← wordFrom c
          if (← peekTok).isOp ";" then let _ ← nextTok
          skipNewlines fuel
          let body ← loopBody fuel
          return .arithFor init test step body (← trailingRedirs fuel) line
      | _ =>
      let name ← match ← nextTok with
        | .word _ raw true => if isName raw then pure raw else unexpected (.word [] raw true)
        | other => unexpected other
      skipNewlines fuel
      let words ← if (← peekTok).isWord "in" then do
          let _ ← nextTok
          let ws ← forWords fuel
          pure (some ws)
        else do
          if (← peekTok).isOp ";" then let _ ← nextTok
          pure none
      skipNewlines fuel
      let body ← loopBody fuel
      return .forLoop name words body (← trailingRedirs fuel)
    else if t.isWord "case" then
      let _ ← nextTok
      let subject ← match ← nextTok with
        | .word w _ _ => pure w
        | other => unexpected other
      skipNewlines fuel
      expectWord "in"
      let arms ← caseArms fuel
      return .caseOf subject arms (← trailingRedirs fuel)
    else if bash && t.isWord "[[" then
      let line := (← get).line
      let _ ← nextTok
      let e ← condOr fuel
      let close ← nextTok
      if !close.isWord "]]" then unexpected close
      return .test e (← trailingRedirs fuel) line
    else if bash && t.isWord "function" then
      let _ ← nextTok
      let name ← match ← nextTok with
        | .word _ raw _ => pure raw
        | other => unexpected other
      if (← peekTok).isOp "(" then
        let _ ← nextTok
        let close ← nextTok
        if !close.isOp ")" then unexpected close
      skipNewlines fuel
      let body ← parseCommand fuel
      return .function name body
    else
      match t with
      | .dparen text =>
        let line := (← get).line
        let _ ← nextTok
        let expr ← wordFrom text
        return .arithmetic expr (← trailingRedirs fuel) line
      | .word _ _ _ | .redir _ _ => parseSimple fuel
      | other => unexpected other

def ifRest (fuel : Nat) : P (List (Cmd × Cmd) × Option Cmd) := do
  match fuel with
  | 0 => failWith (.unexpected .eof none)
  | fuel + 1 =>
    let t ← nextTok
    if t.isWord "elif" then
      let cond ← compoundList fuel
      expectWord "then"
      let body ← compoundList fuel
      let (more, otherwise) ← ifRest fuel
      return ((cond, body) :: more, otherwise)
    else if t.isWord "else" then
      let body ← compoundList fuel
      expectWord "fi"
      return ([], some body)
    else if t.isWord "fi" then return ([], none)
    else unexpected t (some "\"fi\"")

def forWords (fuel : Nat) : P (List Word) := do
  match fuel with
  | 0 => return []
  | fuel + 1 =>
    match ← nextTok with
    | .word w _ _ => return w :: (← forWords fuel)
    | t =>
      if t.isOp ";" || t.isOp "\n" then return []
      else unexpected t

def caseArms (fuel : Nat) : P (List (List Word × Cmd × CaseEnd)) := do
  match fuel with
  | 0 => failWith (.unexpected .eof none)
  | fuel + 1 =>
    skipNewlines fuel
    let t ← peekTok
    if t.isWord "esac" then let _ ← nextTok; return []
    if t.isOp "(" then let _ ← nextTok
    let patterns ← casePatterns fuel
    skipNewlines fuel
    let t2 ← peekTok
    let body ← if t2.isOp ";;" || t2.isOp ";&" || t2.isOp ";;&" || t2.isWord "esac" then pure (Cmd.sequence [])
      else compoundList fuel
    let t3 ← nextTok
    if t3.isOp ";;" then return (patterns, body, .stop) :: (← caseArms fuel)
    else if t3.isOp ";&" then return (patterns, body, .fallThrough) :: (← caseArms fuel)
    else if t3.isOp ";;&" then return (patterns, body, .retest) :: (← caseArms fuel)
    else if t3.isWord "esac" then return [(patterns, body, .stop)]
    else unexpected t3 (some "\";;\"")

def casePatterns (fuel : Nat) : P (List Word) := do
  match fuel with
  | 0 => return []
  | fuel + 1 =>
    match ← nextTok with
    | .word w _ _ =>
      let t ← nextTok
      if t.isOp ")" then return [w]
      else if t.isOp "|" then return w :: (← casePatterns fuel)
      else unexpected t (some "\")\"")
    | t => unexpected t

def condOr (fuel : Nat) : P CondExpr := do
  match fuel with
  | 0 => failWith (.unexpected .eof none)
  | fuel + 1 =>
    let a ← condAnd fuel
    if (← peekTok).isOp "||" then
      let _ ← nextTok
      skipNewlines fuel
      return .or a (← condOr fuel)
    return a

def condAnd (fuel : Nat) : P CondExpr := do
  match fuel with
  | 0 => failWith (.unexpected .eof none)
  | fuel + 1 =>
    let a ← condNot fuel
    if (← peekTok).isOp "&&" then
      let _ ← nextTok
      skipNewlines fuel
      return .and a (← condAnd fuel)
    return a

def condNot (fuel : Nat) : P CondExpr := do
  match fuel with
  | 0 => failWith (.unexpected .eof none)
  | fuel + 1 =>
    if (← peekTok).isWord "!" then
      let _ ← nextTok
      return .not (← condNot fuel)
    condPrimary fuel

def condPrimary (fuel : Nat) : P CondExpr := do
  match fuel with
  | 0 => failWith (.unexpected .eof none)
  | fuel + 1 =>
    skipNewlines fuel
    match ← nextTok with
    | .op "(" =>
      let e ← condOr fuel
      let close ← nextTok
      if !close.isOp ")" then unexpected close
      return e
    | .word w raw plain =>
      if plain && raw == "]]" then unexpected (.word w raw plain)
      let t ← peekTok
      if plain && condUnaryOps.contains raw && !t.isWord "]]" && (match t with | .word _ _ _ => true | _ => false) then
        match ← nextTok with
        | .word arg _ _ => return .unary raw arg
        | other => unexpected other
      match condBinaryOp? t with
      | some op =>
        let _ ← nextTok
        if op == "=~" then
          return .binary op w (← regexWord)
        match ← nextTok with
        | .word rhs _ _ => return .binary op w rhs
        | other => unexpected other
      | none => return .word w
    | other => unexpected other

def parseSimple (fuel : Nat) : P Cmd := do
  let line := (← get).line
  let (assigns, words, redirs) ← simpleParts fuel [] [] []
  if words.length == 1 && redirs.isEmpty && assigns.isEmpty && (← peekTok).isOp "(" then
    let _ ← nextTok
    let close ← nextTok
    if !close.isOp ")" then unexpected close (some "\")\"")
    skipNewlines fuel
    let body ← parseCommand fuel
    let name := match words with
      | [[.lit n]] => n
      | _ => ""
    return .function name body
  return .simple assigns words redirs line

def simpleParts (fuel : Nat) (assigns : List Assign) (words : List Word) (redirs : List Redir) :
    P (List Assign × List Word × List Redir) := do
  match fuel with
  | 0 => return (assigns, words, redirs)
  | fuel + 1 =>
    let bash := (← get).bash
    match ← peekTok with
    | .word w raw plain =>
      let _ ← nextTok
      let declaring := match words with
        | [[.lit n]] => declarationCommands.contains n
        | _ => false
      match (if words.isEmpty then assignmentOf bash w else none) with
      | some a => simpleParts fuel (assigns ++ [a]) words redirs
      | none =>
        if hasList w && !declaring then unexpected (.op "(")
        let _ := (raw, plain)
        simpleParts fuel assigns (words ++ [w]) redirs
    | .redir fd op =>
      let _ ← nextTok
      let target ← redirTarget op
      simpleParts fuel assigns words (redirs ++ [{ fd := fd, op := op, target := target }])
    | _ => return (assigns, words, redirs)

end

def fillRedirs : List Redir → StateM (List Word) (List Redir)
  | [] => pure []
  | r :: rest => do
    let r ← match r.op with
      | .hereDoc _ => do
        match ← get with
        | body :: more => set more; pure { r with target := body }
        | [] => pure r
      | _ => pure r
    return r :: (← fillRedirs rest)

mutual

def Cmd.fillDocs : Cmd → StateM (List Word) Cmd
  | .simple a w r l => return .simple a w (← fillRedirs r) l
  | .pipeline n stages => return .pipeline n (← fillCmds stages)
  | .andOr first rest => do
    let first ← first.fillDocs
    return .andOr first (← fillPairs rest)
  | .sequence items => return .sequence (← fillCmds items)
  | .background body => return .background (← body.fillDocs)
  | .group body r => do
    let body ← body.fillDocs
    return .group body (← fillRedirs r)
  | .subshell body r => do
    let body ← body.fillDocs
    return .subshell body (← fillRedirs r)
  | .ifThen branches otherwise r => do
    let branches ← fillBranches branches
    let otherwise ← fillOption otherwise
    return .ifThen branches otherwise (← fillRedirs r)
  | .forLoop n ws body r => do
    let body ← body.fillDocs
    return .forLoop n ws body (← fillRedirs r)
  | .arithFor a b c body r l => do
    let body ← body.fillDocs
    return .arithFor a b c body (← fillRedirs r) l
  | .whileLoop u cond body r => do
    let cond ← cond.fillDocs
    let body ← body.fillDocs
    return .whileLoop u cond body (← fillRedirs r)
  | .caseOf subject arms r => do
    let arms ← fillArms arms
    return .caseOf subject arms (← fillRedirs r)
  | .function n body => return .function n (← body.fillDocs)
  | .arithmetic e r l => return .arithmetic e (← fillRedirs r) l
  | .test e r l => return .test e (← fillRedirs r) l

def fillCmds : List Cmd → StateM (List Word) (List Cmd)
  | [] => pure []
  | c :: cs => do
    let c ← c.fillDocs
    return c :: (← fillCmds cs)

def fillPairs : List (Bool × Cmd) → StateM (List Word) (List (Bool × Cmd))
  | [] => pure []
  | (b, c) :: rest => do
    let c ← c.fillDocs
    return (b, c) :: (← fillPairs rest)

def fillBranches : List (Cmd × Cmd) → StateM (List Word) (List (Cmd × Cmd))
  | [] => pure []
  | (c, b) :: rest => do
    let c ← c.fillDocs
    let b ← b.fillDocs
    return (c, b) :: (← fillBranches rest)

def fillOption : Option Cmd → StateM (List Word) (Option Cmd)
  | none => pure none
  | some c => return some (← c.fillDocs)

def fillArms : List (List Word × Cmd × CaseEnd) → StateM (List Word) (List (List Word × Cmd × CaseEnd))
  | [] => pure []
  | (ps, c, e) :: rest => do
    let c ← c.fillDocs
    return (ps, c, e) :: (← fillArms rest)

end

/-- Reads the next complete command of a script: `none` at the end of the script. With the
command comes whether the script ended right after it. The here-document bodies read for
it are put in place. -/
def nextCommand (fuel : Nat) : P (Option (Cmd × Bool)) := do
  modify fun st => { st with docs := #[] }
  skipNewlines fuel
  match ← peekTok with
  | .eof => return none
  | _ =>
    let cmd ← parseList fuel true
    let t ← nextTok
    let atEnd ← match t with
      | .eof => pure true
      | _ => if t.isOp "\n" then pure false else unexpected t
    let docs := (← get).docs.toList
    let (cmd, _) := (cmd.fillDocs).run docs
    return some (cmd, atEnd)

end Pipework.Posix
