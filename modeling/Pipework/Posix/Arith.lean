import Pipework.Posix.Lex

/-! Arithmetic expansion `$((...))`: expressions over signed 64-bit integers with the C operators
and their precedence, variables read as numbers, and the assignment operators. -/

namespace Pipework.Posix

/-- A token of an arithmetic expression. -/
inductive ATok where
  | num (value : Int64)
  | name (text : String)
  /-- An array element `name[index]`, with the text of its index. -/
  | elem (name : String) (index : String)
  | op (text : String)
  /-- A character that starts no token. -/
  | bad
  /-- A number bash cannot read, with the reason. -/
  | badNum (message : String)
  | done
  deriving Inhabited, BEq

/-- A token with the position where it starts in the expression's text. -/
structure AToken where
  kind : ATok
  start : Nat
  deriving Inhabited

def readDigits (base : Nat) : List Char → Nat → Nat × List Char
  | [], acc => (acc, [])
  | c :: rest, acc =>
    let d := (hexValue? c).getD 99
    if d < base then readDigits base rest (acc * base + d) else (acc, c :: rest)

/-- Reads a number the way `strtoimax` does with base zero: a prefix `0x` means
hexadecimal, a leading `0` octal. Values beyond the range are clamped to it; with `neg`
the number is negated first, so that the most negative value is reached. -/
def readNumber (cs : List Char) (neg : Bool := false) : Int64 × List Char × Bool :=
  let (n, rest) := match cs with
    | '0' :: x :: d :: more =>
      if (x == 'x' || x == 'X') && (hexValue? d).isSome then readDigits 16 (d :: more) 0
      else readDigits 8 cs 0
    | '0' :: _ => readDigits 8 cs 0
    | _ => readDigits 10 cs 0
  let limit := Nat.pow 2 63
  if neg then
    if n > limit then (Int64.ofInt (-(limit : Int)), rest, true)
    else (Int64.ofInt (-(n : Int)), rest, false)
  else if n ≥ limit then (Int64.ofNat (limit - 1), rest, n > limit - 1)
  else (Int64.ofNat n, rest, false)

def isNumberChar (c : Char) : Bool :=
  c.isAlphanum || c == '@' || c == '_'

def bashDigit (base : Nat) (c : Char) : Nat :=
  if c.isDigit then c.toNat - 48
  else if 'a' ≤ c && c ≤ 'z' then c.toNat - 87
  else if 'A' ≤ c && c ≤ 'Z' then c.toNat - 65 + (if base ≤ 36 then 10 else 36)
  else if c == '@' then 62
  else 63

def bashDigits : Nat → Nat → Bool → List Char → Int64 → Except String Int64
  | 0, _, _, _, v => .ok v
  | _ + 1, _, _, [], v => .ok v
  | fuel + 1, base, found, c :: rest, v =>
    if c == '#' then
      if found then .error "invalid number"
      else if v < 2 || v > 64 then .error "invalid arithmetic base"
      else if !(isNumberChar (rest.headD ' ')) then .error "invalid integer constant"
      else bashDigits fuel v.toInt.toNat true rest 0
    else
      let d := bashDigit base c
      if d ≥ base then .error "value too great for base"
      else bashDigits fuel base found rest (v * Int64.ofNat base + Int64.ofNat d)

def bashNumber (cs : List Char) : Except String Int64 :=
  match cs with
  | ['0'] => .ok 0
  | '0' :: x :: r =>
    if x == 'x' || x == 'X' then bashDigits (r.length + 1) 16 true r 0
    else bashDigits (r.length + 2) 8 true (x :: r) 0
  | _ => bashDigits (cs.length + 1) 10 false cs 0

def bashArithOps : List String :=
  ["<<=", ">>=", "**", "<<", ">>", "<=", ">=", "==", "!=", "&&", "||", "*=", "/=", "%=", "+=",
   "-=", "&=", "^=", "|=", "+", "-", "*", "/", "%", "<", ">", "&", "^", "|", "!", "~", "?", ":",
   "=", "(", ")", ","]

def dashArithOps : List String :=
  ["<<=", ">>=", "<<", ">>", "<=", ">=", "==", "!=", "&&", "||", "*=", "/=", "%=", "+=", "-=",
   "&=", "^=", "|=", "+", "-", "*", "/", "%", "<", ">", "&", "^", "|", "!", "~", "?", ":", "=",
   "(", ")"]

def isArithBlank (c : Char) : Bool :=
  c == ' ' || c == '\t' || c == '\n' || c == '\r'

def ATok.isVariable : ATok → Bool
  | .name _ | .elem _ _ => true
  | _ => false

def arithTokens (bash : Bool) : Nat → List Char → Nat → ATok → List AToken
  | 0, _, pos, _ => [⟨.done, pos⟩]
  | _ + 1, [], pos, _ => [⟨.done, pos⟩]
  | fuel + 1, c :: rest, pos, prev =>
    if isArithBlank c then arithTokens bash fuel rest (pos + 1) prev
    else if c.isDigit then
      if bash then
        let text := c :: rest.takeWhile fun d => isNumberChar d || d == '#'
        let after := (c :: rest).drop text.length
        let tok := match bashNumber text with
          | .ok v => ATok.num v
          | .error m => .badNum m
        ⟨tok, pos⟩ :: arithTokens bash fuel after (pos + text.length) tok
      else
        let (n, after, _) := readNumber (c :: rest)
        let used := rest.length + 1 - after.length
        ⟨.num n, pos⟩ :: arithTokens bash fuel after (pos + used) (.num n)
    else if isNameStart c then
      let name := c :: rest.takeWhile isNameChar
      let after := rest.drop (name.length - 1)
      match bash, after with
      | true, '[' :: more =>
        match closeBracket (more.length + 1) 0 more [] with
        | some (inside, after2) =>
          let tok := ATok.elem (String.ofList name) (String.ofList inside)
          ⟨tok, pos⟩ :: arithTokens bash fuel after2 (pos + name.length + inside.length + 2) tok
        | none => [⟨.badNum "bad array subscript", pos⟩]
      | _, _ =>
        let tok := ATok.name (String.ofList name)
        ⟨tok, pos⟩ :: arithTokens bash fuel after (pos + name.length) tok
    else
      let cs := c :: rest
      let incDec := bash && (c == '+' || c == '-') && rest.headD ' ' == c
      if incDec && prev.isVariable then
        let tok := ATok.op (if c == '+' then "x++" else "x--")
        ⟨tok, pos⟩ :: arithTokens bash fuel (rest.drop 1) (pos + 2) tok
      else if incDec && isNameStart ((rest.drop 1).dropWhile isArithBlank |>.headD ' ') then
        let tok := ATok.op (if c == '+' then "++x" else "--x")
        ⟨tok, pos⟩ :: arithTokens bash fuel (rest.drop 1) (pos + 2) tok
      else if incDec then
        let tok := ATok.op (String.singleton c)
        ⟨tok, pos⟩ :: arithTokens bash fuel rest (pos + 1) tok
      else
        match (if bash then bashArithOps else dashArithOps).find? (fun o => cs.take o.length == o.toList) with
        | some o =>
          let tok := ATok.op o
          ⟨tok, pos⟩ :: arithTokens bash fuel (cs.drop o.length) (pos + o.length) tok
        | none => [⟨.bad, pos⟩, ⟨.done, pos + cs.length⟩]

/-- Why an arithmetic evaluation failed. -/
inductive ArithFault where
  /-- A syntax or evaluation error, with the position of the text it points at. -/
  | malformed (message : String) (place : Nat)
  /-- A variable of the Almquist shell whose value is not a number. -/
  | illegalNumber (text : String)
  /-- The most negative number divided by minus one, which the machine traps on. -/
  | overflowTrap

/-- An arithmetic error: the text of the expression it arose in, and what went wrong. -/
structure ArithError where
  expr : String
  fault : ArithFault

def ArithError.message (bash : Bool) (e : ArithError) : String :=
  match e.fault with
  | .illegalNumber text => "Illegal number: " ++ text
  | .overflowTrap => "arithmetic expression: overflow"
  | .malformed m place =>
    if bash then
      let trimmed := String.ofList (e.expr.toList.dropWhile isArithBlank)
      trimmed ++ ": " ++ m ++ " (error token is \"" ++ String.ofList (e.expr.toList.drop place) ++ "\")"
    else "arithmetic expression: " ++ m ++ ": \"" ++ e.expr ++ "\""

/-- The variables an evaluation reads: scalars by name, and elements of indexed arrays. -/
structure ArithEnv where
  bash : Bool
  scalar : String → Option String
  element : String → Int64 → Option String

/-- An assignment an evaluation made: the variable, the element for an array, the value. -/
abbrev ArithWrite := String × Option Int64 × Int64

/-- The state of an evaluation: the text and tokens being read, the current token, the
start of the last token read, the assignments made (latest first) and how deeply values
of variables are being evaluated. -/
structure AState where
  text : String
  toks : Array AToken
  pos : Nat := 0
  last : Nat := 0
  writes : List ArithWrite := []
  depth : Nat := 0

/-- Evaluation of arithmetic. -/
abbrev AM := ExceptT ArithError (StateM AState)

def afail {α : Type} (message : String) : AM α := do
  let st ← get
  throw { expr := st.text, fault := .malformed message st.last }

def acur : AM ATok := do
  let st ← get
  return (st.toks[st.pos]?.map (·.kind)).getD .done

def acurEnd : AM Nat := do
  let st ← get
  return ((st.toks[st.pos + 1]?.map (·.start)).getD st.text.length)

def aenter : AM Unit := do
  let st ← get
  match st.toks[st.pos]? with
  | some t =>
    match t.kind with
    | .done => pure ()
    | .badNum m => set { st with last := t.start }; afail m
    | _ => set { st with last := t.start }
  | none => pure ()

def aadvance : AM Unit := do
  modify fun st => { st with pos := st.pos + 1 }
  aenter

def arithText (bash : Bool) (key : String) : String :=
  match bash, key with
  | true, "operand" => "syntax error: operand expected"
  | false, "operand" => "expecting primary"
  | true, "end" => "syntax error in expression"
  | false, "end" => "expecting EOF"
  | true, "paren" => "missing `)'"
  | false, "paren" => "expecting ')'"
  | true, "colon" => "`:' expected for conditional expression"
  | false, "colon" => "expecting ':'"
  | true, "zero" => "division by 0"
  | false, _ => "division by zero"
  | true, _ => "expression expected"

def dashVarValue (text : String) : Except ArithFault Int64 :=
  let isSpace (c : Char) := c == ' ' || ('\t' ≤ c && c ≤ '\r')
  let cs := text.toList.dropWhile isSpace
  let (neg, digits) := match cs with
    | '-' :: more => (true, more)
    | '+' :: more => (false, more)
    | _ => (false, cs)
  if !(digits.headD ' ').isDigit then
    if cs.isEmpty then .ok 0 else .error (.illegalNumber text)
  else
    let (n, rest, tooLarge) := readNumber digits neg
    if tooLarge || !(rest.all isSpace) then .error (.illegalNumber text) else .ok n

def applyBinary (o : String) (a b : Int64) : Int64 :=
  let flag (p : Bool) : Int64 := if p then 1 else 0
  match o with
  | "+" => a + b | "-" => a - b | "*" => a * b
  | "/" => a / b | "%" => a % b
  | "<<" => a <<< b | ">>" => a >>> b
  | "<" => flag (a < b) | "<=" => flag (a ≤ b)
  | ">" => flag (a > b) | ">=" => flag (a ≥ b)
  | "==" => flag (a == b) | "!=" => flag (a != b)
  | "&" => a &&& b | "^" => a ^^^ b | "|" => a ||| b
  | _ => 0

def powWrap (base : Int64) (e : Nat) : Int64 :=
  if e = 0 then 1
  else
    let half := powWrap (base * base) (e / 2)
    if e % 2 == 1 then base * half else half
termination_by e
decreasing_by omega

def binaryPower : String → Nat
  | "||" => 1 | "&&" => 2 | "|" => 3 | "^" => 4 | "&" => 5
  | "==" | "!=" => 6
  | "<" | "<=" | ">" | ">=" => 7
  | "<<" | ">>" => 8
  | "+" | "-" => 9
  | "*" | "/" | "%" => 10
  | _ => 0

def isAssignOp (o : String) : Bool :=
  ["=", "*=", "/=", "%=", "+=", "-=", "<<=", ">>=", "&=", "^=", "|="].contains o

def awrite (noeval : Bool) (name : String) (index : Option Int64) (v : Int64) : AM Unit := do
  if !noeval then modify fun st => { st with writes := (name, index, v) :: st.writes }

def adivide (bash noeval : Bool) (o : String) (a b : Int64) (divisorAt : Nat) : AM Int64 := do
  if b == 0 then
    if noeval then return 0
    let st ← get
    let place := if bash then divisorAt else st.last
    throw { expr := st.text, fault := .malformed (arithText bash "zero") place }
  if a == Int64.minValue && b == -1 then
    if noeval then return 0
    if bash then return (if o == "/" then a else 0)
    let st ← get
    throw { expr := st.text, fault := .overflowTrap }
  return applyBinary o a b

mutual

def acomma (env : ArithEnv) (noeval : Bool) : Nat → AM Int64
  | 0 => afail "expression recursion level exceeded"
  | fuel + 1 => do
    let v ← aassign env noeval fuel
    if (← acur) == .op "," then
      aadvance
      acomma env noeval fuel
    else return v

def aassign (env : ArithEnv) (noeval : Bool) : Nat → AM Int64
  | 0 => afail "expression recursion level exceeded"
  | fuel + 1 => do
    let st ← get
    let target := (st.toks[st.pos]?.map (·.kind)).getD .done
    let next := (st.toks[st.pos + 1]?.map (·.kind)).getD .done
    match target, next with
    | .name n, .op o =>
      if isAssignOp o then
        aadvance; aadvance
        finishAssign env noeval fuel n none o
      else acond env noeval fuel
    | .elem n idx, .op o =>
      if isAssignOp o && env.bash then
        let i ← aindex env noeval fuel idx
        aadvance; aadvance
        finishAssign env noeval fuel n (some i) o
      else acond env noeval fuel
    | _, _ =>
      let v ← acond env noeval fuel
      match ← acur with
      | .op o =>
        if isAssignOp o then
          if env.bash then afail "attempted assignment to non-variable"
          else afail (arithText false "end")
        else return v
      | _ => return v

def finishAssign (env : ArithEnv) (noeval : Bool) : Nat → String → Option Int64 → String → AM Int64
  | 0, _, _, _ => afail "expression recursion level exceeded"
  | fuel + 1, n, index, o => do
  let opEnd := (← get).last
  let rhs ← aassign env noeval fuel
  let v ← if o == "=" then pure rhs else do
    let old ← avar env noeval fuel n index
    let bin := (o.dropEnd 1).toString
    if bin == "/" || bin == "%" then adivide env.bash noeval bin old rhs opEnd
    else pure (applyBinary bin old rhs)
  awrite noeval n index v
  return v

def acond (env : ArithEnv) (noeval : Bool) : Nat → AM Int64
  | 0 => afail "expression recursion level exceeded"
  | fuel + 1 => do
    let test ← abinary env noeval fuel 1
    if (← acur) == .op "?" then
      aadvance
      if env.bash then
        let t ← acur
        if t == .done || t == .op ":" then afail (arithText true "expected")
      let yes ← if env.bash then acomma env (noeval || test == 0) fuel else aassign env (noeval || test == 0) fuel
      if (← acur) != .op ":" then afail (arithText env.bash "colon")
      aadvance
      if env.bash && (← acur) == .done then afail (arithText true "expected")
      let no ← acond env (noeval || test != 0) fuel
      return (if test != 0 then yes else no)
    return test

def abinary (env : ArithEnv) (noeval : Bool) : Nat → Nat → AM Int64
  | 0, _ => afail "expression recursion level exceeded"
  | fuel + 1, least => do
    let lhs ← apower env noeval fuel
    abinaryRest env noeval fuel least lhs

def abinaryRest (env : ArithEnv) (noeval : Bool) : Nat → Nat → Int64 → AM Int64
  | 0, _, lhs => pure lhs
  | fuel + 1, least, lhs => do
    match ← acur with
    | .op o =>
      let power := binaryPower o
      if power == 0 || power < least then return lhs
      let opEnd ← acurEnd
      aadvance
      if o == "&&" then
        let rhs ← abinary env (noeval || lhs == 0) fuel (power + 1)
        abinaryRest env noeval fuel least (if lhs != 0 && rhs != 0 then 1 else 0)
      else if o == "||" then
        let rhs ← abinary env (noeval || lhs != 0) fuel (power + 1)
        abinaryRest env noeval fuel least (if lhs != 0 || rhs != 0 then 1 else 0)
      else
        let rhs ← abinary env noeval fuel (power + 1)
        let v ← if o == "/" || o == "%" then
            let st ← get
            let text := st.text.toList
            let skip := ((text.drop opEnd).takeWhile isArithBlank).length
            adivide env.bash noeval o lhs rhs (opEnd + skip)
          else pure (applyBinary o lhs rhs)
        abinaryRest env noeval fuel least v
    | _ => return lhs

def apower (env : ArithEnv) (noeval : Bool) : Nat → AM Int64
  | 0 => afail "expression recursion level exceeded"
  | fuel + 1 => do
    let base ← aunary env noeval fuel
    if (← acur) == .op "**" then
      aadvance
      let e ← apower env noeval fuel
      if e == 0 then return 1
      if e < 0 then
        if noeval then return 0
        afail "exponent less than 0"
      return powWrap base e.toInt.toNat
    return base

def aunary (env : ArithEnv) (noeval : Bool) : Nat → AM Int64
  | 0 => afail "expression recursion level exceeded"
  | fuel + 1 => do
    match ← acur with
    | .op "+" => aadvance; aunary env noeval fuel
    | .op "-" => aadvance; return -(← aunary env noeval fuel)
    | .op "!" => aadvance; return (if (← aunary env noeval fuel) == 0 then 1 else 0)
    | .op "~" => aadvance; return ~~~(← aunary env noeval fuel)
    | _ => aprimary env noeval fuel

def aprimary (env : ArithEnv) (noeval : Bool) : Nat → AM Int64
  | 0 => afail "expression recursion level exceeded"
  | fuel + 1 => do
    match ← acur with
    | .op "(" =>
      aadvance
      let v ← if env.bash then acomma env noeval fuel else aassign env noeval fuel
      if (← acur) != .op ")" then afail (arithText env.bash "paren")
      aadvance
      return v
    | .op pre =>
      if pre == "++x" || pre == "--x" then
        aadvance
        let (n, index) ← match ← acur with
          | .name n => pure (n, none)
          | .elem n idx => do pure (n, some (← aindex env noeval fuel idx))
          | _ => afail "identifier expected after pre-increment or pre-decrement"
        let old ← avar env noeval fuel n index
        let v := if pre == "++x" then old + 1 else old - 1
        awrite noeval n index v
        aadvance
        return v
      else afail (arithText env.bash "operand")
    | .num n => aadvance; return n
    | .name n => variableOperand env noeval fuel n none
    | .elem n idx =>
      let i ← aindex env noeval fuel idx
      variableOperand env noeval fuel n (some i)
    | _ => afail (arithText env.bash "operand")

def variableOperand (env : ArithEnv) (noeval : Bool) : Nat → String → Option Int64 → AM Int64
  | 0, _, _ => afail "expression recursion level exceeded"
  | fuel + 1, n, index => do
  let v ← avar env noeval fuel n index
  aadvance
  match ← acur with
  | .op "x++" => awrite noeval n index (v + 1); aadvance; return v
  | .op "x--" => awrite noeval n index (v - 1); aadvance; return v
  | _ => return v

def aindex (env : ArithEnv) (noeval : Bool) : Nat → String → AM Int64
  | 0, _ => afail "expression recursion level exceeded"
  | fuel + 1, text => asubexpr env noeval fuel text

/-- The value of a variable: the latest assignment of this evaluation, or else its value in
the shell, which is zero when unset or empty. bash evaluates the value as an expression;
the Almquist shell reads it as a number. -/
def avar (env : ArithEnv) (noeval : Bool) : Nat → String → Option Int64 → AM Int64
  | 0, _, _ => afail "expression recursion level exceeded"
  | fuel + 1, n, index => do
  if noeval then return 0
  match (← get).writes.find? (fun (m, i, _) => m == n && i == index) with
  | some (_, _, v) => return v
  | none =>
    let text := match index with
      | none => env.scalar n
      | some i => env.element n i
    match text with
    | none => return 0
    | some t =>
      if env.bash then
        if t.isEmpty then return 0
        asubexpr env noeval fuel t
      else
        match dashVarValue t with
        | .ok v => return v
        | .error fault => throw { expr := (← get).text, fault }

def asubexpr (env : ArithEnv) (noeval : Bool) : Nat → String → AM Int64
  | 0, _ => afail "expression recursion level exceeded"
  | fuel + 1, text => do
  let saved ← get
  if saved.depth ≥ 1024 then afail "expression recursion level exceeded"
  let toks := (arithTokens env.bash (text.length + 1) text.toList 0 .done).toArray
  set { saved with text, toks, pos := 0, last := 0, depth := saved.depth + 1 }
  aenter
  let v ← acomma env noeval fuel
  if (← acur) != .done then afail (arithText env.bash "end")
  let restore (st : AState) : AState :=
    { st with text := saved.text, toks := saved.toks, pos := saved.pos, last := saved.last, depth := saved.depth }
  modify restore
  return v

end

def evalArith (env : ArithEnv) (text : String) : Except ArithError Int64 × List ArithWrite :=
  let toks := (arithTokens env.bash (text.length + 1) text.toList 0 .done).toArray
  let fuel := 64 * (text.length + 8) + 100000
  let run : AM Int64 := do
    aenter
    if (← acur) == .done then
      if env.bash then return 0
      afail (arithText false "operand")
    let v ← if env.bash then acomma env false fuel else aassign env false fuel
    if (← acur) != .done then afail (arithText env.bash "end")
    return v
  let (result, st) := (run.run).run { text, toks }
  (result, st.writes.reverse)

end Pipework.Posix
