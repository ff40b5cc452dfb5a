import Pipework.Posix.Builtin

/-! `test` and `[`: conditions on texts, numbers and files. -/

namespace Pipework.Posix

open Pipework.Host Pipework.Tools

def fileTest (s : Shell) (t : FileTree) (op path : String) : Bool :=
  let found := t.lookup s.proc.here path
  match op, found with
  | "-e", .ok _ | "-a", .ok _ => true
  | "-f", .ok (_, .file _ _) | "-f", .ok (_, .program _) => true
  | "-d", .ok (_, .dir) => true
  | "-s", .ok (_, .file data _) => data.size > 0
  | "-s", .ok (_, .program _) => true
  | "-s", .ok (_, .dir) => true
  | "-r", .ok _ => true
  | "-O", .ok _ | "-G", .ok _ => true
  | "-w", .ok (_, .program _) => false
  | "-w", .ok _ => true
  | "-x", .ok (_, .file _ exe) => exe
  | "-x", .ok (_, .program _) | "-x", .ok (_, .dir) => true
  | "-c", .ok (_, .nullDevice) => true
  | "-c", .ok (_, .zeroDevice) => true
  | "-h", _ | "-L", _ =>
    match t.locate s.proc.here path with
    | .ok place => match t.get? place with
      | some (.link _) => true
      | _ => false
    | .error _ => false
  | _, _ => false

def fileCompare (s : Shell) (t : FileTree) (op a b : String) : Bool :=
  let x := t.locate s.proc.here a
  let y := t.locate s.proc.here b
  let present (r : Except OsError Place) : Bool :=
    match r with
    | .ok place => (t.get? place).isSome
    | .error _ => false
  match op with
  | "-nt" => present x && !present y
  | "-ot" => !present x && present y
  | _ =>
    match x, y with
    | .ok p, .ok q => present x && p == q
    | _, _ => false

def dashUnaryTests : List String :=
  ["-n", "-z", "-e", "-f", "-d", "-s", "-r", "-w", "-x", "-c", "-b", "-p", "-S", "-h", "-L", "-t", "-g", "-u", "-k", "-O", "-G"]

def dashBinaryTests : List String :=
  ["=", "!=", "-eq", "-ne", "-lt", "-le", "-gt", "-ge", "<", ">", "-nt", "-ot", "-ef"]

def bashUnaryTests : List String :=
  ["-a", "-b", "-c", "-d", "-e", "-f", "-g", "-h", "-k", "-n", "-o", "-p", "-r", "-s", "-t", "-u",
   "-v", "-w", "-x", "-z", "-G", "-L", "-N", "-O", "-R", "-S"]

def bashBinaryTests : List String :=
  ["=", "==", "!=", "<", ">", "-nt", "-ot", "-ef", "-eq", "-ne", "-lt", "-le", "-gt", "-ge"]

def testNumber (text : String) : Except String Int :=
  let t := text.trimAscii.toString
  let (neg, digits) := if t.startsWith "-" then (true, (t.drop 1).toString)
    else if t.startsWith "+" then (false, (t.drop 1).toString) else (false, t)
  match parseNat? digits with
  | some n => .ok (if neg then -(n : Int) else n)
  | none => .error ("Illegal number: " ++ text)

def compareNumbers (op : String) (x y : Int) : Bool :=
  match op with
  | "-eq" => x == y | "-ne" => x != y | "-lt" => x < y
  | "-le" => x ≤ y | "-gt" => x > y | _ => x ≥ y

def bytesBefore (a b : String) : Bool :=
  compare a.toUTF8.toList b.toUTF8.toList == .lt

def binaryTest (flavor : Flavor) (s : Shell) (t : FileTree) (op a b : String) : Except String Bool := do
  match op with
  | "=" | "==" => pure (a == b)
  | "!=" => pure (a != b)
  | "<" => pure (bytesBefore a b)
  | ">" => pure (bytesBefore b a)
  | "-nt" | "-ot" | "-ef" => pure (fileCompare s t op a b)
  | _ =>
    match flavor with
    | .dash =>
      let x ← testNumber a
      let y ← testNumber b
      pure (compareNumbers op x y)
    | .bash =>
      match bashNumber? a, bashNumber? b with
      | some x, some y => pure (compareNumbers op x y)
      | none, _ => .error (a ++ ": integer expression expected")
      | _, none => .error (b ++ ": integer expression expected")

def unaryTest (s : Shell) (t : FileTree) (op arg : String) : Bool :=
  match op with
  | "-n" => !arg.isEmpty
  | "-z" => arg.isEmpty
  | "-t" => false
  | "-v" => (paramValue s arg).isSome
  | "-o" => s.isOn arg
  | _ => fileTest s t op arg

/-- What a `test` evaluation reads: its words, and how the shell's state answers the tests. -/
structure TestInput where
  args : Array String
  shell : Shell
  tree : FileTree

namespace TestInput

def word (e : TestInput) (pos : Nat) : String :=
  e.args.getD pos ""

def has (e : TestInput) (pos : Nat) : Bool :=
  pos < e.args.size

end TestInput

mutual

def dashOr (e : TestInput) : Nat → Nat → Except String (Bool × Nat)
  | 0, _ => .error "expression too deep"
  | fuel + 1, pos => do
    let (a, p) ← dashAnd e fuel pos
    if e.has p && e.word p == "-o" then
      let (b, q) ← dashOr e fuel (p + 1)
      pure (a || b, q)
    else pure (a, p)

def dashAnd (e : TestInput) : Nat → Nat → Except String (Bool × Nat)
  | 0, _ => .error "expression too deep"
  | fuel + 1, pos => do
    let (a, p) ← dashNot e fuel pos
    if e.has p && e.word p == "-a" then
      let (b, q) ← dashAnd e fuel (p + 1)
      pure (a && b, q)
    else pure (a, p)

def dashNot (e : TestInput) : Nat → Nat → Except String (Bool × Nat)
  | 0, _ => .error "expression too deep"
  | fuel + 1, pos =>
    if e.word pos == "!" && e.has (pos + 1) then do
      let (a, p) ← dashNot e fuel (pos + 1)
      pure (!a, p)
    else dashPrimary e fuel pos

def dashPrimary (e : TestInput) : Nat → Nat → Except String (Bool × Nat)
  | 0, _ => .error "expression too deep"
  | fuel + 1, pos =>
    if !e.has pos then .error "argument expected"
    else if e.word pos == "(" then do
      let (a, p) ← dashOr e fuel (pos + 1)
      if e.has p && e.word p == ")" then pure (a, p + 1)
      else .error "closing paren expected"
    else if e.has (pos + 2) && dashBinaryTests.contains (e.word (pos + 1)) then do
      let v ← binaryTest .dash e.shell e.tree (e.word (pos + 1)) (e.word pos) (e.word (pos + 2))
      pure (v, pos + 3)
    else if e.has (pos + 1) && dashUnaryTests.contains (e.word pos) then
      pure (unaryTest e.shell e.tree (e.word pos) (e.word (pos + 1)), pos + 2)
    else pure (!(e.word pos).isEmpty, pos + 1)

end

def dashTest (e : TestInput) : Except String Bool :=
  let unary (op : String) := dashUnaryTests.contains op
  let binary (op : String) := dashBinaryTests.contains op
  match e.args.toList with
  | [] => .ok false
  | [a] => .ok (!a.isEmpty)
  | ["!", a] => .ok a.isEmpty
  | [op, a] =>
    if unary op then .ok (unaryTest e.shell e.tree op a)
    else .error (op ++ ": unexpected operator")
  | [a, op, b] =>
    if binary op then binaryTest .dash e.shell e.tree op a b
    else if a == "!" then
      if unary op then .ok (!unaryTest e.shell e.tree op b)
      else .error (op ++ ": unexpected operator")
    else if a == "(" && b == ")" then .ok (!op.isEmpty)
    else .error (op ++ ": unexpected operator")
  | args =>
    match dashOr e (args.length + 1) 0 with
    | .ok (v, p) => if p < args.length then .error (e.word p ++ ": unexpected operator") else .ok v
    | .error m => .error m

mutual

def bashOr (e : TestInput) : Nat → Nat → Except String (Bool × Nat)
  | 0, _ => .error "expression too deep"
  | fuel + 1, pos => do
    let (a, p) ← bashAnd e fuel pos
    if e.has p && e.word p == "-o" then
      let (b, q) ← bashOr e fuel (p + 1)
      pure (a || b, q)
    else pure (a, p)

def bashAnd (e : TestInput) : Nat → Nat → Except String (Bool × Nat)
  | 0, _ => .error "expression too deep"
  | fuel + 1, pos => do
    let (a, p) ← bashTerm e fuel pos
    if e.has p && e.word p == "-a" then
      let (b, q) ← bashAnd e fuel (p + 1)
      pure (a && b, q)
    else pure (a, p)

def bashTerm (e : TestInput) : Nat → Nat → Except String (Bool × Nat)
  | 0, _ => .error "expression too deep"
  | fuel + 1, pos =>
    if !e.has pos then .error "argument expected"
    else if e.word pos == "!" then do
      let (a, p) ← bashTerm e fuel (pos + 1)
      pure (!a, p)
    else if e.word pos == "(" then do
      let (a, p) ← bashOr e fuel (pos + 1)
      if !e.has p then .error "`)' expected"
      else if e.word p != ")" then .error ("`)' expected, found " ++ e.word p)
      else pure (a, p + 1)
    else if e.has (pos + 2) && bashBinaryTests.contains (e.word (pos + 1)) then do
      let v ← binaryTest .bash e.shell e.tree (e.word (pos + 1)) (e.word pos) (e.word (pos + 2))
      pure (v, pos + 3)
    else if bashUnaryTests.contains (e.word pos) then
      if e.word pos == "-t" then
        if e.has (pos + 1) && (bashNumber? (e.word (pos + 1))).isSome then pure (false, pos + 2)
        else pure (false, pos + 1)
      else if !e.has (pos + 1) then .error "argument expected"
      else pure (unaryTest e.shell e.tree (e.word pos) (e.word (pos + 1)), pos + 2)
    else pure (!(e.word pos).isEmpty, pos + 1)

end

def bashTwo (e : TestInput) (pos : Nat) : Except String Bool :=
  let op := e.word pos
  if op == "!" then .ok (e.word (pos + 1)).isEmpty
  else if op.length == 2 && op.startsWith "-" && bashUnaryTests.contains op then
    .ok (unaryTest e.shell e.tree op (e.word (pos + 1)))
  else .error (op ++ ": unary operator expected")

def bashThree (e : TestInput) (pos : Nat) : Except String Bool :=
  let a := e.word pos
  let op := e.word (pos + 1)
  let b := e.word (pos + 2)
  if bashBinaryTests.contains op then binaryTest .bash e.shell e.tree op a b
  else if op == "-a" then .ok (!a.isEmpty && !b.isEmpty)
  else if op == "-o" then .ok (!a.isEmpty || !b.isEmpty)
  else if a == "!" then (bashTwo e (pos + 1)).map (!·)
  else if a == "(" && b.startsWith ")" then .ok (!op.isEmpty)
  else .error (op ++ ": binary operator expected")

def bashTest (e : TestInput) : Except String Bool :=
  let n := e.args.size
  let whole : Except String Bool :=
    match bashOr e (n + 1) 0 with
    | .ok (v, p) =>
      if p == n then .ok v
      else if (e.word p).startsWith "-" then .error ("syntax error: `" ++ e.word p ++ "' unexpected")
      else .error "too many arguments"
    | .error m => .error m
  match n with
  | 0 => .ok false
  | 1 => .ok !(e.word 0).isEmpty
  | 2 => bashTwo e 0
  | 3 => bashThree e 0
  | 4 =>
    if e.word 0 == "!" then (bashThree e 1).map (!·)
    else if e.word 0 == "(" && e.word 3 == ")" then bashTwo e 1
    else whole
  | _ => whole

def testBuiltin (name : String) (args : List String) : Sh Nat := do
  let s ← get
  let args ← if name == "[" then
      if args.getLast? == some "]" then pure (some args.dropLast)
      else do
        warnIn "[" (if s.flavor == .bash then "missing `]'" else "missing ]")
        pure none
    else pure (some args)
  match args with
  | none => return 2
  | some args =>
    let t ← liftSys Sys.tree
    let input : TestInput := { args := args.toArray, shell := s, tree := t }
    let result := match s.flavor with
      | .dash => dashTest input
      | .bash => bashTest input
    match result with
    | .ok v => return (if v then 0 else 1)
    | .error message =>
      warnIn name message
      return 2

end Pipework.Posix
