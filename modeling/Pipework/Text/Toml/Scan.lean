import Pipework.Text.Toml.Syntax

/-! Reading a TOML document: a cursor over its characters, and the faults that stop a reading. -/

namespace Pipework.Text.Toml

/-- A position in a document: the characters left, and the byte offset of the first. -/
structure Cursor where
  rest : List Char
  pos : Nat
  deriving Inhabited

/-- Why a reading stopped. -/
structure Fault where
  pos : Nat
  labels : List String := []
  expected : List String := []
  cause : Option String := none
  final : Bool := false
  deriving Repr, Inhabited

def Fault.message (f : Fault) : String :=
  let parts := (f.labels.head?.map ("invalid " ++ ·)).toList ++
    (if f.expected.isEmpty then [] else ["expected " ++ ", ".intercalate f.expected]) ++ f.cause.toList
  "\n".intercalate parts

def charWanted (c : Char) : String :=
  if c == '\n' then "newline" else "`" ++ String.singleton c ++ "`"

/-- Reading part of a document. -/
abbrev Scan := StateT Cursor (Except Fault)

namespace Scan

def peek : Scan (Option Char) := do
  return (← get).rest.head?

def peekAt (n : Nat) : Scan (Option Char) := do
  return ((← get).rest.drop n).head?

def startsWith (s : String) : Scan Bool := do
  return (← get).rest.take s.length == s.toList

def here : Scan Nat := do
  return (← get).pos

def bump : Scan Unit :=
  modify fun c => match c.rest with
    | ch :: r => ⟨r, c.pos + ch.utf8Size⟩
    | [] => c

def bumpN : Nat → Scan Unit
  | 0 => pure ()
  | n + 1 => do bump; bumpN n

def miss {α : Type} (expected : List String := []) (cause : Option String := none) : Scan α := do
  throw { pos := ← here, expected, cause }

def final {α : Type} (p : Scan α) : Scan α :=
  tryCatch p fun f => throw { f with final := true }

def label {α : Type} (name : String) (p : Scan α) : Scan α :=
  tryCatch p fun f => throw { f with labels := f.labels ++ [name] }

def expecting {α : Type} (wanted : List String) (p : Scan α) : Scan α :=
  tryCatch p fun f => throw { f with expected := f.expected ++ wanted }

def attempt {α : Type} (p : Scan α) : Scan (Option α) :=
  tryCatch (some <$> p) fun f => if f.final then throw f else pure none

def firstOf {α : Type} : List (Scan α) → Scan α
  | [] => miss
  | [p] => p
  | p :: more => do
    match ← attempt p with
    | some a => pure a
    | none => firstOf more

def checked {α β : Type} (p : Scan α) (check : α → Except (Option String) β) : Scan β := do
  let start ← here
  let a ← p
  match check a with
  | .ok b => pure b
  | .error cause => throw { pos := start, cause }

def charWhere (test : Char → Bool) : Scan Char := do
  match ← peek with
  | some c => if test c then bump; pure c else miss
  | none => miss

def char (c : Char) : Scan Unit := do
  let _ ← charWhere (· == c)

def text (s : String) : Scan Unit := do
  if ← startsWith s then bumpN s.length else miss

def takeWhile (test : Char → Bool) (limit : Nat) : Scan (List Char) := do
  let taken := ((← get).rest.takeWhile test).take limit
  bumpN taken.length
  return taken

def takeBetween (least most : Nat) (test : Char → Bool) : Scan (List Char) := do
  let taken := ((← get).rest.takeWhile test).take most
  if taken.length < least then miss else do bumpN taken.length; pure taken

end Scan

def isBlankChar (c : Char) : Bool :=
  c == ' ' || c == '\t'

def isCommentChar (c : Char) : Bool :=
  c == '\t' || (c.toNat ≥ 0x20 && c.toNat != 0x7F)

def isBasicChar (c : Char) : Bool :=
  isBlankChar c || (c.toNat ≥ 0x21 && c.toNat != 0x7F && c != '"' && c != '\\')

def isLiteralChar (c : Char) : Bool :=
  c == '\t' || (c.toNat ≥ 0x20 && c.toNat != 0x7F && c.toNat != 39)

def isBareKeyChar (c : Char) : Bool :=
  (c.isAlphanum && c.toNat < 128) || c == '_' || c == '-'

def isHexChar (c : Char) : Bool :=
  c.isDigit || ('a' ≤ c && c ≤ 'f') || ('A' ≤ c && c ≤ 'F')

def hexValue (c : Char) : Nat :=
  if c.isDigit then c.toNat - 48
  else if 'a' ≤ c && c ≤ 'f' then c.toNat - 87
  else c.toNat - 55

def digitsValue (base : Nat) (ds : List Char) : Nat :=
  ds.foldl (fun n d => base * n + hexValue d) 0

namespace Scan

def blanks : Scan Unit := do
  let _ ← takeWhile isBlankChar (← get).rest.length

def newline : Scan Unit := do
  match ← peek with
  | some '\n' => bump
  | some '\r' => bump; if (← peek) == some '\n' then bump else miss
  | _ => miss

def comment : Scan Unit := do
  char '#'
  let _ ← takeWhile isCommentChar (← get).rest.length

def lineEnding : Scan Unit := do
  if (← peek).isNone then pure () else newline

def lineTrailing : Scan Unit := do
  blanks
  let _ ← attempt comment
  lineEnding

def fillerLines (fuel : Nat) : Scan Unit := do
  match fuel with
  | 0 => pure ()
  | fuel + 1 =>
    blanks
    match ← peek with
    | some '#' => comment; newline; fillerLines fuel
    | some '\n' | some '\r' => newline; fillerLines fuel
    | _ => pure ()

end Scan

end Pipework.Text.Toml
