import Pipework.Host.FileTree

/-! Shell patterns, as `case`, the trimming expansions and file name generation use them: `*`
matches any text, `?` one character, and a bracket expression one character of a set. -/

namespace Pipework.Posix

open Pipework.Host

/-- A character of a pattern, with whether it may act as a pattern character (an
unquoted one). -/
abbrev PatChar := Char × Bool

/-- One element of a parsed pattern. -/
inductive PatItem where
  | char (c : Char)
  | any
  | star
  /-- A bracket expression: whether it is negated and the test of one character. -/
  | set (negated : Bool) (members : List (Char × Char)) (classes : List String)
  deriving Inhabited

def inClass (cls : String) (c : Char) : Bool :=
  match cls with
  | "alpha" => c.isAlpha
  | "digit" => c.isDigit
  | "alnum" => c.isAlphanum
  | "upper" => c.isUpper
  | "lower" => c.isLower
  | "space" => c == ' ' || ('\t' ≤ c && c ≤ '\r')
  | "blank" => c == ' ' || c == '\t'
  | "punct" => c.toNat > 32 && c.toNat < 127 && !c.isAlphanum
  | "print" => c.toNat ≥ 32 && c.toNat < 127
  | "graph" => c.toNat > 32 && c.toNat < 127
  | "cntrl" => c.toNat < 32 || c.toNat == 127
  | "xdigit" => c.isDigit || ('a' ≤ c && c ≤ 'f') || ('A' ≤ c && c ≤ 'F')
  | _ => false

/-- Reads the inside of a bracket expression after `[` (and after a `!` or `^`): ranges,
single characters and classes up to the closing `]`, which may not be the first
character. Gives `none` when there is no closing bracket. -/
def readBracket : Nat → List PatChar → Bool → List (Char × Char) → List String →
    Option (List (Char × Char) × List String × List PatChar)
  | 0, _, _, _, _ => none
  | _ + 1, [], _, _, _ => none
  | fuel + 1, (c, active) :: rest, first, members, classes =>
    if c == ']' && active && !first then some (members, classes, rest)
    else if c == '[' && active && (rest.headD (' ', false)).1 == ':' then
      let body := (rest.drop 1).takeWhile (·.1 != ':')
      match (rest.drop 1).drop body.length with
      | (':', _) :: (']', _) :: after =>
        readBracket fuel after false members (classes ++ [String.ofList (body.map (·.1))])
      | _ => readBracket fuel rest false (members ++ [(c, c)]) classes
    else
      match rest with
      | ('-', true) :: (d, da) :: after =>
        if d == ']' && da then readBracket fuel (('-', true) :: (d, da) :: after) false (members ++ [(c, c)]) classes
        else readBracket fuel after false (members ++ [(c, d)]) classes
      | _ => readBracket fuel rest false (members ++ [(c, c)]) classes

def parsePattern : Nat → List PatChar → List PatItem
  | 0, _ => []
  | _ + 1, [] => []
  | fuel + 1, (c, active) :: rest =>
    if !active then .char c :: parsePattern fuel rest
    else match c with
    | '*' => .star :: parsePattern fuel rest
    | '?' => .any :: parsePattern fuel rest
    | '[' =>
      let (negated, inner) := match rest with
        | ('!', true) :: more => (true, more)
        | ('^', true) :: more => (true, more)
        | _ => (false, rest)
      match readBracket (inner.length + 1) inner true [] [] with
      | some (members, classes, after) => .set negated members classes :: parsePattern fuel after
      | none => .char '[' :: parsePattern fuel rest
    | '\\' =>
      match rest with
      | (d, _) :: more => .char d :: parsePattern fuel more
      | [] => [.char '\\']
    | _ => .char c :: parsePattern fuel rest

def PatItem.accepts (item : PatItem) (c : Char) : Bool :=
  match item with
  | .char d => c == d
  | .any => true
  | .star => true
  | .set negated members classes =>
    let hit := members.any (fun (lo, hi) => lo ≤ c && c ≤ hi) || classes.any (inClass · c)
    hit != negated

def matchItems : List PatItem → List Char → Bool
  | [], s => s.isEmpty
  | .star :: ps, s => (List.range (s.length + 1)).any fun i => matchItems ps (s.drop i)
  | item :: ps, c :: s => item.accepts c && matchItems ps s
  | _ :: _, [] => false

def patternMatches (pattern : List PatChar) (text : String) : Bool :=
  matchItems (parsePattern (pattern.length + 1) pattern) text.toList

def hasPatternChars (pattern : List PatChar) : Bool :=
  pattern.any fun (c, active) => active && (c == '*' || c == '?' || c == '[')

def splitPatternFrom : List PatChar → List PatChar → List (List PatChar)
  | [], current => [current.reverse]
  | (c, a) :: rest, current =>
    if c == '/' then current.reverse :: splitPatternFrom rest []
    else splitPatternFrom rest ((c, a) :: current)

def splitPattern (pattern : List PatChar) : List (List PatChar) :=
  splitPatternFrom pattern []

def matchingNames (t : FileTree) (dir : Place) (component : List PatChar) : List String :=
  let wantsDot := (component.headD (' ', false)).1 == '.'
  let names := (t.children dir).map (·.1)
  let names := if wantsDot then "." :: ".." :: names else names
  names.filter fun n => (wantsDot || !n.startsWith ".") && patternMatches component n

def globFrom (t : FileTree) : List (List PatChar) → Place → String → List String
  | [], _, text => [text]
  | [last], dir, text =>
    if hasPatternChars last then
      (matchingNames t dir last).map (text ++ ·)
    else
      let name := String.ofList (last.map (·.1))
      if name.isEmpty then [text]
      else match t.step dir name with
        | .ok _ => if (t.get? (dir ++ [name])).isSome || name == "." || name == ".." then [text ++ name] else []
        | .error _ => []
  | part :: rest, dir, text =>
    if hasPatternChars part then
      (matchingNames t dir part).flatMap fun n =>
        match t.step dir n with
        | .ok next => if t.isDir next then globFrom t rest next (text ++ n ++ "/") else []
        | .error _ => []
    else
      let name := String.ofList (part.map (·.1))
      if name.isEmpty then globFrom t rest dir (text ++ "/")
      else match t.step dir name with
        | .ok next => if t.isDir next then globFrom t rest next (text ++ name ++ "/") else []
        | .error _ => []

def glob (t : FileTree) (cwd : Place) (pattern : List PatChar) : List String :=
  let parts := splitPattern pattern
  let absolute := (pattern.headD (' ', false)).1 == '/'
  let found := match parts with
    | [] :: rest => if absolute then globFrom t rest [] "/" else globFrom t parts cwd ""
    | _ => globFrom t parts cwd ""
  found.mergeSort fun a b => compare a.toUTF8.toList b.toUTF8.toList != .gt

end Pipework.Posix
