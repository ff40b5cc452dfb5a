/-! The syntax of the shell language as scripts are parsed: words made of literal, quoted and
expanded pieces, redirections, simple commands, pipelines, lists and the compound commands. -/

namespace Pipework.Posix

/-- Where a pattern substitution `${name/pattern/text}` may match: the first match, every
match, only at the start or only at the end of the value. -/
inductive ReplaceMode where
  | first
  | every
  | front
  | back
  deriving Repr, DecidableEq, Inhabited

mutual

/-- A piece of a word. Expansions record whether they stand inside double quotes, which
decides whether their result is split into fields. -/
inductive Piece where
  /-- Literal text outside quotes; its pattern characters may match file names. -/
  | lit (text : String)
  /-- Literal text from quotes or a backslash. -/
  | quoted (text : String)
  /-- A parameter expansion `$name` or `${name...}`. -/
  | param (target : Param) (op : ParamOp) (inQuotes : Bool)
  /-- An arithmetic expansion `$((...))`; its text is expanded before it is evaluated. -/
  | arith (expr : List Piece) (inQuotes : Bool)
  /-- A command substitution `$(...)` or backquotes, with the text of its script. -/
  | command (script : String) (inQuotes : Bool)
  /-- A tilde prefix `~` or `~user`; `leading` when it starts the word rather than following
  the `=` or a `:` of an assignment. -/
  | tilde (user : String) (leading : Bool)
  /-- The parenthesised words of an array assignment `name=(...)`. -/
  | list (items : List (List Piece))

/-- What a parameter expansion reads. -/
inductive Param where
  /-- A variable, a positional parameter or a special parameter. -/
  | named (name : String)
  /-- One element of an array, `name[index]`; the index is expanded and, for an indexed
  array, evaluated as arithmetic. -/
  | element (name : String) (index : List Piece)
  /-- Every element of an array, `name[@]`, or with `joined`, `name[*]`. -/
  | every (name : String) (joined : Bool)
  /-- The parameter whose name is the value of another, `${!name}`. -/
  | indirect (inner : Param)
  /-- The names of the variables that start with a prefix, `${!prefix@}` or `${!prefix*}`. -/
  | prefixed (start : String) (joined : Bool)
  /-- The indices of an array, `${!name[@]}` or `${!name[*]}`. -/
  | keys (name : String) (joined : Bool)

/-- What a parameter expansion does with the parameter's value. -/
inductive ParamOp where
  | plain
  /-- `${#name}`: the length of the value. -/
  | length
  /-- `${name-word}`, `${name=word}`, `${name?word}`, `${name+word}`, and with a colon
  `${name:-word}` and so on, which also treat an empty value as unset. -/
  | fallback (kind : Char) (colon : Bool) (word : List Piece)
  /-- `${name%pattern}`, `${name%%pattern}`, `${name#pattern}`, `${name##pattern}`. -/
  | trim (suffix longest : Bool) (pattern : List Piece)
  /-- `${name:offset}` and `${name:offset:length}`, both arithmetic. -/
  | slice (offset : List Piece) (count : Option (List Piece))
  /-- `${name/pattern/text}` and its forms with `//`, `/#` and `/%`. -/
  | replace (mode : ReplaceMode) (pattern : List Piece) (text : List Piece)
  /-- `${name^pattern}`, `${name^^pattern}`, `${name,pattern}`, `${name,,pattern}`: letters
  that match are made upper or lower case, the first one or all. -/
  | caseMap (upper all : Bool) (pattern : List Piece)
  /-- `${name@letter}`: a transformation of the value, such as quoting it. -/
  | transform (letter : Char)
  /-- An expansion bash cannot read, kept with its text for the message it gives when it is
  reached. -/
  | invalid (text : String)

end

/-- A word: its pieces in order. -/
abbrev Word := List Piece

/-- A piece of a word seen one character at a time: an unquoted literal character, or any
other piece whole. -/
inductive WordItem where
  | char (c : Char)
  | piece (p : Piece)

def wordItems (w : Word) : List WordItem :=
  w.flatMap fun
    | .lit text => text.toList.map WordItem.char
    | p => [WordItem.piece p]

def itemsWord (items : List WordItem) : Word :=
  let step (acc : Word × String) (item : WordItem) : Word × String :=
    match item with
    | .char c => (acc.1, acc.2.push c)
    | .piece p => (acc.1 ++ (if acc.2.isEmpty then [] else [.lit acc.2]) ++ [p], "")
  let (pieces, rest) := items.foldl step ([], "")
  pieces ++ (if rest.isEmpty then [] else [.lit rest])

/-- The operator of a redirection. -/
inductive RedirOp where
  /-- `<` -/
  | input
  /-- `>` -/
  | output
  /-- `>|` -/
  | clobber
  /-- `>>` -/
  | append
  /-- `<>` -/
  | readWrite
  /-- `<&` -/
  | dupInput
  /-- `>&` -/
  | dupOutput
  /-- `&>`, both output streams to a file (a bash form). -/
  | both
  /-- `&>>`, both output streams appended to a file (a bash form). -/
  | bothAppend
  /-- `<<` or, with `strip`, `<<-`: a here-document, whose body is the target. -/
  | hereDoc (strip : Bool)
  /-- `<<<`: a here-string (a bash form). -/
  | hereString
  deriving Repr, DecidableEq, Inhabited

def RedirOp.defaultFd : RedirOp → Nat
  | .input | .readWrite | .dupInput | .hereDoc _ | .hereString => 0
  | _ => 1

def RedirOp.text : RedirOp → String
  | .input => "<" | .output => ">" | .clobber => ">|" | .append => ">>" | .readWrite => "<>"
  | .dupInput => "<&" | .dupOutput => ">&" | .both => "&>" | .bothAppend => "&>>"
  | .hereDoc false => "<<" | .hereDoc true => "<<-" | .hereString => "<<<"

/-- A redirection: the descriptor, the operator and the target word. -/
structure Redir where
  fd : Option Nat
  op : RedirOp
  target : Word

/-- The value of an assignment: one word, or the words of an array. -/
inductive AssignValue where
  | scalar (w : Word)
  | list (items : List Word)

/-- An assignment `name=value`, `name+=value` (which appends), or `name[index]=value`. -/
structure Assign where
  name : String
  index : Option Word := none
  append : Bool := false
  value : AssignValue

/-- An expression of the conditional command `[[ ... ]]`. -/
inductive CondExpr where
  /-- A lone word: true when it expands to a non-empty text. -/
  | word (w : Word)
  /-- A unary test such as `-f file` or `-z text`. -/
  | unary (op : String) (arg : Word)
  /-- A binary test; the right side of `==`, `!=` and `=` is a pattern, of `=~` a regular
  expression. -/
  | binary (op : String) (lhs rhs : Word)
  | not (e : CondExpr)
  | and (a b : CondExpr)
  | or (a b : CondExpr)

/-- How a `case` arm ends: `;;` stops, `;&` runs the next arm's body too, and `;;&` goes on
testing the patterns of the arms after it. -/
inductive CaseEnd where
  | stop
  | fallThrough
  | retest
  deriving Repr, DecidableEq, Inhabited

/-- A command of the shell language. Simple commands carry the line they start on, which
error messages name. -/
inductive Cmd where
  | simple (assigns : List Assign) (words : List Word) (redirs : List Redir) (line : Nat)
  /-- A pipeline; `negate` for a leading `!`. -/
  | pipeline (negate : Bool) (stages : List Cmd)
  /-- An and-or list: the first pipeline, then pipelines each after `&&` (true) or `||`. -/
  | andOr (first : Cmd) (rest : List (Bool × Cmd))
  /-- Commands run one after another. -/
  | sequence (items : List Cmd)
  /-- A command run in the background. -/
  | background (body : Cmd)
  /-- `{ ...; }` -/
  | group (body : Cmd) (redirs : List Redir)
  /-- `( ... )` -/
  | subshell (body : Cmd) (redirs : List Redir)
  /-- `if`, its `elif` branches and an optional `else`. -/
  | ifThen (branches : List (Cmd × Cmd)) (otherwise : Option Cmd) (redirs : List Redir)
  /-- `for name [in words]; do ...; done`; without `in` the positional parameters. -/
  | forLoop (name : String) (words : Option (List Word)) (body : Cmd) (redirs : List Redir)
  /-- `for ((init; test; step)); do ...; done`, three arithmetic expressions. -/
  | arithFor (init test step : Word) (body : Cmd) (redirs : List Redir) (line : Nat)
  /-- `while` (or with `isUntil`, `until`) loops. -/
  | whileLoop (isUntil : Bool) (cond body : Cmd) (redirs : List Redir)
  /-- `case word in patterns) ...;; esac` -/
  | caseOf (subject : Word) (arms : List (List Word × Cmd × CaseEnd)) (redirs : List Redir)
  /-- A function definition. -/
  | function (name : String) (body : Cmd)
  /-- `(( expression ))`: true when the expression is not zero. -/
  | arithmetic (expr : Word) (redirs : List Redir) (line : Nat)
  /-- `[[ expression ]]` -/
  | test (expr : CondExpr) (redirs : List Redir) (line : Nat)
  deriving Inhabited

/-- The flavour of shell: the Debian Almquist shell that `/bin/sh` is, or bash. They differ
in the wording of their messages, in `echo`, and in a few features. -/
inductive Flavor where
  | dash
  | bash
  deriving Repr, DecidableEq, Inhabited

end Pipework.Posix
