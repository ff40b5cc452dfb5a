import Pipework.Tcl.Words
import Pipework.Shell.Command

/-! Tcl `exec` pipelines. -/

namespace Pipework.Tcl

open Pipework.Shell

/-- The `exec` redirections that a script may use, in the order they are tried: the word's
prefix, the operator it stands for and the descriptor it redirects. -/
def execRedirects : List (String × RedirectOp × Option Nat) :=
  [("2>>", .append, some 2), ("2>", .output, some 2), (">&", .both, none),
   (">>", .append, none), (">", .output, none), ("<", .input, none)]

def isChannelRedirect (word : String) : Bool :=
  let cs := word.toList
  let cs := if cs.head? == some '2' then cs.drop 1 else cs
  match cs with
  | '>' :: rest =>
    let rest := if rest.head? == some '>' then rest.drop 1 else rest
    let rest := if rest.head? == some '&' then rest.drop 1 else rest
    rest.head? == some '@'
  | _ => false

/-- What a word of an `exec` line is. -/
inductive WordRole where
  | argument
  | unsupported
  | attached (op : RedirectOp) (fd : Option Nat) (target : String)
  | detached (op : RedirectOp) (fd : Option Nat) (pfx : String)
  deriving Repr, DecidableEq

/-- Classifies a word: here-documents, channel redirections and `>>&` are refused; a word that
starts with a redirection prefix redirects, to the rest of the word if there is any. -/
def roleOf (word : String) : WordRole :=
  if word.startsWith "<<" || word.startsWith "<@" || isChannelRedirect word ||
      word.startsWith ">>&" then .unsupported
  else
    match execRedirects.find? (fun entry => word.startsWith entry.1) with
    | none => .argument
    | some (pfx, op, fd) =>
      let rest := String.ofList (word.toList.drop pfx.length)
      if rest.isEmpty then .detached op fd pfx else .attached op fd rest

def errorsToOutput : Redirect :=
  ⟨.dupOutput, some 2, "1"⟩

/-- Builds a pipeline from the rest of the words, with the finished commands `done` and the
command under way `current`. -/
def buildFrom (done : List SimpleCommand) (current : SimpleCommand) :
    List String → Except DialectError Pipeline
  | [] =>
    if current.args.isEmpty then .error .emptyCommand
    else .ok ⟨done ++ [current], true, false⟩
  | w :: ws =>
    if w == "|" || w == "|&" then
      if current.args.isEmpty then .error .emptyCommand
      else
        let finished := if w == "|&" then
          { current with redirects := current.redirects ++ [errorsToOutput] } else current
        buildFrom (done ++ [finished]) {args := []} ws
    else if w == "&" then .error .background
    else if w == "2>@1" then
      buildFrom done { current with redirects := current.redirects ++ [errorsToOutput] } ws
    else
      match roleOf w with
      | .unsupported => .error (.unsupportedRedirect w)
      | .argument => buildFrom done { current with args := current.args ++ [w] } ws
      | .attached op fd target =>
        buildFrom done { current with redirects := current.redirects ++ [⟨op, fd, target⟩] } ws
      | .detached op fd pfx =>
        match ws with
        | [] => .error (.missingTarget pfx)
        | target :: rest =>
          buildFrom done { current with redirects := current.redirects ++ [⟨op, fd, target⟩] } rest

def buildPipeline (words : List String) : Except DialectError Pipeline :=
  buildFrom [] {args := []} words

/-- How far reading one `exec` line got: splitting it into words failed, it holds a control
character (the first one is named), or its words were built into a pipeline or refused. -/
inductive LineReading where
  | unsplittable (e : DialectError)
  | control (tokens : List WordToken) (c : Char)
  | built (tokens : List WordToken) (result : Except DialectError Pipeline)

def firstControl : List WordToken → Option Char
  | [] => none
  | .control c :: _ => some c
  | .word _ :: ts => firstControl ts

def wordsOf (tokens : List WordToken) : List String :=
  tokens.filterMap fun
    | .word w => some w
    | .control _ => none

def readResolved (resolved : String) : LineReading :=
  match tokenize resolved with
  | .error e => .unsplittable e
  | .ok tokens =>
    match firstControl tokens with
    | some c => .control tokens c
    | none => .built tokens (buildPipeline (wordsOf tokens))

end Pipework.Tcl
