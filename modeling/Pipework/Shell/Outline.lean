import Pipework.Shell.Command
import Pipework.Text.Utf8

/-! The outline of a command tree that the command line prints. -/

namespace Pipework.Shell

/-- A value laid out for the outline: a word printed as it is, a named record, a named
tuple or a list. -/
inductive Outline where
  | atom (text : String)
  | record (name : String) (fields : List (String × Outline))
  | tuple (name : String) (items : List Outline)
  | list (items : List Outline)
  deriving Inhabited

def blanks (n : Nat) : String :=
  String.ofList (List.replicate n ' ')

mutual

def Outline.render (indent : Nat) : Outline → String
  | .atom text => text
  | .record name fields => name ++ " \x7b\n" ++ renderFields (indent + 4) fields ++ blanks indent ++ "\x7d"
  | .tuple name items => name ++ "(\n" ++ renderItems (indent + 4) items ++ blanks indent ++ ")"
  | .list [] => "[]"
  | .list (item :: items) =>
    "[\n" ++ renderItems (indent + 4) (item :: items) ++ blanks indent ++ "]"

def renderFields (indent : Nat) : List (String × Outline) → String
  | [] => ""
  | (name, value) :: rest =>
    blanks indent ++ name ++ ": " ++ value.render indent ++ ",\n" ++ renderFields indent rest

def renderItems (indent : Nat) : List Outline → String
  | [] => ""
  | item :: rest => blanks indent ++ item.render indent ++ ",\n" ++ renderItems indent rest

end

def Outline.option : Option Outline → Outline
  | none => .atom "None"
  | some v => .tuple "Some" [v]

def RedirectOp.outlineName : RedirectOp → String
  | .input => "In"
  | .output => "Out"
  | .append => "Append"
  | .dupOutput => "DupOut"
  | .both => "Both"
  | .dupInput => "DupIn"

def SeqOp.outlineName : SeqOp → String
  | .semi => "Semi"
  | .and => "And"
  | .or => "Or"
  | .background => "Background"

def Redirect.outline (r : Redirect) : Outline :=
  .record "Redirect"
    [("op", .atom r.op.outlineName),
     ("fd", Outline.option (r.fd.map fun n => .atom (toString n))),
     ("target", .atom (Pipework.Text.literal r.target))]

def SimpleCommand.outline (c : SimpleCommand) : Outline :=
  .record "SimpleCommand"
    [("args", .list (c.args.map fun a => .atom (Pipework.Text.literal a))),
     ("redirects", .list (c.redirects.map Redirect.outline))]

def Pipeline.outline (p : Pipeline) : Outline :=
  .record "Pipeline"
    [("commands", .list (p.commands.map SimpleCommand.outline)),
     ("pipe_fail", .atom (toString p.pipeFail)),
     ("negate", .atom (toString p.negate))]

def CommandTree.outline : CommandTree → Outline
  | .pipeline p => .tuple "Pipeline" [p.outline]
  | .sequence left op right =>
    .record "Sequence" [("left", left.outline), ("op", .atom op.outlineName), ("right", right.outline)]

end Pipework.Shell
