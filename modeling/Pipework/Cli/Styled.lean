/-! Text with tones, for the parts of the command line's help and errors. -/

namespace Pipework.Cli

/-- The tone of a piece of text. -/
inductive Tone where
  | plain
  | literal
  | placeholder
  | header
  | usage
  | error
  | valid
  | invalid
  deriving Repr, DecidableEq, Inhabited

def Tone.escape : Tone → String
  | .plain => ""
  | .literal => "\x1b[38;5;250m"
  | .placeholder => "\x1b[38;5;245m"
  | .header => "\x1b[38;5;74m"
  | .usage => "\x1b[1m\x1b[4m"
  | .error => "\x1b[1m\x1b[31m"
  | .valid => "\x1b[32m"
  | .invalid => "\x1b[33m"

/-- Text as pieces, each with its tone. -/
abbrev Styled := List (Tone × String)

def plain (s : String) : Styled := [(.plain, s)]

def toned (t : Tone) (s : String) : Styled := [(t, s)]

/-- The text of a styled text: with colour, each toned piece between its tone's escape and
the reset; without, the pieces alone. -/
def Styled.render (s : Styled) (colour : Bool) : String :=
  String.join (s.map fun (t, text) =>
    if colour && t != .plain then t.escape ++ text ++ "\x1b[0m" else text)

def Styled.text (s : Styled) : String :=
  s.render false

def Styled.joinWith (sep : Styled) : List Styled → Styled
  | [] => []
  | [s] => s
  | s :: more => s ++ sep ++ Styled.joinWith sep more

def Styled.trimEnd (s : Styled) : Styled :=
  let rec go : List (Tone × String) → List (Tone × String)
    | [] => []
    | (t, text) :: more =>
      if t != .plain then ((t, text) :: more).reverse
      else
        let kept := String.ofList (text.toList.reverse.dropWhile (fun c => c == ' ' || c == '\n')).reverse
        if kept.isEmpty then go more else ((t, kept) :: more).reverse
  go s.reverse

end Pipework.Cli
