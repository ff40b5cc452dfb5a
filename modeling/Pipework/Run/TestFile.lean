import Pipework.Text.Blank

/-! The script of a test file. -/

namespace Pipework.Run

open Pipework.Text

def dropCarriageReturn (line : List Char) : List Char :=
  if line.getLast? = some '\r' then line.dropLast else line

/-- The lines of a text, split at line feeds; a carriage return before a line feed belongs to
the line ending, and a final line ending adds no empty line. -/
def textLines (text : String) : List String :=
  match (text.toList.splitOn '\n').reverse with
  | [] => []
  | last :: ended =>
    let ended := ended.reverse.map fun line => String.ofList (dropCarriageReturn line)
    if last.isEmpty then ended else ended ++ [String.ofList last]

def afterFirst (marker : List Char) : List Char → Option (List Char)
  | [] => none
  | c :: cs =>
    if marker.isPrefixOf (c :: cs) then some ((c :: cs).drop marker.length)
    else afterFirst marker cs

def occursIn (part text : String) : Bool :=
  (afterFirst part.toList text.toList).isSome

def afterMarker (marker line : String) : Option String :=
  (afterFirst marker.toList line.toList).map String.ofList

def runMarker : String := "RUN:"

/-- The line a `RUN:` line's content makes: a pending continuation is joined to it with a
blank, and stands alone when the content is empty. -/
def joinPending (pending : Option String) (content : String) : String :=
  match pending with
  | some head => if content.isEmpty then head else head ++ " " ++ content
  | none => content

/-- Folds one `RUN:` line's content into the script: a line that ends in a backslash stays
pending, without that backslash and the blanks before it, and empty lines are dropped. -/
def addRunLine (acc : List String × Option String) (content : String) :
    List String × Option String :=
  let (lines, pending) := acc
  let line := joinPending pending content
  if line.toList.getLast? = some '\\' then
    (lines, some (trimBlankEnd (String.ofList line.toList.dropLast)))
  else if line.isEmpty then (lines, none)
  else (lines ++ [line], none)

def scriptLines (text : String) : List String :=
  if !occursIn runMarker text then
    (textLines text).map trimBlank |>.filter fun line =>
      !line.isEmpty && line.toList.head? != some '#'
  else
    let contents := (textLines text).filterMap fun raw => (afterMarker runMarker raw).map trimBlank
    let (lines, pending) := contents.foldl addRunLine ([], none)
    match pending with
    | some head => if head.isEmpty then lines else lines ++ [head]
    | none => lines

end Pipework.Run
