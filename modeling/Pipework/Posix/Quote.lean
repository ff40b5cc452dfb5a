/-! Quoting texts so that a shell reads them back as they are. -/

namespace Pipework.Posix

def dashQuote (text : String) : String :=
  let rec go (fuel : Nat) (cs : List Char) : String :=
    match fuel with
    | 0 => ""
    | fuel + 1 =>
      let plain := cs.takeWhile (· != '\'')
      let rest := cs.drop plain.length
      let quotes := rest.takeWhile (· == '\'')
      let after := rest.drop quotes.length
      "'" ++ String.ofList plain ++ "'" ++
        (if quotes.isEmpty then "" else "\"" ++ String.ofList quotes ++ "\"" ++
          (if after.isEmpty then "" else go fuel after))
  go (text.length + 1) text.toList

def bashQuote (text : String) : String :=
  "'" ++ "'\\''".intercalate (text.splitOn "'") ++ "'"

def bashDoubleQuote (text : String) : String :=
  "\"" ++ String.join (text.toList.map fun c =>
    if c == '"' || c == '$' || c == '`' || c == '\\' then "\\" ++ String.singleton c
    else String.singleton c) ++ "\""

def needsAnsiQuote (text : String) : Bool :=
  text.toUTF8.toList.any fun b => b < 32 || b ≥ 127

def octalByte (b : UInt8) : String :=
  let n := b.toNat
  String.ofList [Char.ofNat (48 + n / 64), Char.ofNat (48 + n / 8 % 8), Char.ofNat (48 + n % 8)]

def ansiQuote (text : String) : String :=
  let piece (b : UInt8) : String :=
    match b.toNat with
    | 27 => "\\E" | 7 => "\\a" | 11 => "\\v" | 8 => "\\b" | 12 => "\\f"
    | 10 => "\\n" | 13 => "\\r" | 9 => "\\t"
    | 92 => "\\\\" | 39 => "\\'"
    | n => if n < 32 || n ≥ 127 then "\\" ++ octalByte b else String.singleton (Char.ofNat n)
  "$'" ++ String.join (text.toUTF8.toList.map piece) ++ "'"

/-- Whether a text holds a character the shell would read specially: blanks, quotes,
operators, pattern and expansion characters, a tilde where it would expand, or a `#` that
would start a comment. -/
def hasShellMetas (text : String) : Bool :=
  let rec go (prev : Option Char) : List Char → Bool
    | [] => false
    | c :: rest =>
      if " \t\n'\"\\|&;()<>!{}*[?]^$`".contains c then true
      else if c == '~' && (prev.isNone || prev == some '=' || prev == some ':') then true
      else if c == '#' && prev.isNone then true
      else go (some c) rest
  go none text.toList

def reusableQuote (text : String) : String :=
  if text.isEmpty then "''"
  else if needsAnsiQuote text then ansiQuote text
  else bashQuote text

/-- A text with a backslash before each character the shell reads specially, as bash's
`printf %q` writes it; the empty text is `''`, and a text with unprintable bytes takes the
`$'...'` form. -/
def backslashQuote (text : String) : String :=
  if text.isEmpty then "''"
  else if needsAnsiQuote text then ansiQuote text
  else
    let rec go (prev : Option Char) : List Char → List Char
      | [] => []
      | c :: rest =>
        let special := "\t\n !\"$&'()*,;<>?[\\]^`{|}".contains c ||
          (c == '#' && prev.isNone) || (c == '~' && (prev.isNone || prev == some ':' || prev == some '='))
        (if special then ['\\', c] else [c]) ++ go (some c) rest
    String.ofList (go none text.toList)

def bashValueQuote (text : String) : String :=
  if needsAnsiQuote text then ansiQuote text
  else if hasShellMetas text then bashQuote text
  else text

end Pipework.Posix
