import Pipework.Text.Printable

/-! Texts as UTF-8 bytes. -/

namespace Pipework.Text

def byteSize : List Char → Nat
  | [] => 0
  | c :: cs => c.utf8Size + byteSize cs

@[simp] theorem byteSize_nil : byteSize [] = 0 := rfl

@[simp] theorem byteSize_cons (c : Char) (cs : List Char) :
    byteSize (c :: cs) = c.utf8Size + byteSize cs := rfl

@[simp] theorem byteSize_append (as bs : List Char) :
    byteSize (as ++ bs) = byteSize as + byteSize bs := by
  induction as with
  | nil => simp
  | cons a rest ih => simp [ih, Nat.add_assoc]

def prefixOfBytes : List Char → Nat → Option (List Char)
  | _, 0 => some []
  | [], _ + 1 => none
  | c :: cs, n + 1 =>
    if c.utf8Size ≤ n + 1 then
      (prefixOfBytes cs (n + 1 - c.utf8Size)).map (c :: ·)
    else none

def isContinuation (b : UInt8) : Bool :=
  0x80 ≤ b && b ≤ 0xBF

def leadShape (lead : UInt8) : Option (UInt8 × UInt8 × Nat) :=
  if 0xC2 ≤ lead && lead ≤ 0xDF then some (0x80, 0xBF, 2)
  else if lead == 0xE0 then some (0xA0, 0xBF, 3)
  else if (0xE1 ≤ lead && lead ≤ 0xEC) || lead == 0xEE || lead == 0xEF then some (0x80, 0xBF, 3)
  else if lead == 0xED then some (0x80, 0x9F, 3)
  else if lead == 0xF0 then some (0x90, 0xBF, 4)
  else if 0xF1 ≤ lead && lead ≤ 0xF3 then some (0x80, 0xBF, 4)
  else if lead == 0xF4 then some (0x80, 0x8F, 4)
  else none

def byteAt (bs : ByteArray) (i : Nat) : UInt8 :=
  bs[i]?.getD 0

def sequenceAt (bs : ByteArray) (i : Nat) : Nat × Option Char :=
  let lead := byteAt bs i
  if lead < 0x80 then (0, some (Char.ofNat lead.toNat))
  else
    match leadShape lead with
    | none => (0, none)
    | some (lo, hi, width) =>
      let second := byteAt bs (i + 1)
      if !(i + 1 < bs.size && lo ≤ second && second ≤ hi) then (0, none)
      else
        let code2 := (lead.toNat % (Nat.pow 2 (7 - width))) * 64 + (second.toNat % 64)
        if width == 2 then (1, some (Char.ofNat code2))
        else
          let third := byteAt bs (i + 2)
          if !(i + 2 < bs.size && isContinuation third) then (1, none)
          else
            let code3 := code2 * 64 + third.toNat % 64
            if width == 3 then (2, some (Char.ofNat code3))
            else
              let fourth := byteAt bs (i + 3)
              if !(i + 3 < bs.size && isContinuation fourth) then (2, none)
              else (3, some (Char.ofNat (code3 * 64 + fourth.toNat % 64)))

def decodeFrom (bs : ByteArray) (i : Nat) (acc : String) : String :=
  if i < bs.size then
    let step := sequenceAt bs i
    decodeFrom bs (i + step.1 + 1) (acc.push (step.2.getD '�'))
  else acc
termination_by bs.size - i

def decodeLossy (bs : ByteArray) : String :=
  match String.fromUTF8? bs with
  | some s => s
  | none => decodeFrom bs 0 ""

def isUnprintable (c : Char) : Bool :=
  isEscapedInLiteral c

def hexDigits (n : Nat) : String :=
  String.ofList (Nat.toDigits 16 n)

def escapeChar (c : Char) : String :=
  if c == '"' then "\\\""
  else if c == '\\' then "\\\\"
  else if c == '\n' then "\\n"
  else if c == '\r' then "\\r"
  else if c == '\t' then "\\t"
  else if c == '\x00' then "\\0"
  else if isUnprintable c then "\\u" ++ "\x7b" ++ hexDigits c.toNat ++ "\x7d"
  else c.toString

def literal (s : String) : String :=
  "\"" ++ String.join (s.toList.map escapeChar) ++ "\""

end Pipework.Text
