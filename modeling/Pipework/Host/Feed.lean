/-! The bytes that flow through a pipe. -/

namespace Pipework.Host

/-- A finite head of bytes, then `cycle` repeated for ever (nothing when `cycle` is empty). -/
structure Feed where
  head : ByteArray := .empty
  cycle : ByteArray := .empty

namespace Feed

def ofBytes (data : ByteArray) : Feed :=
  { head := data }

def isEndless (f : Feed) : Bool :=
  !f.cycle.isEmpty

def finite? (f : Feed) : Option ByteArray :=
  if f.isEndless then none else some f.head

def zeros : Feed :=
  { cycle := ByteArray.mk #[0] }

def push (f : Feed) (data : ByteArray) : Feed :=
  if f.isEndless then f else { f with head := f.head ++ data }

def repeating (f : Feed) (chunk : ByteArray) : Feed :=
  if f.isEndless || chunk.isEmpty then f else { f with cycle := chunk }

def drop (f : Feed) (n : Nat) : Feed :=
  if n ≤ f.head.size then { f with head := f.head.extract n f.head.size }
  else if f.cycle.isEmpty then { head := .empty }
  else
    let k := (n - f.head.size) % f.cycle.size
    { f with head := f.cycle.extract k f.cycle.size }

def take (f : Feed) (n : Nat) : ByteArray :=
  if n ≤ f.head.size || f.cycle.isEmpty then f.head.extract 0 n
  else
    let rounds := (n - f.head.size) / f.cycle.size
    let whole := (List.replicate rounds f.cycle).foldl (· ++ ·) f.head
    whole ++ f.cycle.extract 0 (n - whole.size)

def lineEndFrom (data : ByteArray) (i : Nat) : Option Nat :=
  if h : i < data.size then
    if data[i] == 10 then some (i + 1) else lineEndFrom data (i + 1)
  else none
termination_by data.size - i

/-- The number of bytes up to and including the first line end, or nothing when the feed
has no line end at all. -/
def lineLength? (f : Feed) : Option Nat :=
  match lineEndFrom f.head 0 with
  | some n => some n
  | none => (lineEndFrom f.cycle 0).map (f.head.size + ·)

/-- The first line of the feed with its line end, and the rest. A feed that ends without a
final line end gives its last bytes as a line; an empty feed gives nothing. An endless feed
without any line end has no first line. -/
def line? (f : Feed) : Option (ByteArray × Feed) :=
  match f.lineLength? with
  | some n => some (f.take n, f.drop n)
  | none => if f.isEndless || f.head.isEmpty then none else some (f.head, {})

def takeLines : Nat → Feed → ByteArray × Feed
  | 0, f => (.empty, f)
  | n + 1, f =>
    match f.line? with
    | none => (.empty, f)
    | some (first, rest) =>
      let (more, left) := takeLines n rest
      (first ++ more, left)

end Feed

end Pipework.Host
