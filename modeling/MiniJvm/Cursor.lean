import MiniJvm.Fault

/-!
A position in a buffer of bytes, with big-endian reads and jumps. The same cursor reads class files and
serves as the program counter of a method. A failing operation leaves the position where it was.
-/

namespace MiniJvm

/-- A buffer and a position in it, the end included. -/
structure Cursor where
  bytes : Array UInt8
  position : Nat
  inside : position ≤ bytes.size
  deriving DecidableEq

abbrev Decode := EStateM Fault Cursor

def bigEndian (bytes : List UInt8) : Nat :=
  bytes.foldl (fun n byte => n * 256 + byte.toNat) 0

namespace Cursor

def ofBytes (bytes : Array UInt8) : Cursor :=
  ⟨bytes, 0, Nat.zero_le _⟩

def size (c : Cursor) : Nat :=
  c.bytes.size

def remaining (c : Cursor) : Nat :=
  c.bytes.size - c.position

def isExhausted (c : Cursor) : Bool :=
  c.remaining == 0

def rest (c : Cursor) : List UInt8 :=
  c.bytes.toList.drop c.position

def take (count : Nat) : Decode (Array UInt8) := fun c =>
  if h : c.position + count ≤ c.bytes.size then
    .ok (c.bytes.extract c.position (c.position + count)) ⟨c.bytes, c.position + count, h⟩
  else
    .error (.unexpectedEnd count c.remaining) c

def number (width : Nat) : Decode Nat := do
  let bytes ← take width
  return bigEndian bytes.toList

def u1 : Decode UInt8 := UInt8.ofNat <$> number 1

def u2 : Decode UInt16 := UInt16.ofNat <$> number 2

def u4 : Decode UInt32 := UInt32.ofNat <$> number 4

def times {α : Type} : Nat → Decode α → Decode (List α)
  | 0, _ => pure []
  | count + 1, item => do
    let first ← item
    let others ← times count item
    return first :: others

def counted {α : Type} (item : Decode α) : Decode (List α) := do
  let count ← u2
  times count.toNat item

/-- Moves to an absolute position between the start and the end, both included. -/
def jumpTo (target : Int) : Decode Nat := fun c =>
  if h : 0 ≤ target ∧ target ≤ c.bytes.size then
    .ok target.toNat ⟨c.bytes, target.toNat, by omega⟩
  else
    .error (.branchOutside target) c

/-- Moves to an offset from the start. Offsets are signed words, so the upper half is negative. -/
def fromStart (offset : UInt64) : Decode Nat :=
  jumpTo offset.toInt64.toInt

def fromHere (offset : Int) : Decode Nat := fun c =>
  jumpTo (c.position + offset) c

def fromEnd (offset : Int) : Decode Nat := fun c =>
  jumpTo (c.bytes.size + offset) c

end Cursor

end MiniJvm
