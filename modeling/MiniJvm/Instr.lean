import MiniJvm.Frame

/-!
Instructions and their encoding. Decoding reads an opcode's operands one after the other, so an
instruction that is cut short leaves the program counter behind the operands that were there.
-/

namespace MiniJvm

inductive Comparison where
  | eq | ne | lt | ge | gt | le
  deriving DecidableEq

def Comparison.holds (comparison : Comparison) (a b : Int32) : Bool :=
  match comparison with
  | .eq => a == b
  | .ne => a != b
  | .lt => a < b
  | .ge => b ≤ a
  | .gt => b < a
  | .le => a ≤ b

inductive Arithmetic where
  | add | sub | mul | rem | shl | shr | ushr
  deriving DecidableEq

/-- Results wrap around at 32 bits. Only a remainder by zero has none; shifts use the low five bits of
their count. -/
def Arithmetic.apply (op : Arithmetic) (a b : Int32) : Except Fault Int32 :=
  match op with
  | .add => .ok (a + b)
  | .sub => .ok (a - b)
  | .mul => .ok (a * b)
  | .rem => if b = 0 then .error .divisionByZero else .ok (a % b)
  | .shl => .ok (a <<< b)
  | .shr => .ok (a >>> b)
  | .ushr => .ok (a.toUInt32 >>> b.toUInt32).toInt32

/-- An instruction with its operands. Offsets are counted from the end of the instruction. -/
inductive Instr where
  | iconst (value : Int32)
  | ldc (index : UInt8)
  | load (slot : Nat)
  | store (slot : Nat)
  | iaload
  | caload
  | iastore
  | castore
  | pop
  | dup
  | arithmetic (op : Arithmetic)
  | iinc (slot : Nat) (delta : Int8)
  | branchZero (comparison : Comparison) (offset : Int)
  | branchInts (comparison : Comparison) (offset : Int)
  | goto (offset : Int)
  | ireturn
  | areturn
  | leave
  | getstatic (index : UInt16)
  | putstatic (index : UInt16)
  | getfield (index : UInt16)
  | putfield (index : UInt16)
  | invokevirtual (index : UInt16)
  | invokespecial (index : UInt16)
  | invokestatic (index : UInt16)
  | invokedynamic (index padding : UInt16)
  | new (index : UInt16)
  | newarray (code : UInt8)
  | arraylength
  | monitor
  deriving DecidableEq

namespace Instr

def nth (opcode first : UInt8) : Nat :=
  opcode.toNat - first.toNat

def plain? (opcode : UInt8) : Option Instr :=
  if 2 ≤ opcode ∧ opcode ≤ 8 then some (.iconst (Int32.ofInt (opcode.toNat - 3)))
  else if 26 ≤ opcode ∧ opcode ≤ 29 then some (.load (nth opcode 26))
  else if 42 ≤ opcode ∧ opcode ≤ 45 then some (.load (nth opcode 42))
  else if opcode = 46 then some .iaload
  else if opcode = 52 then some .caload
  else if 59 ≤ opcode ∧ opcode ≤ 62 then some (.store (nth opcode 59))
  else if 75 ≤ opcode ∧ opcode ≤ 78 then some (.store (nth opcode 75))
  else if opcode = 79 then some .iastore
  else if opcode = 85 then some .castore
  else if opcode = 87 then some .pop
  else if opcode = 89 then some .dup
  else if opcode = 96 then some (.arithmetic .add)
  else if opcode = 100 then some (.arithmetic .sub)
  else if opcode = 104 then some (.arithmetic .mul)
  else if opcode = 112 then some (.arithmetic .rem)
  else if opcode = 120 then some (.arithmetic .shl)
  else if opcode = 122 then some (.arithmetic .shr)
  else if opcode = 124 then some (.arithmetic .ushr)
  else if opcode = 172 then some .ireturn
  else if opcode = 176 then some .areturn
  else if opcode = 177 then some .leave
  else if opcode = 190 then some .arraylength
  else if opcode = 194 ∨ opcode = 195 then some .monitor
  else none

def branch? (opcode : UInt8) : Option (Int → Instr) :=
  if opcode = 153 then some (.branchZero .eq)
  else if opcode = 154 then some (.branchZero .ne)
  else if opcode = 156 then some (.branchZero .ge)
  else if opcode = 158 then some (.branchZero .le)
  else if opcode = 159 then some (.branchInts .eq)
  else if opcode = 160 then some (.branchInts .ne)
  else if opcode = 161 then some (.branchInts .lt)
  else if opcode = 162 then some (.branchInts .ge)
  else if opcode = 163 then some (.branchInts .gt)
  else if opcode = 167 then some .goto
  else none

def byte? (opcode : UInt8) : Option (UInt8 → Instr) :=
  if opcode = 16 then some fun byte => .iconst byte.toInt8.toInt32
  else if opcode = 18 then some .ldc
  else if opcode = 21 ∨ opcode = 25 then some fun byte => .load byte.toNat
  else if opcode = 54 ∨ opcode = 58 then some fun byte => .store byte.toNat
  else if opcode = 188 then some .newarray
  else none

def pooled? (opcode : UInt8) : Option (UInt16 → Instr) :=
  if opcode = 178 then some .getstatic
  else if opcode = 179 then some .putstatic
  else if opcode = 180 then some .getfield
  else if opcode = 181 then some .putfield
  else if opcode = 182 then some .invokevirtual
  else if opcode = 183 then some .invokespecial
  else if opcode = 184 then some .invokestatic
  else if opcode = 187 then some .new
  else none

def unknown (opcode : UInt8) : Frame.Action Instr := fun frame =>
  .error (.unsupportedOpcode opcode frame.start) frame

def decode (opcode : UInt8) : Frame.Action Instr := do
  if let some instr := plain? opcode then return instr
  else if let some make := byte? opcode then return make (← Frame.u1)
  else if let some make := branch? opcode then return make (← Frame.offset)
  else if let some make := pooled? opcode then return make (← Frame.u2)
  else if opcode = 132 then
    let slot ← Frame.u1
    let delta ← Frame.i1
    return .iinc slot.toNat delta
  else if opcode = 186 then
    let index ← Frame.u2
    let padding ← Frame.u2
    return .invokedynamic index padding
  else unknown opcode

end Instr

end MiniJvm
