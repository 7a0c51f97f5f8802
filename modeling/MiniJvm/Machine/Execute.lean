import MiniJvm.Instr
import MiniJvm.Machine.Dynamic
import MiniJvm.Machine.Fields

/-!
The effect of every instruction on the running frame and the shared state.
-/

namespace MiniJvm

namespace Exec

/-- Pushes an int or a string constant; a string is a new object each time. -/
def ldc (index : UInt16) : Exec Unit := do
  match ← pooled (·.get index) with
  | .integer value => push (.int value)
  | .string _ text =>
    let address ← onShared (Shared.allocate (.str text))
    push (.reference address Value.stringTag)
  | other => throw (.unsupportedLdc index other.kind)

def load (slot : Nat) : Exec Unit := do
  let value ← onFrame (Frame.getLocal slot)
  push value

def store (slot : Nat) : Exec Unit := do
  let value ← onFrame Frame.pop
  onFrame (Frame.setLocal slot value)

def iaload : Exec Unit := do
  let index ← popInt
  let array ← popReference Value.intArrayTag
  let value ← onShared (Shared.asking (·.getInt array index))
  push (.int value)

def caload : Exec Unit := do
  let index ← popInt
  let array ← popReference Value.charArrayTag
  let unit ← onShared (Shared.asking (·.getChar array index))
  push (.char unit)

def iastore : Exec Unit := do
  let value ← popInt
  let index ← popInt
  let array ← popReference Value.intArrayTag
  discard (onShared (Shared.setInt array index value))

def castore : Exec Unit := do
  let value ← popInt
  let index ← popInt
  let array ← popReference Value.charArrayTag
  discard (onShared (Shared.setChar array index value.toUInt32.toUInt16))

def arithmetic (op : Arithmetic) : Exec Unit := do
  let right ← popInt
  let left ← popInt
  let result ← check (op.apply left right)
  push (.int result)

/-- Adds to a local variable, which has to hold an int. -/
def iinc (slot : Nat) (delta : Int8) : Exec Unit := do
  match ← onFrame (Frame.getLocal slot) with
  | .int value => onFrame (Frame.setLocal slot (.int (value + delta.toInt32)))
  | other => throw (.typeMismatch Value.intTag other.tag)

def branch (holds : Bool) (offset : Int) : Exec Unit :=
  if holds then onFrame (Frame.jump offset) else pure ()

def branchZero (comparison : Comparison) (offset : Int) : Exec Unit := do
  let value ← popInt
  branch (comparison.holds value 0) offset

def branchInts (comparison : Comparison) (offset : Int) : Exec Unit := do
  let right ← popInt
  let left ← popInt
  branch (comparison.holds left right) offset

def zeroArray (code : UInt8) (count : Nat) : Except Fault HeapObject :=
  if code = 10 then .ok (.ints (Array.replicate count 0))
  else if code = 5 then .ok (.chars (Array.replicate count 0))
  else .error (.unsupportedArrayType code)

def newarray (code : UInt8) : Exec Unit := do
  let count ← popInt
  if count < 0 then throw (.negativeArraySize count)
  let array ← check (zeroArray code count.toInt.toNat)
  let address ← onShared (Shared.allocate array)
  push (.reference address array.kind)

def arraylength : Exec Unit := do
  let (array, _) ← popAny
  let length ← onShared (Shared.asking (·.arrayLength array))
  push (.int (Int32.ofNat length))

/-- There are no threads and nothing to lock. -/
def monitor : Exec Unit := discard popAny

def andProceed (action : Exec Unit) : Exec Control := do
  action
  return .proceed

def execute : Instr → Exec Control
  | .iconst value => andProceed (push (.int value))
  | .ldc index => andProceed (ldc index.toUInt16)
  | .load slot => andProceed (load slot)
  | .store slot => andProceed (store slot)
  | .iaload => andProceed iaload
  | .caload => andProceed caload
  | .iastore => andProceed iastore
  | .castore => andProceed castore
  | .pop => andProceed (discard (onFrame Frame.pop))
  | .dup => andProceed (onFrame Frame.dup)
  | .arithmetic op => andProceed (arithmetic op)
  | .iinc slot delta => andProceed (iinc slot delta)
  | .branchZero comparison offset => andProceed (branchZero comparison offset)
  | .branchInts comparison offset => andProceed (branchInts comparison offset)
  | .goto offset => andProceed (onFrame (Frame.jump offset))
  | .ireturn => do return .leave (some (.int (← popInt)))
  | .areturn => do
    let (address, tag) ← popAny
    return .leave (some (.reference address tag))
  | .leave => return .leave none
  | .getstatic index => getstatic index
  | .putstatic index => putstatic index
  | .getfield index => getfield index
  | .putfield index => putfield index
  | .invokevirtual index => invokevirtual index
  | .invokespecial index => invokespecial index
  | .invokestatic index => invokestatic index
  | .invokedynamic index padding => invokedynamic index padding
  | .new index => new index
  | .newarray code => andProceed (newarray code)
  | .arraylength => andProceed arraylength
  | .monitor => andProceed monitor

def pastEnd {α : Type} : Exec α :=
  ofFrame fun frame => .error (.missingReturn frame.classFile.name frame.method.name)

def fetch : Exec UInt8 := do
  match ← onFrame Frame.nextOpcode with
  | some opcode => return opcode
  | none => pastEnd

def reportStart (opcode : UInt8) : Exec Unit := do
  let start ← ofFrame fun frame => .ok frame.start
  onShared (Shared.report (.instruction opcode start))

def instruction : Exec Control := do
  let opcode ← fetch
  reportStart opcode
  let instr ← onFrame (Instr.decode opcode)
  execute instr

end Exec

end MiniJvm
