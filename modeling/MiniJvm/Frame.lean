import MiniJvm.ClassFile.Basic
import MiniJvm.Value

/-!
Frames of running methods: code with a program counter, an operand stack and local variables. The
operand stack is a list with its top first. Operations keep what they did before they fail.
-/

namespace MiniJvm

structure Frame where
  classFile : ClassFile
  methodIndex : Nat
  method : Member
  code : Cursor
  /-- Where the current instruction starts. -/
  start : Nat
  stack : List Value
  locals : List (Option Value)

namespace Frame

abbrev Action := EStateM Fault Frame

def enter (classFile : ClassFile) (methodIndex : Nat) (arguments : List Value) :
    Except Fault Frame :=
  match classFile.methods[methodIndex]? with
  | none => .error (.methodNotFound classFile.name ("#" ++ toString methodIndex) "")
  | some method =>
    match method.code? with
    | none => .error (.missingCode classFile.name method.name)
    | some code =>
      let size := code.maxLocals.toNat
      if size < arguments.length then .error (.localOutOfBounds (arguments.length - 1) size)
      else
        .ok {
          classFile, methodIndex, method
          code := Cursor.ofBytes code.bytes
          start := 0
          stack := []
          locals := arguments.map some ++ List.replicate (size - arguments.length) none }

def pc (frame : Frame) : Nat :=
  frame.code.position

def reading {α : Type} (read : Decode α) : Action α := fun frame =>
  match read frame.code with
  | .ok value code => .ok value { frame with code }
  | .error fault code => .error fault { frame with code }

/-- Starts the next instruction: its opcode, none at the end of the code. -/
def nextOpcode : Action (Option UInt8) := fun frame =>
  if frame.code.isExhausted then .ok none frame
  else (some <$> reading Cursor.u1) { frame with start := frame.pc }

def peekOpcode? (frame : Frame) : Option UInt8 :=
  match Cursor.u1 frame.code with
  | .ok opcode _ => some opcode
  | .error _ _ => none

def restart : Action Unit := fun frame =>
  (discard (reading (Cursor.jumpTo frame.start))) frame

def u1 : Action UInt8 := reading Cursor.u1

def i1 : Action Int8 := do
  return (← u1).toInt8

def u2 : Action UInt16 := reading Cursor.u2

/-- A branch offset, counted from the end of the three-byte instruction that holds it. -/
def offset : Action Int := do
  let word ← u2
  return word.toInt16.toInt - 3

def jump (offset : Int) : Action Unit :=
  discard (reading (Cursor.fromHere offset))

def setLocal (index : Nat) (value : Value) : Action Unit := fun frame =>
  if index < frame.locals.length then
    .ok () { frame with locals := frame.locals.set index (some value) }
  else .error (.localOutOfBounds index frame.locals.length) frame

def getLocal (index : Nat) : Action Value := fun frame =>
  match frame.locals[index]? with
  | some (some value) => .ok value frame
  | some none => .error (.localUnset index) frame
  | none => .error (.localOutOfBounds index frame.locals.length) frame

def push (value : Value) : Action Unit := fun frame =>
  .ok () { frame with stack := value :: frame.stack }

def pop : Action Value := fun frame =>
  match frame.stack with
  | value :: stack => .ok value { frame with stack }
  | [] => .error .stackUnderflow frame

def dup : Action Unit := fun frame =>
  match frame.stack with
  | value :: stack => .ok () { frame with stack := value :: value :: stack }
  | [] => .error .stackUnderflow frame

def popInt : Action Int32 := do
  let value ← pop
  match value.toInt? with
  | some int => return int
  | none => throw (.typeMismatch Value.intTag value.tag)

def popReference (tag : String) : Action Nat := do
  match ← pop with
  | .reference address found =>
    if found = tag then return address else throw (.typeMismatch tag found)
  | other => throw (.typeMismatch tag other.tag)

def popAny : Action (Nat × String) := do
  match ← pop with
  | .reference address tag => return (address, tag)
  | other => throw (.typeMismatch "reference" other.tag)

def line? (frame : Frame) : Option UInt16 := do
  let code ← frame.method.code?
  code.lineAt? frame.start

end Frame

end MiniJvm
