import MiniJvm.Text.Utf16
import MiniJvm.Value

/-!
The heap: objects that live until the end, at addresses that never change.
-/

namespace MiniJvm

inductive HeapObject where
  | ints (values : Array Int32)
  | chars (units : Array UInt16)
  | str (text : String)
  | instanceOf (className : String) (fields : Fields)
  deriving DecidableEq

def HeapObject.kind : HeapObject → String
  | .ints _ => Value.intArrayTag
  | .chars _ => Value.charArrayTag
  | .str _ => Value.stringTag
  | .instanceOf className _ => FieldType.objectTag className

structure Heap where
  objects : Array HeapObject
  deriving DecidableEq

namespace Heap

def empty : Heap := ⟨#[]⟩

def size (heap : Heap) : Nat :=
  heap.objects.size

/-- Adds an object at the end. Its address is the size before. -/
def push (heap : Heap) (object : HeapObject) : Heap :=
  ⟨heap.objects.push object⟩

def get (heap : Heap) (address : Nat) : Except Fault HeapObject :=
  match heap.objects[address]? with
  | some object => .ok object
  | none => .error (.invalidReference address)

def mismatch {α : Type} (expected : String) (found : HeapObject) : Except Fault α :=
  .error (.typeMismatch expected found.kind)

def string (heap : Heap) (address : Nat) : Except Fault String := do
  match ← heap.get address with
  | .str text => return text
  | other => mismatch Value.stringTag other

def ints (heap : Heap) (address : Nat) : Except Fault (Array Int32) := do
  match ← heap.get address with
  | .ints values => return values
  | other => mismatch Value.intArrayTag other

def chars (heap : Heap) (address : Nat) : Except Fault (Array UInt16) := do
  match ← heap.get address with
  | .chars units => return units
  | other => mismatch Value.charArrayTag other

def arrayLength (heap : Heap) (address : Nat) : Except Fault Nat := do
  match ← heap.get address with
  | .ints values => return values.size
  | .chars units => return units.size
  | other => mismatch "array" other

def fields (heap : Heap) (address : Nat) : Except Fault Fields := do
  match ← heap.get address with
  | .instanceOf _ fields => return fields
  | other => mismatch "object instance" other

def getField (heap : Heap) (address : Nat) (name : String) : Except Fault (Option Value) := do
  return (← heap.fields address).get? name

/-- Sets a field of the instance at an address; anything else stays as it is. -/
def setField (heap : Heap) (address : Nat) (name : String) (value : Value) : Heap :=
  ⟨heap.objects.modify address fun
    | .instanceOf className fields => .instanceOf className (fields.set name value)
    | other => other⟩

def setInt (heap : Heap) (address index : Nat) (value : Int32) : Heap :=
  ⟨heap.objects.modify address fun
    | .ints values => .ints (values.setIfInBounds index value)
    | other => other⟩

def setChar (heap : Heap) (address index : Nat) (unit : UInt16) : Heap :=
  ⟨heap.objects.modify address fun
    | .chars units => .chars (units.setIfInBounds index unit)
    | other => other⟩

def elementIndex (index : Int32) (length : Nat) : Except Fault (Fin length) :=
  if h : 0 ≤ index.toInt ∧ index.toInt.toNat < length then .ok ⟨index.toInt.toNat, h.2⟩
  else .error (.arrayIndexOutOfBounds index length)

def getInt (heap : Heap) (address : Nat) (index : Int32) : Except Fault Int32 := do
  let values ← heap.ints address
  let i ← elementIndex index values.size
  return values[i]

def getChar (heap : Heap) (address : Nat) (index : Int32) : Except Fault UInt16 := do
  let units ← heap.chars address
  let i ← elementIndex index units.size
  return units[i]

def intSlot (heap : Heap) (address : Nat) (index : Int32) : Except Fault Nat := do
  let values ← heap.ints address
  let i ← elementIndex index values.size
  return i.val

def charSlot (heap : Heap) (address : Nat) (index : Int32) : Except Fault Nat := do
  let units ← heap.chars address
  let i ← elementIndex index units.size
  return i.val

def display (heap : Heap) : Value → Except Fault String
  | .int value => return toString value.toInt
  | .boolean value => return Value.booleanText value
  | .char unit => return Utf16.unitText unit
  | .reference address tag => do
    match ← heap.get address with
    | .str text => return text
    | .chars units => return Utf16.decodeLossy units.toList
    | _ => throw (.typeMismatch "printable value" tag)

end Heap

end MiniJvm
