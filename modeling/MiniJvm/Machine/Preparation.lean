import MiniJvm.Machine.Activation
import MiniJvm.Machine.Platform

/-!
The preparation of classes. A class is prepared when a static field of it is used or an object of it is
made for the first time: its static instance is made and registered, and its static initializer, if
there is one, is called. The instruction that asked is started over when the initializer has returned.
-/

namespace MiniJvm

namespace Exec

def initializerName : String := "<clinit>"

def initializerDescriptor : String := "()V"

/-- The defaults of the primitive fields that are static, or of those that are not. -/
def defaultFields (static : Bool) (fields : List Member) : Except Fault Fields :=
  (fields.filter (·.isStatic == static)).foldlM
    (fun values field => do
      match Value.default? (← field.fieldType) with
      | some value => return Fields.set values field.name value
      | none => return values)
    []

/-- Where the static fields of a class are, or the call that has to come first. -/
inductive Preparation where
  | ready (address : Nat)
  | pending (call : Control)

def makeStatics (className : String) (fields : Fields) : Exec Nat := do
  let address ← onShared (Shared.allocate (.instanceOf className fields))
  onShared (Shared.register className address)
  return address

def prepareFirst (className : String) : Exec Preparation := do
  if Platform.isPlatform className then
    let fields ← onShared (Platform.statics className)
    return .ready (← makeStatics className fields)
  else
    let classFile ← onShared (Shared.load className)
    let fields ← check (defaultFields true classFile.fields)
    let address ← makeStatics className fields
    onShared (Shared.report (.classReady className))
    match classFile.findMethod? initializerName initializerDescriptor with
    | some methodIndex =>
      onFrame Frame.restart
      return .pending (.call classFile methodIndex [])
    | none => return .ready address

def prepare (className : String) : Exec Preparation := fun activation =>
  match activation.shared.statics? className with
  | some address => .ok (.ready address) activation
  | none => prepareFirst className activation

end Exec

end MiniJvm
