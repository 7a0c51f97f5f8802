import MiniJvm.Machine.Activation
import MiniJvm.Machine.Platform

/-!
Calls. Arguments are popped from the last to the first and handed over in declaration order. There is
no inheritance: the class that a call names is the class whose method runs.
-/

namespace MiniJvm

namespace Exec

/-- Constructors are not run. -/
def constructorName : String := "<init>"

def resolveMethod (index : UInt16) : Exec (MemberRef × MethodType) := do
  let method ← pooled (·.methodRef index)
  let type ← check (MethodType.parse method.descriptor)
  return (method, type)

/-- Pops one argument as its parameter type demands. Chars are taken by built-in methods only. -/
def popArgument (native : Bool) (parameter : FieldType) : Frame.Action Value :=
  match parameter with
  | .int => return .int (← Frame.popInt)
  | .boolean => return .boolean ((← Frame.popInt) != 0)
  | .char =>
    if native then return .char (← Frame.popInt).toUInt32.toUInt16
    else throw (.unsupportedDescriptor parameter.tag)
  | .array .char =>
    return .reference (← Frame.popReference Value.charArrayTag) Value.charArrayTag
  | other =>
    if other.isString then
      return .reference (← Frame.popReference Value.stringTag) Value.stringTag
    else throw (.unsupportedDescriptor other.tag)

/-- Does an action for each parameter, from the last to the first, and gives the results in declaration
order. -/
def fromLast {α : Type} (action : FieldType → Exec α) : List FieldType → Exec (List α)
  | [] => pure []
  | parameter :: others => do
    let results ← fromLast action others
    let result ← action parameter
    return result :: results

def popArguments (method : MemberRef) (type : MethodType) : Exec (List Value) :=
  fromLast (fun parameter => onFrame (popArgument (Platform.isPlatform method.className) parameter))
    type.parameters

def callNative (method : MemberRef) (arguments : List Value) : Exec Control := do
  match Platform.native? method.className method.name with
  | none =>
    throw (.unsupportedPlatformMember method.className (method.name ++ method.descriptor))
  | some native =>
    onShared (Shared.report (.nativeCalled method.className method.name arguments))
    onShared (Platform.run native arguments)
    return .proceed

def dispatch (method : MemberRef) (arguments : List Value) : Exec Control := do
  if Platform.isPlatform method.className then callNative method arguments
  else
    let classFile ← onShared (Shared.load method.className)
    match classFile.findMethod? method.name method.descriptor with
    | some methodIndex => return .call classFile methodIndex arguments
    | none => throw (.methodNotFound method.className method.name method.descriptor)

def invokestatic (index : UInt16) : Exec Control := do
  let (method, type) ← resolveMethod index
  let arguments ← popArguments method type
  dispatch method arguments

/-- Calls a method on a receiver, which has to be of exactly the class that the call names. -/
def invokeOnReceiver (method : MemberRef) (type : MethodType) : Exec Control := do
  let arguments ← popArguments method type
  let (receiver, tag) ← popAny
  let expected := FieldType.objectTag method.className
  if !Platform.isPlatform method.className && tag != expected then
    throw (.typeMismatch expected tag)
  dispatch method (.reference receiver tag :: arguments)

def invokevirtual (index : UInt16) : Exec Control := do
  let (method, type) ← resolveMethod index
  invokeOnReceiver method type

/-- Pops what a constructor takes and runs nothing. -/
def skipConstructor (method : MemberRef) (type : MethodType) : Exec Control := do
  let arguments ← popArguments method type
  let (receiver, _) ← popAny
  onShared (Shared.report (.constructorSkipped method.className arguments receiver))
  return .proceed

def invokespecial (index : UInt16) : Exec Control := do
  let (method, type) ← resolveMethod index
  if method.name = constructorName then skipConstructor method type
  else invokeOnReceiver method type

end Exec

end MiniJvm
