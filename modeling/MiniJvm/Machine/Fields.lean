import MiniJvm.Machine.Preparation

/-!
Field access and object creation. A value that goes into a field or comes out of it has to fit the type
that the reference to the field states.
-/

namespace MiniJvm

namespace Exec

def resolveField (index : UInt16) : Exec (MemberRef × FieldType) := do
  let field ← pooled (·.fieldRef index)
  let type ← check (FieldType.parse field.descriptor)
  return (field, type)

def checkField (field : MemberRef) (type : FieldType) (value : Value) : Exec Unit :=
  if value.conformsTo type then pure ()
  else throw (.fieldTypeMismatch field.className field.name type.tag value.tag)

def missingField (field : MemberRef) : Fault :=
  if Platform.isPlatform field.className then
    .unsupportedPlatformMember field.className field.name
  else .fieldNotFound field.className field.name

def fetchField (field : MemberRef) (type : FieldType) (address : Nat) : Exec Unit := do
  match ← onShared (Shared.asking (·.getField address field.name)) with
  | some value =>
    checkField field type value
    push value
  | none => throw (missingField field)

def getstatic (index : UInt16) : Exec Control := do
  let (field, type) ← resolveField index
  match ← prepare field.className with
  | .pending call => return call
  | .ready address =>
    fetchField field type address
    return .proceed

def putstatic (index : UInt16) : Exec Control := do
  let (field, type) ← resolveField index
  match ← prepare field.className with
  | .pending call => return call
  | .ready address =>
    let value ← onFrame Frame.pop
    checkField field type value
    onShared (Shared.setField address field.name value)
    return .proceed

def getfield (index : UInt16) : Exec Control := do
  let (field, type) ← resolveField index
  let address ← popReference (FieldType.objectTag field.className)
  fetchField field type address
  return .proceed

def putfield (index : UInt16) : Exec Control := do
  let (field, type) ← resolveField index
  let value ← onFrame Frame.pop
  let address ← popReference (FieldType.objectTag field.className)
  checkField field type value
  onShared (Shared.setField address field.name value)
  return .proceed

def makeInstance (className : String) (fields : Fields) : Exec Unit := do
  let address ← onShared (Shared.allocate (.instanceOf className fields))
  onShared (Shared.report (.allocated className address))
  push (.reference address (FieldType.objectTag className))

/-- Makes an object. Objects of platform classes have no fields and need no preparation. -/
def new (index : UInt16) : Exec Control := do
  let className ← pooled (·.className index)
  if Platform.isPlatform className then
    makeInstance className []
    return .proceed
  else
    match ← prepare className with
    | .pending call => return call
    | .ready _ =>
      let classFile ← onShared (Shared.load className)
      let fields ← check (defaultFields false classFile.fields)
      makeInstance className fields
      return .proceed

end Exec

end MiniJvm
