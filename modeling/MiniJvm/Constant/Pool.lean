import MiniJvm.Constant.Entry

/-!
The linked constant pool: every reference carries what it refers to. Linking checks that each index
hits an entry of the kind it needs, and the first entry that fails decides the fault. Forgetting what
linking added gives the stored entry back (`Constant.entry`).
-/

namespace MiniJvm

structure ClassRef where
  nameIndex : UInt16
  name : String
  deriving DecidableEq

structure NameAndType where
  nameIndex : UInt16
  descriptorIndex : UInt16
  name : String
  descriptor : String
  deriving DecidableEq

structure MemberRef where
  classIndex : UInt16
  nameAndTypeIndex : UInt16
  owner : ClassRef
  nameAndType : NameAndType
  deriving DecidableEq

namespace MemberRef

def className (member : MemberRef) : String := member.owner.name

def name (member : MemberRef) : String := member.nameAndType.name

def descriptor (member : MemberRef) : String := member.nameAndType.descriptor

end MemberRef

structure MethodHandle where
  referenceKind : UInt8
  referenceIndex : UInt16
  reference : MemberRef
  deriving DecidableEq

structure CallSite where
  bootstrapIndex : UInt16
  nameAndTypeIndex : UInt16
  nameAndType : NameAndType
  deriving DecidableEq

inductive Constant where
  | utf8 (text : String)
  | integer (value : Int32)
  | float (bits : UInt32)
  | long (value : Int64)
  | double (bits : UInt64)
  | classRef (ref : ClassRef)
  | string (textIndex : UInt16) (text : String)
  | fieldRef (member : MemberRef)
  | methodRef (member : MemberRef)
  | interfaceMethodRef (member : MemberRef)
  | nameAndType (pair : NameAndType)
  | methodHandle (handle : MethodHandle)
  | invokeDynamic (site : CallSite)
  | unusable
  deriving DecidableEq

namespace Constant

/-- The entry that the constant was linked from. -/
def entry : Constant → Entry
  | .utf8 text => .utf8 text
  | .integer value => .integer value
  | .float bits => .float bits
  | .long value => .long value
  | .double bits => .double bits
  | .classRef ref => .classRef ref.nameIndex
  | .string textIndex _ => .string textIndex
  | .fieldRef member => .fieldRef member.classIndex member.nameAndTypeIndex
  | .methodRef member => .methodRef member.classIndex member.nameAndTypeIndex
  | .interfaceMethodRef member => .interfaceMethodRef member.classIndex member.nameAndTypeIndex
  | .nameAndType pair => .nameAndType pair.nameIndex pair.descriptorIndex
  | .methodHandle handle => .methodHandle handle.referenceKind handle.referenceIndex
  | .invokeDynamic site => .invokeDynamic site.bootstrapIndex site.nameAndTypeIndex
  | .unusable => .unusable

def kind (constant : Constant) : ConstantKind :=
  constant.entry.kind

end Constant

/-- The slots of a pool before linking; slot `i` holds entry number `i + 1`. -/
abbrev Entries := Array Entry

namespace Entries

def get (entries : Entries) (index : UInt16) (wanted : Wanted) : Except Fault Entry :=
  if index = 0 then .error (.brokenReference index wanted .zero)
  else
    match entries[index.toNat - 1]? with
    | some entry => .ok entry
    | none => .error (.brokenReference index wanted .outOfRange)

def wrongKind {α : Type} (index : UInt16) (wanted : ConstantKind) (found : Entry) :
    Except Fault α :=
  .error (.brokenReference index (.entry wanted) (.entry found.kind))

def linkText (entries : Entries) (index : UInt16) : Except Fault String := do
  match ← entries.get index (.entry .utf8) with
  | .utf8 text => return text
  | other => wrongKind index .utf8 other

def linkClass (entries : Entries) (index : UInt16) : Except Fault ClassRef := do
  match ← entries.get index (.entry .classRef) with
  | .classRef nameIndex => return ⟨nameIndex, ← entries.linkText nameIndex⟩
  | other => wrongKind index .classRef other

def linkNames (entries : Entries) (nameIndex descriptorIndex : UInt16) :
    Except Fault NameAndType := do
  let name ← entries.linkText nameIndex
  let descriptor ← entries.linkText descriptorIndex
  return ⟨nameIndex, descriptorIndex, name, descriptor⟩

def linkNameAndType (entries : Entries) (index : UInt16) : Except Fault NameAndType := do
  match ← entries.get index (.entry .nameAndType) with
  | .nameAndType nameIndex descriptorIndex => entries.linkNames nameIndex descriptorIndex
  | other => wrongKind index .nameAndType other

def linkMember (entries : Entries) (classIndex nameAndTypeIndex : UInt16) :
    Except Fault MemberRef := do
  let owner ← entries.linkClass classIndex
  let nameAndType ← entries.linkNameAndType nameAndTypeIndex
  return ⟨classIndex, nameAndTypeIndex, owner, nameAndType⟩

/-- The field that a method handle of kind 1 to 4 refers to. -/
def linkFieldTarget (entries : Entries) (index : UInt16) : Except Fault MemberRef := do
  match ← entries.get index (.entry .fieldRef) with
  | .fieldRef owner member => entries.linkMember owner member
  | other => wrongKind index .fieldRef other

/-- The method that a method handle of kind 5 to 9 refers to. -/
def linkMethodTarget (entries : Entries) (index : UInt16) : Except Fault MemberRef := do
  match ← entries.get index (.entry .methodRef) with
  | .methodRef owner member => entries.linkMember owner member
  | .interfaceMethodRef owner member => entries.linkMember owner member
  | other => wrongKind index .methodRef other

def linkHandle (entries : Entries) (kind : UInt8) (index : UInt16) :
    Except Fault MethodHandle := do
  if 1 ≤ kind ∧ kind ≤ 4 then return ⟨kind, index, ← entries.linkFieldTarget index⟩
  else if 5 ≤ kind ∧ kind ≤ 9 then return ⟨kind, index, ← entries.linkMethodTarget index⟩
  else throw (.malformedClassFile (.handleKind kind))

def link (entries : Entries) : Entry → Except Fault Constant
  | .utf8 text => return .utf8 text
  | .integer value => return .integer value
  | .float bits => return .float bits
  | .long value => return .long value
  | .double bits => return .double bits
  | .classRef nameIndex => return .classRef ⟨nameIndex, ← entries.linkText nameIndex⟩
  | .string textIndex => return .string textIndex (← entries.linkText textIndex)
  | .fieldRef owner member => return .fieldRef (← entries.linkMember owner member)
  | .methodRef owner member => return .methodRef (← entries.linkMember owner member)
  | .interfaceMethodRef owner member =>
    return .interfaceMethodRef (← entries.linkMember owner member)
  | .nameAndType name descriptor => return .nameAndType (← entries.linkNames name descriptor)
  | .methodHandle kind index => return .methodHandle (← entries.linkHandle kind index)
  | .invokeDynamic bootstrap member =>
    return .invokeDynamic ⟨bootstrap, member, ← entries.linkNameAndType member⟩
  | .unusable => return .unusable

end Entries

/-- A linked pool; slot `i` holds constant number `i + 1`. -/
structure Pool where
  constants : Array Constant
  deriving DecidableEq

namespace Pool

def link (entries : List Entry) : Except Fault Pool := do
  let constants ← entries.mapM (Entries.link entries.toArray)
  return ⟨constants.toArray⟩

def size (pool : Pool) : Nat :=
  pool.constants.size

def entries (pool : Pool) : List Entry :=
  pool.constants.toList.map Constant.entry

def toList (pool : Pool) : List (Nat × Constant) :=
  pool.constants.toList.zipIdx.map fun (constant, i) => (i + 1, constant)

def entry (pool : Pool) (index : UInt16) : Except Fault Entry :=
  if index = 0 then .error (.brokenReference index .constant .zero)
  else
    match pool.constants[index.toNat - 1]? with
    | some constant => .ok constant.entry
    | none => .error (.brokenReference index .constant .outOfRange)

def get (pool : Pool) (index : UInt16) : Except Fault Constant :=
  if index = 0 then .error (.brokenReference index .constant .zero)
  else
    match pool.constants[index.toNat - 1]? with
    | some .unusable => .error (.brokenReference index .constant (.entry .unusable))
    | some constant => .ok constant
    | none => .error (.brokenReference index .constant .outOfRange)

def wrongKind {α : Type} (index : UInt16) (wanted : ConstantKind) (found : Constant) :
    Except Fault α :=
  .error (.brokenReference index (.entry wanted) (.entry found.kind))

def utf8 (pool : Pool) (index : UInt16) : Except Fault String := do
  match ← pool.get index with
  | .utf8 text => return text
  | other => wrongKind index .utf8 other

def classRef (pool : Pool) (index : UInt16) : Except Fault ClassRef := do
  match ← pool.get index with
  | .classRef ref => return ref
  | other => wrongKind index .classRef other

def className (pool : Pool) (index : UInt16) : Except Fault String := do
  return (← pool.classRef index).name

def fieldRef (pool : Pool) (index : UInt16) : Except Fault MemberRef := do
  match ← pool.get index with
  | .fieldRef member => return member
  | other => wrongKind index .fieldRef other

def methodRef (pool : Pool) (index : UInt16) : Except Fault MemberRef := do
  match ← pool.get index with
  | .methodRef member => return member
  | .interfaceMethodRef member => return member
  | other => wrongKind index .methodRef other

def methodHandle (pool : Pool) (index : UInt16) : Except Fault MethodHandle := do
  match ← pool.get index with
  | .methodHandle handle => return handle
  | other => wrongKind index .methodHandle other

def callSite (pool : Pool) (index : UInt16) : Except Fault CallSite := do
  match ← pool.get index with
  | .invokeDynamic site => return site
  | other => wrongKind index .invokeDynamic other

def checkLoadable (pool : Pool) (index : UInt16) : Except Fault Unit := do
  match ← pool.get index with
  | .utf8 _ => throw (.brokenReference index .loadable (.entry .utf8))
  | .nameAndType _ => throw (.brokenReference index .loadable (.entry .nameAndType))
  | _ => return

end Pool

end MiniJvm
