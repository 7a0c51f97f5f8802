import MiniJvm.ClassFile.Attribute
import MiniJvm.Descriptor

/-!
Class files. A file is first read as it is laid out, to its last byte, and then linked: names,
descriptors and attributes are looked up in the constant pool. A fault of layout therefore comes before
any fault of linking.
-/

namespace MiniJvm

namespace Access

/-- The flag bits that have a meaning; the others are dropped. -/
def known : UInt16 := 0x7fff

def isPublic : UInt16 := 0x0001

def isStatic : UInt16 := 0x0008

def ofWord (word : UInt16) : UInt16 := word &&& known

end Access

structure RawMember where
  flags : UInt16
  nameIndex : UInt16
  descriptorIndex : UInt16
  attributes : List RawAttribute

structure Member where
  flags : UInt16
  nameIndex : UInt16
  descriptorIndex : UInt16
  name : String
  descriptor : String
  attributes : List Attribute

namespace RawMember

def read : Decode RawMember := do
  let flags ← Cursor.u2
  let nameIndex ← Cursor.u2
  let descriptorIndex ← Cursor.u2
  let attributes ← RawAttribute.readAll
  return ⟨flags, nameIndex, descriptorIndex, attributes⟩

def link (pool : Pool) (raw : RawMember) : Except Fault Member := do
  let name ← pool.utf8 raw.nameIndex
  let descriptor ← pool.utf8 raw.descriptorIndex
  let attributes ← raw.attributes.mapM (Attribute.link pool)
  return ⟨Access.ofWord raw.flags, raw.nameIndex, raw.descriptorIndex, name, descriptor, attributes⟩

end RawMember

namespace Member

def isStatic (member : Member) : Bool :=
  member.flags &&& Access.isStatic == Access.isStatic

def fieldType (member : Member) : Except Fault FieldType :=
  FieldType.parse member.descriptor

def code? (member : Member) : Option Code :=
  member.attributes.findSome? Attribute.code?

def lines? (member : Member) : Option (List LineNumber) := do
  let code ← member.code?
  code.lines?

end Member

structure RawClass where
  minorVersion : UInt16
  majorVersion : UInt16
  entries : List Entry
  flags : UInt16
  thisClass : UInt16
  superClass : UInt16
  fields : List RawMember
  methods : List RawMember
  attributes : List RawAttribute

/-- A linked class file. Interfaces are not supported, so there are none. -/
structure ClassFile where
  minorVersion : UInt16
  majorVersion : UInt16
  pool : Pool
  flags : UInt16
  thisClass : UInt16
  superClass : UInt16
  fields : List Member
  methods : List Member
  attributes : List Attribute
  name : String

namespace ClassFile

def magic : UInt32 := 0xcafebabe

def maxMajorVersion : UInt16 := 52

end ClassFile

namespace RawClass

def readVersion : Decode (UInt16 × UInt16) := do
  let word ← Cursor.u4
  if word ≠ ClassFile.magic then throw (.malformedClassFile (.badMagic word))
  let minor ← Cursor.u2
  let major ← Cursor.u2
  if ClassFile.maxMajorVersion < major then
    throw (.malformedClassFile (.unsupportedVersion major minor))
  return (minor, major)

def readInterfaces : Decode Unit := do
  let count ← Cursor.u2
  if count ≠ 0 then throw (.malformedClassFile (.interfacesDeclared count))

def read : Decode RawClass := do
  let (minor, major) ← readVersion
  let entries ← Entry.readPool
  let flags ← Cursor.u2
  let thisClass ← Cursor.u2
  let superClass ← Cursor.u2
  readInterfaces
  let fields ← Cursor.counted RawMember.read
  let methods ← Cursor.counted RawMember.read
  let attributes ← RawAttribute.readAll
  return ⟨minor, major, entries, flags, thisClass, superClass, fields, methods, attributes⟩

/-- The superclass, if there is one, has to be a class. -/
def checkSuper (pool : Pool) (index : UInt16) : Except Fault Unit := do
  if index ≠ 0 then
    let _ ← pool.classRef index

def link (raw : RawClass) : Except Fault ClassFile := do
  let pool ← Pool.link raw.entries
  let name ← pool.className raw.thisClass
  checkSuper pool raw.superClass
  let fields ← raw.fields.mapM (RawMember.link pool)
  let methods ← raw.methods.mapM (RawMember.link pool)
  let attributes ← raw.attributes.mapM (Attribute.link pool)
  return ⟨raw.minorVersion, raw.majorVersion, pool, Access.ofWord raw.flags, raw.thisClass,
    raw.superClass, fields, methods, attributes, name⟩

end RawClass

namespace ClassFile

/-- Reads a class file, which has to fill the buffer. -/
def parse (bytes : Array UInt8) : Except Fault ClassFile :=
  match RawClass.read (Cursor.ofBytes bytes) with
  | .error fault _ => .error fault
  | .ok raw c =>
    if c.remaining = 0 then raw.link
    else .error (.malformedClassFile (.trailingBytes c.remaining))

def superName? (classFile : ClassFile) : Option String :=
  if classFile.superClass = 0 then none
  else (classFile.pool.className classFile.superClass).toOption

def findMethod? (classFile : ClassFile) (name descriptor : String) : Option Nat :=
  classFile.methods.findIdx? fun method => method.name == name && method.descriptor == descriptor

def findField? (classFile : ClassFile) (name : String) : Option Member :=
  classFile.fields.find? (·.name == name)

def bootstrapMethods? (classFile : ClassFile) : Option (List BootstrapMethod) :=
  classFile.attributes.findSome? Attribute.bootstrapMethods?

def sourceFile? (classFile : ClassFile) : Option String :=
  classFile.attributes.findSome? Attribute.sourceFile?

end ClassFile

end MiniJvm
