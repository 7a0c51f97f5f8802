import MiniJvm.ClassFile.Basic

/-!
The big-endian layout of a linked class file, written from its decoded parts. Reading the layout of a
class file gives the class file back.
-/

namespace MiniJvm

def RawAttribute.layout (nameIndex : UInt16) (payload : List UInt8) : List UInt8 :=
  Layout.u2 nameIndex ++ Layout.u4 (UInt32.ofNat payload.length) ++ payload

mutual

/-- The payload of an attribute, written back from its decoded form. -/
def Attribute.payload : Attribute → List UInt8
  | .code _ maxStack maxLocals bytes handlers attributes =>
    Layout.u2 maxStack ++ Layout.u2 maxLocals ++ Layout.u4 (UInt32.ofNat bytes.size) ++
      bytes.toList ++ Layout.counted Handler.layout handlers ++
      Layout.u2 (UInt16.ofNat attributes.length) ++ Attribute.layouts attributes
  | .lineNumbers _ lines => Layout.counted LineNumber.layout lines
  | .sourceFile _ textIndex _ => Layout.u2 textIndex
  | .bootstrapMethods _ methods => Layout.counted BootstrapMethod.layout methods
  | .other _ _ payload => payload.toList

def Attribute.layouts : List Attribute → List UInt8
  | [] => []
  | first :: others =>
    RawAttribute.layout first.nameIndex first.payload ++ Attribute.layouts others

end

def Attribute.layoutAll (attributes : List Attribute) : List UInt8 :=
  Layout.u2 (UInt16.ofNat attributes.length) ++ Attribute.layouts attributes

def Member.layout (member : Member) : List UInt8 :=
  Layout.u2 member.flags ++ Layout.u2 member.nameIndex ++ Layout.u2 member.descriptorIndex ++
    Attribute.layoutAll member.attributes

def ClassFile.layout (classFile : ClassFile) : List UInt8 :=
  Layout.u4 ClassFile.magic ++ Layout.u2 classFile.minorVersion ++
    Layout.u2 classFile.majorVersion ++ Entry.encodePool classFile.pool.entries ++
    Layout.u2 classFile.flags ++ Layout.u2 classFile.thisClass ++ Layout.u2 classFile.superClass ++
    Layout.u2 0 ++ Layout.counted Member.layout classFile.fields ++
    Layout.counted Member.layout classFile.methods ++ Attribute.layoutAll classFile.attributes

end MiniJvm
