/-!
The kinds of constant-pool entries and the names messages give them.
-/

namespace MiniJvm

/-- What a slot of the constant pool holds. `unusable` is the second slot of a long or double. -/
inductive ConstantKind where
  | utf8 | integer | float | long | double
  | classRef | string
  | fieldRef | methodRef | interfaceMethodRef | nameAndType
  | methodHandle | invokeDynamic
  | unusable
  deriving DecidableEq

def ConstantKind.label : ConstantKind → String
  | .utf8 => "Utf8"
  | .integer => "Integer"
  | .float => "Float"
  | .long => "Long"
  | .double => "Double"
  | .classRef => "Class"
  | .string => "String"
  | .fieldRef => "Fieldref"
  | .methodRef => "Methodref"
  | .interfaceMethodRef => "InterfaceMethodref"
  | .nameAndType => "NameAndType"
  | .methodHandle => "MethodHandle"
  | .invokeDynamic => "InvokeDynamic"
  | .unusable => "unusable slot"

end MiniJvm
