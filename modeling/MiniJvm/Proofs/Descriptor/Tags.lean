import MiniJvm.Heap

/-!
Tags tell types apart. A tag is read back from its front: a letter of its own is a primitive type, all that
follows an `L` is the name of a class, and a bracket stands before the tag of the elements. So a tag needs no
mark at its end, whatever characters a class is named by, and to compare tags is to compare types.
-/

namespace MiniJvm

namespace FieldType

variable {left right type : FieldType} {className other : String}

def ofTag? : List Char → Option FieldType
  | ['B'] => some .byte
  | ['C'] => some .char
  | ['D'] => some .double
  | ['F'] => some .float
  | ['I'] => some .int
  | ['J'] => some .long
  | ['S'] => some .short
  | ['Z'] => some .boolean
  | 'L' :: name => some (.object (String.ofList name))
  | '[' :: element => (ofTag? element).map .array
  | _ => none

theorem ofTag?_tag (type : FieldType) : ofTag? type.tag.toList = some type := by
  induction type with
  | object name => simp [tag, objectTag, ofTag?]
  | array element ih => simp [tag, ofTag?, ih]
  | _ => rfl

theorem tag_inj : left.tag = right.tag ↔ left = right := by
  constructor
  · intro same
    have readLeft := ofTag?_tag left
    rw [same, ofTag?_tag right] at readLeft
    exact (Option.some.inj readLeft).symm
  · exact congrArg tag

/-- The tag that is made from the name of a class is that of the object type of this name only. -/
theorem objectTag_eq_tag : objectTag className = type.tag ↔ type = .object className := by
  have made : objectTag className = tag (.object className) := rfl
  rw [made, tag_inj, eq_comm]

theorem objectTag_inj (same : objectTag className = objectTag other) : className = other :=
  (object.inj (objectTag_eq_tag.1 same)).symm

theorem isString_iff : type.isString = true ↔ type = .object stringClass := by
  cases type with
  | object name => simp [isString]
  | _ => simp [isString]

theorem tag_eq_stringTag : type.tag = Value.stringTag ↔ type.isString = true := by
  rw [eq_comm, isString_iff, Value.stringTag_eq]
  exact objectTag_eq_tag

end FieldType

theorem Value.conformsTo_reference {address : Nat} {tag : String} {type : FieldType} :
    (Value.reference address tag).conformsTo type = true ↔ tag = type.tag :=
  beq_iff_eq

namespace HeapObject

def type : HeapObject → FieldType
  | .ints _ => .array .int
  | .chars _ => .array .char
  | .str _ => .object FieldType.stringClass
  | .instanceOf className _ => .object className

theorem kind_eq_tag (object : HeapObject) : object.kind = object.type.tag := by
  cases object with
  | ints values => exact Value.intArrayTag_eq
  | chars units => exact Value.charArrayTag_eq
  | str text => exact Value.stringTag_eq
  | instanceOf className fields => rfl

/-- The kind of an object is the tag of its type and of no other type. -/
theorem kind_eq_tag_iff {object : HeapObject} {type : FieldType} :
    object.kind = type.tag ↔ object.type = type := by
  rw [kind_eq_tag, FieldType.tag_inj]

end HeapObject

end MiniJvm
