import MiniJvm.Layout
import MiniJvm.Cursor
import MiniJvm.Text.ModifiedUtf8

/-!
Constant-pool entries as a class file stores them: references to other entries are plain indices.
Entries are numbered from one, and a long or double takes two slots, the second of which is unusable.
-/

namespace MiniJvm

/-- An entry as stored. Floating-point constants are kept as bit patterns. -/
inductive Entry where
  | utf8 (text : String)
  | integer (value : Int32)
  | float (bits : UInt32)
  | long (value : Int64)
  | double (bits : UInt64)
  | classRef (nameIndex : UInt16)
  | string (textIndex : UInt16)
  | fieldRef (classIndex nameAndTypeIndex : UInt16)
  | methodRef (classIndex nameAndTypeIndex : UInt16)
  | interfaceMethodRef (classIndex nameAndTypeIndex : UInt16)
  | nameAndType (nameIndex descriptorIndex : UInt16)
  | methodHandle (referenceKind : UInt8) (referenceIndex : UInt16)
  | invokeDynamic (bootstrapIndex nameAndTypeIndex : UInt16)
  | unusable
  deriving DecidableEq

namespace Entry

def kind : Entry → ConstantKind
  | .utf8 .. => .utf8
  | .integer .. => .integer
  | .float .. => .float
  | .long .. => .long
  | .double .. => .double
  | .classRef .. => .classRef
  | .string .. => .string
  | .fieldRef .. => .fieldRef
  | .methodRef .. => .methodRef
  | .interfaceMethodRef .. => .interfaceMethodRef
  | .nameAndType .. => .nameAndType
  | .methodHandle .. => .methodHandle
  | .invokeDynamic .. => .invokeDynamic
  | .unusable => .unusable

/-- Longs and doubles take two slots. -/
def isWide : Entry → Bool
  | .long .. | .double .. => true
  | _ => false

def word64 : Decode UInt64 := do
  let high ← Cursor.u4
  let low ← Cursor.u4
  return UInt64.ofNat (high.toNat * 0x100000000 + low.toNat)

def readText (index : UInt16) : Decode String := do
  let length ← Cursor.u2
  let bytes ← Cursor.take length.toNat
  match ModifiedUtf8.decode? bytes.toList with
  | some text => return text
  | none => throw (.malformedClassFile (.invalidText index))

def readPair (make : UInt16 → UInt16 → Entry) : Decode Entry := do
  let first ← Cursor.u2
  let second ← Cursor.u2
  return make first second

def read (index : UInt16) : Decode Entry := do
  let tag ← Cursor.u1
  if tag = 1 then return .utf8 (← readText index)
  else if tag = 3 then return .integer (← Cursor.u4).toInt32
  else if tag = 4 then return .float (← Cursor.u4)
  else if tag = 5 then return .long (← word64).toInt64
  else if tag = 6 then return .double (← word64)
  else if tag = 7 then return .classRef (← Cursor.u2)
  else if tag = 8 then return .string (← Cursor.u2)
  else if tag = 9 then readPair .fieldRef
  else if tag = 10 then readPair .methodRef
  else if tag = 11 then readPair .interfaceMethodRef
  else if tag = 12 then readPair .nameAndType
  else if tag = 15 then
    let referenceKind ← Cursor.u1
    let referenceIndex ← Cursor.u2
    return .methodHandle referenceKind referenceIndex
  else if tag = 18 then readPair .invokeDynamic
  else throw (.unsupportedConstantTag tag index)

/-- Fills `slots` slots from number `index` on; `count` is the declared count, for the message. -/
def readSlots (count : UInt16) : (slots : Nat) → (index : UInt16) → Decode (List Entry)
  | 0, _ => pure []
  | slots + 1, index => do
    let entry ← read index
    if entry.isWide then
      match slots with
      | 0 => throw (.malformedClassFile (.splitTwoSlot count))
      | slots + 1 =>
        let others ← readSlots count slots (index + 2)
        return entry :: .unusable :: others
    else
      let others ← readSlots count slots (index + 1)
      return entry :: others

/-- The pool of a class file: a count, which is one more than the number of slots, and the slots. -/
def readPool : Decode (List Entry) := do
  let count ← Cursor.u2
  readSlots count (count.toNat - 1) 1

def slotsRead : (slots : Nat) → (index : UInt16) → Cursor → List (UInt16 × Entry)
  | 0, _, _ => []
  | slots + 1, index, c =>
    match read index c with
    | .error _ _ => []
    | .ok entry c =>
      (index, entry) ::
        (if entry.isWide then
          match slots with
          | 0 => []
          | slots + 1 => slotsRead slots (index + 2) c
        else slotsRead slots (index + 1) c)

/-- The numbered entries read from a pool, also when the pool as a whole is refused. -/
def poolRead (c : Cursor) : List (UInt16 × Entry) :=
  match Cursor.u2 c with
  | .error _ _ => []
  | .ok count c => slotsRead (count.toNat - 1) 1 c

def encode : Entry → List UInt8
  | .utf8 text =>
    let bytes := ModifiedUtf8.encode text
    1 :: Layout.u2 (UInt16.ofNat bytes.length) ++ bytes
  | .integer value => 3 :: Layout.u4 value.toUInt32
  | .float bits => 4 :: Layout.u4 bits
  | .long value => 5 :: Layout.u8 value.toUInt64
  | .double bits => 6 :: Layout.u8 bits
  | .classRef name => 7 :: Layout.u2 name
  | .string text => 8 :: Layout.u2 text
  | .fieldRef owner member => 9 :: Layout.u2 owner ++ Layout.u2 member
  | .methodRef owner member => 10 :: Layout.u2 owner ++ Layout.u2 member
  | .interfaceMethodRef owner member => 11 :: Layout.u2 owner ++ Layout.u2 member
  | .nameAndType name descriptor => 12 :: Layout.u2 name ++ Layout.u2 descriptor
  | .methodHandle kind index => 15 :: Layout.u1 kind ++ Layout.u2 index
  | .invokeDynamic bootstrap member => 18 :: Layout.u2 bootstrap ++ Layout.u2 member
  | .unusable => []

def encodePool (entries : List Entry) : List UInt8 :=
  Layout.u2 (UInt16.ofNat (entries.length + 1)) ++ entries.flatMap encode

end Entry

end MiniJvm
