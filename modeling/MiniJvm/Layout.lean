/-!
Big-endian layout of fixed-width words, the inverse of what a cursor reads.
-/

namespace MiniJvm.Layout

def u1 (word : UInt8) : List UInt8 := [word]

def u2 (word : UInt16) : List UInt8 :=
  [UInt8.ofNat (word.toNat / 0x100), UInt8.ofNat word.toNat]

def u4 (word : UInt32) : List UInt8 :=
  [UInt8.ofNat (word.toNat / 0x1000000), UInt8.ofNat (word.toNat / 0x10000),
    UInt8.ofNat (word.toNat / 0x100), UInt8.ofNat word.toNat]

def u8 (word : UInt64) : List UInt8 :=
  u4 (UInt32.ofNat (word.toNat / 0x100000000)) ++ u4 (UInt32.ofNat word.toNat)

def counted {α : Type} (item : α → List UInt8) (items : List α) : List UInt8 :=
  u2 (UInt16.ofNat items.length) ++ items.flatMap item

end MiniJvm.Layout
