import MiniJvm.Text.Utf16

/-!
Modified UTF-8, the text encoding of class files. Each UTF-16 unit takes the fewest of one, two or
three bytes that hold it, except that the zero unit takes two, so no byte of a text is zero. Halves of
a pair are written as units of their own.
-/

namespace MiniJvm.ModifiedUtf8

def ofUnit (unit : UInt16) : List UInt8 :=
  let n := unit.toNat
  if n = 0 then [0xc0, 0x80]
  else if n < 0x80 then [UInt8.ofNat n]
  else if n < 0x800 then [UInt8.ofNat (0xc0 + n / 0x40), UInt8.ofNat (0x80 + n % 0x40)]
  else
    [UInt8.ofNat (0xe0 + n / 0x1000), UInt8.ofNat (0x80 + n / 0x40 % 0x40),
      UInt8.ofNat (0x80 + n % 0x40)]

def continuation? (byte : UInt8) : Option Nat :=
  if 0x80 ≤ byte.toNat ∧ byte.toNat < 0xc0 then some (byte.toNat - 0x80) else none

/-- The unit of a two-byte sequence; only zero may be written longer than needed. -/
def ofTwo? (lead next : UInt8) : Option UInt16 := do
  let low ← continuation? next
  let n := (lead.toNat - 0xc0) * 0x40 + low
  if n = 0 ∨ 0x80 ≤ n then some (UInt16.ofNat n) else none

def ofThree? (lead next last : UInt8) : Option UInt16 := do
  let middle ← continuation? next
  let low ← continuation? last
  let n := (lead.toNat - 0xe0) * 0x1000 + middle * 0x40 + low
  if 0x800 ≤ n then some (UInt16.ofNat n) else none

def units? : List UInt8 → Option (List UInt16)
  | [] => some []
  | lead :: rest =>
    if 0 < lead.toNat ∧ lead.toNat < 0x80 then
      (UInt16.ofNat lead.toNat :: ·) <$> units? rest
    else if 0xc0 ≤ lead.toNat ∧ lead.toNat < 0xe0 then
      match rest with
      | next :: rest => do
        let unit ← ofTwo? lead next
        (unit :: ·) <$> units? rest
      | [] => none
    else if 0xe0 ≤ lead.toNat ∧ lead.toNat < 0xf0 then
      match rest with
      | next :: last :: rest => do
        let unit ← ofThree? lead next last
        (unit :: ·) <$> units? rest
      | _ => none
    else none

/-- The text of a byte sequence, none unless it is the encoding of one. -/
def decode? (bytes : List UInt8) : Option String := do
  let units ← units? bytes
  String.ofList <$> Utf16.decode? units

def encode (text : String) : List UInt8 :=
  (Utf16.encode text.toList).flatMap ofUnit

end MiniJvm.ModifiedUtf8
