/-!
UTF-16: characters as sequences of 16-bit units. A character beyond the basic plane is a high unit
followed by a low one; such a unit without its partner stands for no character.
-/

namespace MiniJvm.Utf16

def isHigh (unit : UInt16) : Bool :=
  0xd800 ≤ unit.toNat && unit.toNat < 0xdc00

def isLow (unit : UInt16) : Bool :=
  0xdc00 ≤ unit.toNat && unit.toNat < 0xe000

def single (unit : UInt16) : Option Char :=
  if isHigh unit || isLow unit then none else some (Char.ofNat unit.toNat)

def joined (high low : UInt16) : Char :=
  Char.ofNat (0x10000 + (high.toNat - 0xd800) * 0x400 + (low.toNat - 0xdc00))

/-- Reads units from left to right; an unpaired half leaves a gap. -/
def scan : List UInt16 → List (Option Char)
  | [] => []
  | [unit] => [single unit]
  | first :: second :: rest =>
    if isHigh first && isLow second then some (joined first second) :: scan rest
    else single first :: scan (second :: rest)

def decode? (units : List UInt16) : Option (List Char) :=
  (scan units).mapM id

/-- Total reading: a gap becomes the replacement character. -/
def decodeLossy (units : List UInt16) : String :=
  String.ofList ((scan units).map (·.getD (Char.ofNat 0xfffd)))

def unitText (unit : UInt16) : String :=
  decodeLossy [unit]

def ofChar (c : Char) : List UInt16 :=
  if c.toNat < 0x10000 then [UInt16.ofNat c.toNat]
  else
    [UInt16.ofNat (0xd800 + (c.toNat - 0x10000) / 0x400),
      UInt16.ofNat (0xdc00 + (c.toNat - 0x10000) % 0x400)]

def encode (text : List Char) : List UInt16 :=
  text.flatMap ofChar

end MiniJvm.Utf16
