/-!
Hexadecimal text of natural numbers.
-/

namespace MiniJvm.Hex

/-- The low `width` hexadecimal digits of `n`, most significant first. -/
def digits (width n : Nat) : List Char :=
  (List.range width).reverse.map fun i => Nat.digitChar (n / Nat.pow 16 i % 16)

def lower (width n : Nat) : String :=
  String.ofList (digits width n)

def upper (width n : Nat) : String :=
  String.ofList ((digits width n).map Char.toUpper)

def short (n : Nat) : String :=
  String.ofList (Nat.toDigits 16 n)

end MiniJvm.Hex
