import MiniJvm.Fault

/-!
String concatenation by recipe. In a recipe, character 1 takes the next operand and character 2 the
next constant; every other character stands for itself. Substituted text is not looked at again.
-/

namespace MiniJvm.Concat

def operandMark : Char := Char.ofNat 1

def constantMark : Char := Char.ofNat 2

/-- The pieces that a recipe stands for. `recipe` is the whole recipe, for the message. -/
def pieces (recipe : String) :
    List Char → (operands constants : List String) → Except Fault (List String)
  | [], [], _ => .ok []
  | [], _ :: _, _ => .error (.unsupportedCallSite (.unusedOperands recipe))
  | c :: rest, operands, constants =>
    if c = operandMark then
      match operands with
      | operand :: operands => (operand :: ·) <$> pieces recipe rest operands constants
      | [] => .error (.unsupportedCallSite (.missingOperands recipe))
    else if c = constantMark then
      match constants with
      | constant :: constants => (constant :: ·) <$> pieces recipe rest operands constants
      | [] => .error (.unsupportedCallSite (.missingConstants recipe))
    else (String.singleton c :: ·) <$> pieces recipe rest operands constants

/-- Fills a recipe. Every operand has to be used; constants may be left over. -/
def fill (recipe : String) (operands constants : List String) : Except Fault String :=
  String.join <$> pieces recipe recipe.toList operands constants

end MiniJvm.Concat
