import MiniJvm.Concat
import MiniJvm.Machine.Invoke

/-!
Dynamic calls. The one kind that is known is string concatenation by recipe, which runs at once and
pushes a new string. The texts of the operands depend on their declared types.
-/

namespace MiniJvm

namespace Exec

/-- The name of the one dynamic call that is known, and of the method that sets it up. -/
def concatName : String := "makeConcatWithConstants"

def recipeText (pool : Pool) (index : UInt16) : Except Fault String := do
  match ← pool.get index with
  | .string _ text => return text
  | other => throw (.unsupportedCallSite (.recipeKind index other.kind))

def constantText (pool : Pool) (index : UInt16) : Except Fault String := do
  match ← pool.get index with
  | .string _ text => return text
  | .integer value => return toString value.toInt
  | other => throw (.unsupportedCallSite (.constantKind index other.kind))

structure ConcatSite where
  recipe : String
  constants : List String
  parameters : List FieldType

/-- The bootstrap method of a call site, which has to be the one for concatenation. -/
def concatBootstrap (classFile : ClassFile) (site : CallSite) : Except Fault BootstrapMethod := do
  if site.nameAndType.name ≠ concatName then
    throw (.unsupportedCallSite (.callee site.nameAndType.name))
  let methods := classFile.bootstrapMethods?.getD []
  match methods[site.bootstrapIndex.toNat]? with
  | none => throw (.malformedClassFile (.noBootstrapMethod classFile.name site.bootstrapIndex))
  | some bootstrap =>
    let handle ← classFile.pool.methodHandle bootstrap.handleIndex
    if handle.reference.name ≠ concatName then
      throw (.unsupportedCallSite (.bootstrap handle.reference.className handle.reference.name))
    return bootstrap

def recipeParts (pool : Pool) (arguments : List UInt16) :
    Except Fault (String × List String) := do
  match arguments with
  | [] => throw (.unsupportedCallSite (.noRecipe concatName))
  | recipeIndex :: others =>
    let recipe ← recipeText pool recipeIndex
    let constants ← others.mapM (constantText pool)
    return (recipe, constants)

/-- The types of the operands; the result has to be a string. -/
def concatParameters (site : CallSite) : Except Fault (List FieldType) := do
  let type ← MethodType.parse site.nameAndType.descriptor
  match type.returns with
  | some returned =>
    if returned.isString then return type.parameters
    else throw (.unsupportedCallSite (.returnType concatName site.nameAndType.descriptor))
  | none => throw (.unsupportedCallSite (.returnType concatName site.nameAndType.descriptor))

def concatSite (classFile : ClassFile) (index : UInt16) : Except Fault ConcatSite := do
  let site ← classFile.pool.callSite index
  let bootstrap ← concatBootstrap classFile site
  let (recipe, constants) ← recipeParts classFile.pool bootstrap.arguments
  let parameters ← concatParameters site
  return ⟨recipe, constants, parameters⟩

def popOperand (parameter : FieldType) : Exec String :=
  match parameter with
  | .int => return toString (← popInt).toInt
  | .char => return Utf16.unitText (← popInt).toUInt32.toUInt16
  | .boolean => return Value.booleanText ((← popInt) != 0)
  | other =>
    if other.isString then do
      let address ← popReference Value.stringTag
      onShared (Shared.asking (·.string address))
    else throw (.unsupportedDescriptor other.tag)

def invokedynamic (index padding : UInt16) : Exec Control := do
  if padding ≠ 0 then throw (.dynamicPadding index padding)
  let site ← ofFrame fun frame => concatSite frame.classFile index
  let operands ← fromLast popOperand site.parameters
  let text ← check (Concat.fill site.recipe operands site.constants)
  onShared (Shared.report (.concatenated site.recipe operands text))
  let address ← onShared (Shared.allocate (.str text))
  push (.reference address Value.stringTag)
  return .proceed

end Exec

end MiniJvm
