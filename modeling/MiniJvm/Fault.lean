import MiniJvm.Text.Quoted
import MiniJvm.Constant.Kind

/-!
Everything that can go wrong, as causes. The wording is in the `message` functions only.
-/

namespace MiniJvm

inductive Wanted where
  | constant
  | loadable
  | entry (kind : ConstantKind)
  deriving DecidableEq

def Wanted.text : Wanted → String
  | .constant => "constant"
  | .loadable => "loadable constant"
  | .entry kind => kind.label

inductive Found where
  | zero
  | outOfRange
  | entry (kind : ConstantKind)
  deriving DecidableEq

def Found.text : Found → String
  | .zero => "index 0"
  | .outOfRange => "nothing (out of range)"
  | .entry kind => kind.label

inductive Malformation where
  | badMagic (word : UInt32)
  | unsupportedVersion (major minor : UInt16)
  | interfacesDeclared (count : UInt16)
  | trailingBytes (count : Nat)
  | splitTwoSlot (count : UInt16)
  | invalidText (index : UInt16)
  | handleKind (kind : UInt8)
  | attributeTrailing (name : String) (count : Nat)
  | otherClass (path found expected : String)
  | noBootstrapMethod (className : String) (index : UInt16)
  deriving DecidableEq

def Malformation.message : Malformation → String
  | .badMagic word => "bad magic 0x" ++ Hex.upper 8 word.toNat
  | .unsupportedVersion major minor =>
    "unsupported class file version " ++ toString major.toNat ++ "." ++ toString minor.toNat
  | .interfacesDeclared count =>
    toString count.toNat ++ " interfaces declared, interfaces are not supported"
  | .trailingBytes count => toString count ++ " trailing bytes after class attributes"
  | .splitTwoSlot count =>
    "constant pool of " ++ toString count.toNat ++ " entries ends with a two-slot constant"
  | .invalidText index => "constant #" ++ toString index.toNat ++ " is not valid modified UTF-8"
  | .handleKind kind => "method handle reference kind " ++ toString kind.toNat
  | .attributeTrailing name count =>
    name ++ " attribute has " ++ toString count ++ " trailing bytes"
  | .otherClass path found expected =>
    path ++ " defines class " ++ found ++ ", expected " ++ expected
  | .noBootstrapMethod className index =>
    className ++ " has no bootstrap method " ++ toString index.toNat

inductive CallSiteProblem where
  | callee (name : String)
  | bootstrap (className name : String)
  | noRecipe (name : String)
  | recipeKind (index : UInt16) (kind : ConstantKind)
  | constantKind (index : UInt16) (kind : ConstantKind)
  | returnType (name descriptor : String)
  | missingOperands (recipe : String)
  | missingConstants (recipe : String)
  | unusedOperands (recipe : String)
  deriving DecidableEq

def CallSiteProblem.message : CallSiteProblem → String
  | .callee name => name
  | .bootstrap className name => className ++ "#" ++ name
  | .noRecipe name => name ++ " without a recipe"
  | .recipeKind index kind =>
    "recipe constant #" ++ toString index.toNat ++ " is " ++ kind.label
  | .constantKind index kind =>
    "concat constant #" ++ toString index.toNat ++ " is " ++ kind.label
  | .returnType name descriptor => name ++ descriptor
  | .missingOperands recipe => "recipe " ++ Quoted.quote recipe ++ " needs more operands"
  | .missingConstants recipe => "recipe " ++ Quoted.quote recipe ++ " needs more constants"
  | .unusedOperands recipe => "recipe " ++ Quoted.quote recipe ++ " leaves operands unused"

inductive Fault where
  | unexpectedEnd (wanted remaining : Nat)
  | malformedClassFile (cause : Malformation)
  | unsupportedConstantTag (tag : UInt8) (index : UInt16)
  | brokenReference (index : UInt16) (wanted : Wanted) (found : Found)
  | classNotFound (name path : String)
  | entryPointNotFound (className : String)
  | methodNotFound (className name descriptor : String)
  | missingCode (className name : String)
  | missingReturn (className name : String)
  | unsupportedOpcode (opcode : UInt8) (pc : Nat)
  | dynamicPadding (index padding : UInt16)
  | branchOutside (target : Int)
  | unsupportedDescriptor (tag : String)
  | malformedDescriptor (text : String)
  | unsupportedCallSite (problem : CallSiteProblem)
  | unsupportedLdc (index : UInt16) (kind : ConstantKind)
  | unsupportedArrayType (code : UInt8)
  | unsupportedPlatformMember (className member : String)
  | typeMismatch (expected found : String)
  | fieldTypeMismatch (className field expected found : String)
  | fieldNotFound (className field : String)
  | stackUnderflow
  | localOutOfBounds (index size : Nat)
  | localUnset (index : Nat)
  | invalidReference (address : Nat)
  | arrayIndexOutOfBounds (index : Int32) (size : Nat)
  | negativeArraySize (size : Int32)
  | divisionByZero
  | noActiveFrame
  | outputRefused
  | flushRefused
  deriving DecidableEq

def Fault.message : Fault → String
  | .unexpectedEnd wanted remaining =>
    "Unexpected end of data: wanted " ++ toString wanted ++ " bytes, " ++ toString remaining ++
      " remaining"
  | .malformedClassFile cause => "Malformed class file: " ++ cause.message
  | .unsupportedConstantTag tag index =>
    "Unsupported constant pool tag " ++ toString tag.toNat ++ " at index " ++ toString index.toNat
  | .brokenReference index wanted found =>
    "Broken constant pool reference #" ++ toString index.toNat ++ ": expected " ++ wanted.text ++
      ", found " ++ found.text
  | .classNotFound name path => "Class " ++ name ++ " not found at " ++ path
  | .entryPointNotFound className =>
    "No public static void main(String[]) in class " ++ className
  | .methodNotFound className name descriptor =>
    "Method " ++ className ++ "#" ++ name ++ descriptor ++ " not found"
  | .missingCode className name => "Method " ++ className ++ "#" ++ name ++ " has no code"
  | .missingReturn className name =>
    "Method " ++ className ++ "#" ++ name ++ " ran past the end of its code without returning"
  | .unsupportedOpcode opcode pc =>
    "Unsupported opcode " ++ toString opcode.toNat ++ " at " ++ toString pc
  | .dynamicPadding index padding =>
    "Malformed bytecode: invokedynamic #" ++ toString index.toNat ++ " followed by 0x" ++
      Hex.lower 4 padding.toNat ++ " instead of two zero bytes"
  | .branchOutside target => "Branch target " ++ toString target ++ " is outside the method code"
  | .unsupportedDescriptor tag => "Unsupported descriptor type " ++ tag
  | .malformedDescriptor text => "Malformed descriptor " ++ Quoted.quote text
  | .unsupportedCallSite problem => "Unsupported invokedynamic call site: " ++ problem.message
  | .unsupportedLdc index kind =>
    "ldc of constant #" ++ toString index.toNat ++ " (" ++ kind.label ++ ") is not supported"
  | .unsupportedArrayType code => "Unsupported newarray type code " ++ toString code.toNat
  | .unsupportedPlatformMember className member =>
    "Unsupported platform member " ++ className ++ "." ++ member
  | .typeMismatch expected found => "Type mismatch: expected " ++ expected ++ ", got " ++ found
  | .fieldTypeMismatch className field expected found =>
    "Field " ++ className ++ "." ++ field ++ " expects " ++ expected ++ ", got " ++ found
  | .fieldNotFound className field => "Field " ++ className ++ "." ++ field ++ " not found"
  | .stackUnderflow => "Operand stack underflow"
  | .localOutOfBounds index size =>
    "Local variable index " ++ toString index ++ " out of bounds (max_locals " ++ toString size ++
      ")"
  | .localUnset index => "Local variable " ++ toString index ++ " read before assignment"
  | .invalidReference address => "Invalid heap reference @" ++ toString address
  | .arrayIndexOutOfBounds index size =>
    "Array index " ++ toString index.toInt ++ " out of bounds for length " ++ toString size
  | .negativeArraySize size => "Negative array size " ++ toString size.toInt
  | .divisionByZero => "/ by zero"
  | .noActiveFrame => "No active frame"
  | .outputRefused => "sink full"
  | .flushRefused => "flush failed"

end MiniJvm
