import MiniJvm.Machine.Shared

/-!
The built-in part of the class library: the two standard print streams and printing.
-/

namespace MiniJvm.Platform

def systemClass : String := "java/lang/System"

def printStreamClass : String := "java/io/PrintStream"

/-- The field of a print stream that tells which one it is. -/
def streamField : String := "fd"

/-- Platform classes are built in and never read from disk. -/
def isPlatform (className : String) : Bool :=
  "java/".toList.isPrefixOf className.toList

inductive Native where
  | println
  | print
  deriving DecidableEq

/-- Built-in methods are found by class and name; any descriptor will do. -/
def native? (className name : String) : Option Native :=
  if className = printStreamClass then
    if name = "println" then some .println
    else if name = "print" then some .print
    else none
  else none

def stream (number : Int32) : HeapObject :=
  .instanceOf printStreamClass [(streamField, .int number)]

def statics (className : String) : Shared.Action Fields := do
  if className = systemClass then
    let out ← Shared.allocate (stream 1)
    let err ← Shared.allocate (stream 2)
    let tag := FieldType.objectTag printStreamClass
    return [("out", .reference out tag), ("err", .reference err tag)]
  else return []

def printed (arguments : List Value) : Shared.Action String := do
  match arguments with
  | [] => return ""
  | [value] => Shared.asking (·.display value)
  | _ =>
    throw (.unsupportedPlatformMember printStreamClass
      ("println with " ++ toString arguments.length ++ " arguments"))

def streamNumber? (receiver : Value) : Shared.Action (Option Value) := do
  match receiver with
  | .reference address _ => Shared.asking (·.getField address streamField)
  | _ => return none

/-- Prints the text of the arguments after the receiver. Everything that is not the error stream is the
output. -/
def print (newline : Bool) (arguments : List Value) : Shared.Action Unit := do
  match arguments with
  | [] => throw .stackUnderflow
  | receiver :: rest =>
    let text ← printed rest
    let text := if newline then text ++ "\n" else text
    let number ← streamNumber? receiver
    if number = some (.int 2) then Shared.writeError text else Shared.write text

def run (native : Native) (arguments : List Value) : Shared.Action Unit :=
  match native with
  | .println => print true arguments
  | .print => print false arguments

end MiniJvm.Platform
