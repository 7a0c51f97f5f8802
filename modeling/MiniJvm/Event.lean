import MiniJvm.ClassFile.Basic
import MiniJvm.Value

/-!
The log: what the machine reports about itself, as data, and how a report is worded.
-/

namespace MiniJvm

inductive Level where
  | error | warn | info | debug | trace
  deriving DecidableEq

namespace Level

def rank : Level → Nat
  | .error => 1
  | .warn => 2
  | .info => 3
  | .debug => 4
  | .trace => 5

def label : Level → String
  | .error => "ERROR"
  | .warn => "WARN"
  | .info => "INFO"
  | .debug => "DEBUG"
  | .trace => "TRACE"

/-- The greatest rank that a verbosity of this name keeps; zero keeps nothing. Case does not matter. -/
def rankOfName? (name : String) : Option Nat :=
  let folded := String.ofList (name.toList.map Char.toLower)
  if folded = "off" then some 0
  else if folded = "error" then some 1
  else if folded = "warn" then some 2
  else if folded = "info" then some 3
  else if folded = "debug" then some 4
  else if folded = "trace" then some 5
  else none

end Level

inductive Event where
  | constantRead (index : UInt16) (entry : Entry)
  | classParsed (name : String) (major minor : UInt16) (constants methods : Nat)
  | classDefined (name : String)
  | classLoaded (name path : String)
  | classReady (name : String)
  | framesDiscarded (count : Nat)
  | started (className : String)
  | called (className method : String) (locals : List (Option Value))
  | returned (value : Option Value) (className method : String)
  | nativeCalled (className method : String) (arguments : List Value)
  | instruction (opcode : UInt8) (start : Nat)
  | allocated (className : String) (address : Nat)
  | constructorSkipped (className : String) (arguments : List Value) (address : Nat)
  | concatenated (recipe : String) (operands : List String) (text : String)
  | failed (fault : Fault)

namespace Event

def level : Event → Level
  | .constantRead .. => .trace
  | .classParsed .. => .debug
  | .classDefined .. => .info
  | .classLoaded .. => .info
  | .classReady .. => .info
  | .framesDiscarded .. => .warn
  | .started .. => .info
  | .called .. => .debug
  | .returned .. => .debug
  | .nativeCalled .. => .debug
  | .instruction .. => .trace
  | .allocated .. => .trace
  | .constructorSkipped .. => .trace
  | .concatenated .. => .debug
  | .failed .. => .error

def listText (items : List String) : String :=
  "[" ++ String.intercalate ", " items ++ "]"

def recordText (name : String) (fields : List (String × Nat)) : String :=
  name ++ " \x7b " ++
    String.intercalate ", " (fields.map fun (label, n) => label ++ ": " ++ toString n) ++ " \x7d"

def valueText : Value → String
  | .int value => "Int(" ++ toString value.toInt ++ ")"
  | .boolean value => "Boolean(" ++ Value.booleanText value ++ ")"
  | .char unit => "Char(" ++ toString unit.toNat ++ ")"
  | .reference address tag =>
    "Reference(HeapPtr(" ++ toString address ++ "), " ++ Quoted.quote tag ++ ")"

def slotText : Option Value → String
  | some value => "Some(" ++ valueText value ++ ")"
  | none => "None"

def memberText (name : String) (owner member : UInt16) : String :=
  recordText name [("class_index", owner.toNat), ("name_and_type_index", member.toNat)]

/-- Floating-point entries show their bits. -/
def entryText : Entry → String
  | .utf8 text => "Utf8(" ++ Quoted.quote text ++ ")"
  | .integer value => "Integer(" ++ toString value.toInt ++ ")"
  | .float bits => "Float(0x" ++ Hex.lower 8 bits.toNat ++ ")"
  | .long value => "Long(" ++ toString value.toInt ++ ")"
  | .double bits => "Double(0x" ++ Hex.lower 16 bits.toNat ++ ")"
  | .classRef name => recordText "Class" [("name_index", name.toNat)]
  | .string text => recordText "String" [("string_index", text.toNat)]
  | .fieldRef owner member => memberText "Fieldref" owner member
  | .methodRef owner member => memberText "Methodref" owner member
  | .interfaceMethodRef owner member => memberText "InterfaceMethodref" owner member
  | .nameAndType name descriptor =>
    recordText "NameAndType" [("name_index", name.toNat), ("descriptor_index", descriptor.toNat)]
  | .methodHandle kind index =>
    recordText "MethodHandle" [("reference_kind", kind.toNat), ("reference_index", index.toNat)]
  | .invokeDynamic bootstrap member =>
    recordText "InvokeDynamic"
      [("bootstrap_method_attr_index", bootstrap.toNat), ("name_and_type_index", member.toNat)]
  | .unusable => "Unusable"

def message : Event → String
  | .constantRead index entry => "#" ++ toString index.toNat ++ " = " ++ entryText entry
  | .classParsed name major minor constants methods =>
    "Parsed class " ++ name ++ " (version " ++ toString major.toNat ++ "." ++
      toString minor.toNat ++ ", " ++ toString constants ++ " constants, " ++ toString methods ++
      " methods)"
  | .classDefined name => "Defined class " ++ name
  | .classLoaded name path => "Loaded class " ++ name ++ " from " ++ path
  | .classReady name => "Initialize " ++ name
  | .framesDiscarded count => "Discarding " ++ toString count ++ " frames of an aborted run"
  | .started className => "Start " ++ className ++ "#main"
  | .called className method locals =>
    "Call " ++ className ++ "#" ++ method ++ "(" ++ listText (locals.map slotText) ++ ")"
  | .returned (some value) className method =>
    "Return " ++ valueText value ++ " from " ++ className ++ "#" ++ method
  | .returned none className method => "Return from " ++ className ++ "#" ++ method
  | .nativeCalled className method arguments =>
    "Call native " ++ className ++ "#" ++ method ++ "(" ++ listText (arguments.map valueText) ++ ")"
  | .instruction opcode start =>
    "Process cmd [" ++ toString opcode.toNat ++ "] at [" ++ toString start ++ "]"
  | .allocated className address => "New " ++ className ++ " at @" ++ toString address
  | .constructorSkipped className arguments address =>
    "Skip " ++ className ++ "#<init>(" ++ listText (arguments.map valueText) ++ ") on @" ++
      toString address
  | .concatenated recipe operands text =>
    "Concat " ++ Quoted.quote recipe ++ " with " ++ listText (operands.map Quoted.quote) ++ " = " ++
      Quoted.quote text
  | .failed fault => fault.message

end Event

structure Log where
  limit : Nat
  events : Array Event

namespace Log

def empty (limit : Nat) : Log := ⟨limit, #[]⟩

def keeps (log : Log) (level : Level) : Bool :=
  level.rank ≤ log.limit

def add (log : Log) (event : Event) : Log :=
  if log.keeps event.level then { log with events := log.events.push event } else log

def addAll (log : Log) (events : List Event) : Log :=
  events.foldl add log

def poolEvents (c : Cursor) : List Event :=
  (Entry.poolRead c).map fun (index, entry) => .constantRead index entry

/-- Reports of reading a class file: its constants, then the class once it is accepted. -/
def parseEvents (bytes : Array UInt8) : List Event :=
  let constants :=
    match RawClass.readVersion (Cursor.ofBytes bytes) with
    | .ok _ c => poolEvents c
    | .error _ _ => []
  match ClassFile.parse bytes with
  | .ok parsed =>
    constants ++ [.classParsed parsed.name parsed.majorVersion parsed.minorVersion
      parsed.pool.size parsed.methods.length]
  | .error _ => constants

def addParse (log : Log) (bytes : Array UInt8) : Log :=
  if log.keeps .debug then log.addAll (parseEvents bytes) else log

end Log

end MiniJvm
