import MiniJvm.Disk
import MiniJvm.Event
import MiniJvm.Heap

/-!
What all frames share: the heap, the classes read so far and their static fields, the class path, the
output and the log.
-/

namespace MiniJvm

/-- Where printed text goes. A write that would pass the limit, counted in bytes, is refused whole. -/
structure Sink where
  text : String
  limit : Option Nat
  flushFails : Bool

namespace Sink

def unbounded : Sink := ⟨"", none, false⟩

def hasRoom (sink : Sink) (text : String) : Bool :=
  match sink.limit with
  | some limit => sink.text.utf8ByteSize + text.utf8ByteSize ≤ limit
  | none => true

def append (sink : Sink) (text : String) : Sink :=
  { sink with text := sink.text ++ text }

@[simp] theorem append_text (sink : Sink) (text : String) : (sink.append text).text = sink.text ++ text :=
  rfl

end Sink

structure Shared where
  heap : Heap
  /-- Classes in the order in which they were read, each name once. -/
  classes : List ClassFile
  statics : List (String × Nat)
  classpath : String
  disk : Disk
  output : Sink
  errors : String
  log : Log

namespace Shared

abbrev Action := EStateM Fault Shared

def fresh (classpath : String) (disk : Disk) (output : Sink) (logLimit : Nat) : Shared where
  heap := Heap.empty
  classes := []
  statics := []
  classpath := classpath
  disk := disk
  output := output
  errors := ""
  log := Log.empty logLimit

def report (event : Event) : Action Unit := fun shared =>
  .ok () { shared with log := shared.log.add event }

def asking {α : Type} (question : Heap → Except Fault α) : Action α := fun shared =>
  match question shared.heap with
  | .ok answer => .ok answer shared
  | .error fault => .error fault shared

def allocate (object : HeapObject) : Action Nat := fun shared =>
  .ok shared.heap.size { shared with heap := shared.heap.push object }

def changeHeap (change : Heap → Heap) : Action Unit := fun shared =>
  .ok () { shared with heap := change shared.heap }

def setField (address : Nat) (name : String) (value : Value) : Action Unit := do
  let _ ← asking (·.fields address)
  changeHeap (·.setField address name value)

def setInt (address : Nat) (index value : Int32) : Action Nat := do
  let slot ← asking (·.intSlot address index)
  changeHeap (·.setInt address slot value)
  return slot

def setChar (address : Nat) (index : Int32) (unit : UInt16) : Action Nat := do
  let slot ← asking (·.charSlot address index)
  changeHeap (·.setChar address slot unit)
  return slot

def findClass? (shared : Shared) (name : String) : Option ClassFile :=
  shared.classes.find? (·.name == name)

def statics? (shared : Shared) (name : String) : Option Nat :=
  shared.statics.lookup name

def classOnDisk (classpath : String) (disk : Disk) (name : String) : Except Fault ClassFile :=
  let path := Path.ofClass classpath name
  match disk.read? path with
  | none => .error (.classNotFound name path)
  | some bytes =>
    match ClassFile.parse bytes with
    | .error fault => .error fault
    | .ok parsed =>
      if parsed.name = name then .ok parsed
      else .error (.malformedClassFile (.otherClass path parsed.name name))

/-- The class that a name stands for: the one read before, or else the one on disk. -/
def lookup (shared : Shared) (name : String) : Except Fault ClassFile :=
  match shared.findClass? name with
  | some known => .ok known
  | none => classOnDisk shared.classpath shared.disk name

def logAfterRead (shared : Shared) (path : String) : Log :=
  match shared.disk.read? path with
  | some bytes => shared.log.addParse bytes
  | none => shared.log

def load (name : String) : Action ClassFile := fun shared =>
  match shared.findClass? name with
  | some known => .ok known shared
  | none =>
    let path := Path.ofClass shared.classpath name
    let log := shared.logAfterRead path
    match classOnDisk shared.classpath shared.disk name with
    | .ok found =>
      .ok found
        { shared with
          classes := shared.classes ++ [found]
          log := log.add (.classLoaded name path) }
    | .error fault => .error fault { shared with log }

/-- Adds a class from memory. A class of the same name that is there already wins. -/
def define (bytes : Array UInt8) : Action ClassFile := fun shared =>
  let log := shared.log.addParse bytes
  match ClassFile.parse bytes with
  | .error fault => .error fault { shared with log }
  | .ok parsed =>
    match shared.findClass? parsed.name with
    | some known => .ok known { shared with log }
    | none =>
      .ok parsed
        { shared with
          classes := shared.classes ++ [parsed]
          log := log.add (.classDefined parsed.name) }

def register (name : String) (address : Nat) : Action Unit := fun shared =>
  .ok () { shared with statics := shared.statics ++ [(name, address)] }

def write (text : String) : Action Unit := fun shared =>
  if shared.output.hasRoom text then
    .ok () { shared with output := shared.output.append text }
  else .error .outputRefused shared

def writeError (text : String) : Action Unit := fun shared =>
  .ok () { shared with errors := shared.errors ++ text }

def flush : Action Unit := fun shared =>
  if shared.output.flushFails then .error .flushRefused shared else .ok () shared

end Shared

end MiniJvm
