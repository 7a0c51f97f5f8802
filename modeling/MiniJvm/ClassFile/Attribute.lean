import MiniJvm.Constant.Pool
import MiniJvm.Cursor.Lemmas

/-!
Attributes of classes, fields, methods and code. The name of an attribute, found in the constant pool,
decides how its payload is read; payloads of unknown name are kept as they are. A payload that is read
has to be used up exactly.
-/

namespace MiniJvm

structure RawAttribute where
  nameIndex : UInt16
  payload : Array UInt8

/-- A guarded range of code. Nothing dispatches on it. -/
structure Handler where
  startPc : UInt16
  endPc : UInt16
  handlerPc : UInt16
  catchType : UInt16
  deriving DecidableEq

structure LineNumber where
  startPc : UInt16
  line : UInt16
  deriving DecidableEq

structure BootstrapMethod where
  handleIndex : UInt16
  arguments : List UInt16
  deriving DecidableEq

/-- An attribute of known name, or the payload of any other. -/
inductive Attribute where
  | code (nameIndex : UInt16) (maxStack maxLocals : UInt16) (bytes : Array UInt8)
      (handlers : List Handler) (attributes : List Attribute)
  | lineNumbers (nameIndex : UInt16) (lines : List LineNumber)
  | sourceFile (nameIndex : UInt16) (textIndex : UInt16) (text : String)
  | bootstrapMethods (nameIndex : UInt16) (methods : List BootstrapMethod)
  | other (nameIndex : UInt16) (name : String) (payload : Array UInt8)

namespace RawAttribute

def read : Decode RawAttribute := do
  let nameIndex ← Cursor.u2
  let length ← Cursor.u4
  let payload ← Cursor.take length.toNat
  return ⟨nameIndex, payload⟩

def readAll : Decode (List RawAttribute) :=
  Cursor.counted read

end RawAttribute

namespace Handler

def read : Decode Handler := do
  let startPc ← Cursor.u2
  let endPc ← Cursor.u2
  let handlerPc ← Cursor.u2
  let catchType ← Cursor.u2
  return ⟨startPc, endPc, handlerPc, catchType⟩

def layout (handler : Handler) : List UInt8 :=
  Layout.u2 handler.startPc ++ Layout.u2 handler.endPc ++ Layout.u2 handler.handlerPc ++
    Layout.u2 handler.catchType

end Handler

namespace LineNumber

def read : Decode LineNumber := do
  let startPc ← Cursor.u2
  let line ← Cursor.u2
  return ⟨startPc, line⟩

def layout (entry : LineNumber) : List UInt8 :=
  Layout.u2 entry.startPc ++ Layout.u2 entry.line

end LineNumber

def Cursor.check {α : Type} (result : Except Fault α) : Decode α := fun c =>
  match result with
  | .ok value => .ok value c
  | .error fault => .error fault c

namespace BootstrapMethod

def readArgument (pool : Pool) : Decode UInt16 := do
  let index ← Cursor.u2
  Cursor.check (pool.checkLoadable index)
  return index

def read (pool : Pool) : Decode BootstrapMethod := do
  let handleIndex ← Cursor.u2
  let _ ← Cursor.check (pool.methodHandle handleIndex)
  let arguments ← Cursor.counted (readArgument pool)
  return ⟨handleIndex, arguments⟩

def layout (method : BootstrapMethod) : List UInt8 :=
  Layout.u2 method.handleIndex ++ Layout.counted Layout.u2 method.arguments

end BootstrapMethod

structure CodeLayout where
  maxStack : UInt16
  maxLocals : UInt16
  bytes : Array UInt8
  handlers : List Handler
  attributes : List RawAttribute

def CodeLayout.read : Decode CodeLayout := do
  let maxStack ← Cursor.u2
  let maxLocals ← Cursor.u2
  let length ← Cursor.u4
  let bytes ← Cursor.take length.toNat
  let handlers ← Cursor.counted Handler.read
  let attributes ← RawAttribute.readAll
  return ⟨maxStack, maxLocals, bytes, handlers, attributes⟩

open Effect in
theorem RawAttribute.read_size {c d : Cursor} {raw : RawAttribute}
    (run : RawAttribute.read c = .ok raw d) :
    d.bytes = c.bytes ∧ c.position + (raw.payload.size + 6) ≤ d.position := by
  obtain ⟨nameIndex, u, readName, later⟩ := bind_ok.1 run
  obtain ⟨length, v, readLength, later⟩ := bind_ok.1 later
  obtain ⟨payload, w, readPayload, last⟩ := bind_ok.1 later
  obtain ⟨rfl, rfl⟩ := pure_ok.1 last
  have first := Cursor.advances_u2 readName
  have second := Cursor.advances_u4 readLength
  have third := Cursor.advances_take _ readPayload
  have size := Cursor.take_size readPayload
  refine ⟨third.1.trans (second.1.trans first.1), ?_⟩
  show _ + (payload.size + 6) ≤ _
  omega

open Effect in
/-- Attributes inside a code payload are smaller than the payload. -/
theorem CodeLayout.nested_smaller {payload : Array UInt8} {code : CodeLayout} {d : Cursor}
    (run : CodeLayout.read (Cursor.ofBytes payload) = .ok code d) {raw : RawAttribute}
    (member : raw ∈ code.attributes) : raw.payload.size < payload.size := by
  obtain ⟨maxStack, c₁, readStack, run⟩ := bind_ok.1 run
  obtain ⟨maxLocals, c₂, readLocals, run⟩ := bind_ok.1 run
  obtain ⟨length, c₃, readLength, run⟩ := bind_ok.1 run
  obtain ⟨bytes, c₄, readBytes, run⟩ := bind_ok.1 run
  obtain ⟨handlers, c₅, readHandlers, run⟩ := bind_ok.1 run
  obtain ⟨attributes, c₆, readAttributes, run⟩ := bind_ok.1 run
  obtain ⟨rfl, rfl⟩ := pure_ok.1 run
  obtain ⟨count, c₇, readCount, readItems⟩ := bind_ok.1 readAttributes
  obtain ⟨handlerCount, c₈, readHandlerCount, readHandlerItems⟩ := bind_ok.1 readHandlers
  have handlerMoves : Cursor.Advances 0 Handler.read := by
    intro c d value read
    have bound := Cursor.advances_bind Cursor.advances_u2 (fun a =>
      Cursor.advances_bind Cursor.advances_u2 fun b =>
      Cursor.advances_bind Cursor.advances_u2 fun e =>
      Cursor.advances_bind Cursor.advances_u2 fun f =>
      Cursor.advances_pure (Handler.mk a b e f)) read
    exact ⟨bound.1, by omega⟩
  have same : c₅.bytes = payload :=
    (Cursor.advances_times handlerMoves _ readHandlerItems).1.trans <|
    (Cursor.advances_u2 readHandlerCount).1.trans <|
    (Cursor.advances_take _ readBytes).1.trans <|
    (Cursor.advances_u4 readLength).1.trans <|
    (Cursor.advances_u2 readLocals).1.trans (Cursor.advances_u2 readStack).1
  obtain ⟨⟨sameItems, _⟩, each⟩ := Cursor.times_mem (fun _ _ _ => RawAttribute.read_size) readItems
  have bound := each raw member
  have inside := c₆.inside
  rw [sameItems, (Cursor.advances_u2 readCount).1, same] at inside
  omega

namespace Attribute

def codeName : String := "Code"

def lineNumbersName : String := "LineNumberTable"

def sourceFileName : String := "SourceFile"

def bootstrapMethodsName : String := "BootstrapMethods"

def name : Attribute → String
  | .code .. => codeName
  | .lineNumbers .. => lineNumbersName
  | .sourceFile .. => sourceFileName
  | .bootstrapMethods .. => bootstrapMethodsName
  | .other _ name _ => name

def nameIndex : Attribute → UInt16
  | .code nameIndex .. => nameIndex
  | .lineNumbers nameIndex _ => nameIndex
  | .sourceFile nameIndex .. => nameIndex
  | .bootstrapMethods nameIndex _ => nameIndex
  | .other nameIndex .. => nameIndex

def checkUsedUp (name : String) (unread : Nat) : Except Fault Unit :=
  if unread = 0 then .ok ()
  else .error (.malformedClassFile (.attributeTrailing name unread))

def decode {α : Type} (name : String) (payload : Array UInt8) (read : Decode α) :
    Except Fault α :=
  match read (Cursor.ofBytes payload) with
  | .ok value c => do
    checkUsedUp name c.remaining
    return value
  | .error fault _ => .error fault

def link (pool : Pool) (raw : RawAttribute) : Except Fault Attribute := do
  let name ← pool.utf8 raw.nameIndex
  if name = codeName then
    match _stored : CodeLayout.read (Cursor.ofBytes raw.payload) with
    | .error fault _ => throw fault
    | .ok body c =>
      let attributes ← body.attributes.attach.mapM fun nested => link pool nested.val
      checkUsedUp name c.remaining
      return .code raw.nameIndex body.maxStack body.maxLocals body.bytes body.handlers attributes
  else if name = lineNumbersName then
    let lines ← decode name raw.payload (Cursor.counted LineNumber.read)
    return .lineNumbers raw.nameIndex lines
  else if name = sourceFileName then
    let textIndex ← decode name raw.payload Cursor.u2
    let text ← pool.utf8 textIndex
    return .sourceFile raw.nameIndex textIndex text
  else if name = bootstrapMethodsName then
    let methods ← decode name raw.payload (Cursor.counted (BootstrapMethod.read pool))
    return .bootstrapMethods raw.nameIndex methods
  else
    return .other raw.nameIndex name raw.payload
termination_by raw.payload.size
decreasing_by exact CodeLayout.nested_smaller _stored nested.property

end Attribute

structure Code where
  maxStack : UInt16
  maxLocals : UInt16
  bytes : Array UInt8
  handlers : List Handler
  attributes : List Attribute

def Attribute.code? : Attribute → Option Code
  | .code _ maxStack maxLocals bytes handlers attributes =>
    some ⟨maxStack, maxLocals, bytes, handlers, attributes⟩
  | _ => none

def Attribute.lines? : Attribute → Option (List LineNumber)
  | .lineNumbers _ lines => some lines
  | _ => none

def Attribute.sourceFile? : Attribute → Option String
  | .sourceFile _ _ text => some text
  | _ => none

def Attribute.bootstrapMethods? : Attribute → Option (List BootstrapMethod)
  | .bootstrapMethods _ methods => some methods
  | _ => none

/-- The entry that starts last among those that start at or before `pc`; of equals, the later. -/
def LineNumber.nearest? (pc : Nat) (lines : List LineNumber) : Option LineNumber :=
  (lines.filter (·.startPc.toNat ≤ pc)).foldl
    (fun best entry =>
      match best with
      | some nearest => if nearest.startPc ≤ entry.startPc then some entry else some nearest
      | none => some entry)
    none

def Code.lines? (code : Code) : Option (List LineNumber) :=
  code.attributes.findSome? Attribute.lines?

def Code.lineAt? (code : Code) (pc : Nat) : Option UInt16 := do
  let lines ← code.lines?
  let entry ← LineNumber.nearest? pc lines
  return entry.line

end MiniJvm
