import MiniJvm.Machine.Execute

/-!
The machine: a stack of frames, the running one first, over the shared state. A step runs one
instruction of the running frame; whatever it did before it failed stays done.
-/

namespace MiniJvm

structure Machine where
  frames : List Frame
  shared : Shared

namespace Machine

abbrev Action := EStateM Fault Machine

def fresh (classpath : String) (disk : Disk) (output : Sink) (logLimit : Nat) : Machine :=
  ⟨[], Shared.fresh classpath disk output logLimit⟩

def onShared {α : Type} (action : Shared.Action α) : Action α := fun machine =>
  match action machine.shared with
  | .ok value shared => .ok value { machine with shared }
  | .error fault shared => .error fault { machine with shared }

def onTop {α : Type} (action : Frame.Action α) : Action α := fun machine =>
  match machine.frames with
  | [] => .error .noActiveFrame machine
  | top :: below =>
    match action top with
    | .ok value top => .ok value { machine with frames := top :: below }
    | .error fault top => .error fault { machine with frames := top :: below }

def define (bytes : Array UInt8) : Action ClassFile := onShared (Shared.define bytes)

def load (name : String) : Action ClassFile := onShared (Shared.load name)

def flush : Action Unit := onShared Shared.flush

def pushFrame (frame : Frame) : Action Unit := fun machine =>
  .ok () { machine with frames := frame :: machine.frames }

def popFrame : Action (Option Frame) := fun machine =>
  match machine.frames with
  | [] => .ok none machine
  | top :: below => .ok (some top) { machine with frames := below }

def check {α : Type} (result : Except Fault α) : Action α := fun machine =>
  match result with
  | .ok value => .ok value machine
  | .error fault => .error fault machine

def call (classFile : ClassFile) (methodIndex : Nat) (arguments : List Value) : Action Unit := do
  let frame ← check (Frame.enter classFile methodIndex arguments)
  onShared (Shared.report (.called classFile.name frame.method.name frame.locals))
  pushFrame frame

def deliver (value : Value) : Action Unit := fun machine =>
  match machine.frames with
  | [] => .ok () machine
  | top :: below =>
    .ok () { machine with frames := { top with stack := value :: top.stack } :: below }

def leave (value : Option Value) : Action Unit := do
  match ← popFrame with
  | none => throw .noActiveFrame
  | some frame =>
    onShared (Shared.report (.returned value frame.classFile.name frame.method.name))
    match value with
    | some value => deliver value
    | none => return

def apply : Control → Action Unit
  | .proceed => return
  | .call classFile methodIndex arguments => call classFile methodIndex arguments
  | .leave value => leave value

def onActivation {α : Type} (exec : Exec α) : Action α := fun machine =>
  match machine.frames with
  | [] => .error .noActiveFrame machine
  | top :: below =>
    match exec ⟨top, machine.shared⟩ with
    | .ok value activation => .ok value ⟨activation.frame :: below, activation.shared⟩
    | .error fault activation => .error fault ⟨activation.frame :: below, activation.shared⟩

/-- Runs exactly one instruction of the running frame. -/
def step : Action Unit := do
  let control ← onActivation Exec.instruction
  apply control

/-- The method a run starts with: public, static, and nothing else. -/
def mainName : String := "main"

def mainDescriptor : String := "([Ljava/lang/String;)V"

def mainFlags : UInt16 := Access.isPublic ||| Access.isStatic

def entryPoint (classFile : ClassFile) : Except Fault Nat :=
  match classFile.findMethod? mainName mainDescriptor with
  | none => .error (.entryPointNotFound classFile.name)
  | some methodIndex =>
    if (classFile.methods[methodIndex]?.map (·.flags)) = some mainFlags then .ok methodIndex
    else .error (.entryPointNotFound classFile.name)

/-- Enters the entry point without running it. Its argument is not set. -/
def enterMain (classFile : ClassFile) : Action Unit := do
  let methodIndex ← check (entryPoint classFile)
  onShared (Shared.report (.started classFile.name))
  let frame ← check (Frame.enter classFile methodIndex [])
  pushFrame frame

end Machine

end MiniJvm
