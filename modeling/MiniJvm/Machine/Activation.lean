import MiniJvm.Frame
import MiniJvm.Machine.Shared

/-!
An instruction works on the frame that runs it and on the shared state, and on no other frame. What has
to happen to the stack of frames it says by its result.
-/

namespace MiniJvm

structure Activation where
  frame : Frame
  shared : Shared

/-- What happens to the stack of frames after an instruction. -/
inductive Control where
  | proceed
  | call (classFile : ClassFile) (methodIndex : Nat) (arguments : List Value)
  | leave (value : Option Value)

abbrev Exec := EStateM Fault Activation

namespace Exec

def onFrame {α : Type} (action : Frame.Action α) : Exec α := fun activation =>
  match action activation.frame with
  | .ok value frame => .ok value { activation with frame }
  | .error fault frame => .error fault { activation with frame }

def onShared {α : Type} (action : Shared.Action α) : Exec α := fun activation =>
  match action activation.shared with
  | .ok value shared => .ok value { activation with shared }
  | .error fault shared => .error fault { activation with shared }

def check {α : Type} (result : Except Fault α) : Exec α := fun activation =>
  match result with
  | .ok value => .ok value activation
  | .error fault => .error fault activation

def push (value : Value) : Exec Unit := onFrame (Frame.push value)

def popInt : Exec Int32 := onFrame Frame.popInt

def popReference (tag : String) : Exec Nat := onFrame (Frame.popReference tag)

def popAny : Exec (Nat × String) := onFrame Frame.popAny

def ofFrame {α : Type} (question : Frame → Except Fault α) : Exec α := fun activation =>
  check (question activation.frame) activation

/-- Looks something up in the constant pool of the running method. -/
def pooled {α : Type} (find : Pool → Except Fault α) : Exec α :=
  ofFrame fun frame => find frame.classFile.pool

end Exec

end MiniJvm
