import MiniJvm.Proofs.Machine.Parallel.Shared

/-!
The same running frame over related shared states: what the instructions do alike that look for no class.
-/

namespace MiniJvm

open Effect

/-- The same running frame over related shared states. -/
structure Activation.Paired (R : Shared → Shared → Prop) (a b : Activation) : Prop where
  frame : a.frame = b.frame
  shared : R a.shared b.shared

/-- The class that an instruction looks for, if it gets that far. -/
def Instr.seeks? (pool : Pool) : Instr → Option String
  | .invokevirtual index => (pool.methodRef index).toOption.map (·.className)
  | .invokespecial index => (pool.methodRef index).toOption.map (·.className)
  | .invokestatic index => (pool.methodRef index).toOption.map (·.className)
  | other => other.prepares? pool

namespace Exec

open Activation Shared

variable {α : Type} {R : Shared → Shared → Prop} {a b : Activation} {index : UInt16}

theorem respects_onFrame (action : Frame.Action α) : Respects (Paired R) (onFrame action) := by
  intro a b paired
  unfold onFrame
  rw [paired.frame]
  cases action b.frame with
  | ok value frame => exact .ok ⟨rfl, paired.shared⟩
  | error fault frame => exact .error ⟨rfl, paired.shared⟩

theorem respects_onShared {action : Shared.Action α} (respects : Respects R action) :
    Respects (Paired R) (onShared action) := by
  intro a b paired
  have together := respects paired.shared
  unfold onShared
  generalize action a.shared = left, action b.shared = right at together ⊢
  cases together with
  | ok still => exact .ok ⟨paired.frame, still⟩
  | error still => exact .error ⟨paired.frame, still⟩

theorem respects_check (result : Except Fault α) : Respects (Paired R) (check result) := by
  intro a b paired
  cases result with
  | ok value => exact .ok paired
  | error fault => exact .error paired

theorem respects_ofFrame (question : Frame → Except Fault α) :
    Respects (Paired R) (ofFrame question) := by
  intro a b paired
  unfold ofFrame
  rw [paired.frame]
  exact respects_check _ paired

theorem respects_pooled (find : Pool → Except Fault α) : Respects (Paired R) (pooled find) :=
  respects_ofFrame _

theorem respects_push (value : Value) : Respects (Paired R) (push value) := respects_onFrame _

theorem respects_popInt : Respects (Paired R) popInt := respects_onFrame _

theorem respects_popReference (tag : String) : Respects (Paired R) (popReference tag) :=
  respects_onFrame _

theorem respects_popAny : Respects (Paired R) popAny := respects_onFrame _

theorem respects_andProceed {action : Exec Unit} (respects : Respects (Paired R) action) :
    Respects (Paired R) (andProceed action) :=
  respects_bind respects fun _ => respects_pure Control.proceed

theorem respects_fromLast {action : FieldType → Exec α}
    (each : ∀ parameter, Respects (Paired R) (action parameter)) (parameters : List FieldType) :
    Respects (Paired R) (fromLast action parameters) := by
  induction parameters with
  | nil => exact respects_pure []
  | cons parameter others ih =>
    exact respects_bind ih fun _ => respects_bind (each parameter) fun _ => respects_pure _

theorem respects_load_local (slot : Nat) : Respects (Paired R) (load slot) :=
  respects_bind (respects_onFrame _) fun value => respects_push value

theorem respects_store (slot : Nat) : Respects (Paired R) (store slot) :=
  respects_bind (respects_onFrame _) fun _ => respects_onFrame _

theorem respects_arithmetic (op : Arithmetic) : Respects (Paired R) (arithmetic op) :=
  respects_bind respects_popInt fun _ => respects_bind respects_popInt fun _ =>
    respects_bind (respects_check _) fun _ => respects_push _

theorem respects_iinc (slot : Nat) (delta : Int8) : Respects (Paired R) (iinc slot delta) := by
  apply respects_bind (respects_onFrame _)
  intro value
  cases value with
  | int value => exact respects_onFrame _
  | _ => exact respects_throw _

theorem respects_branch (holds : Bool) (offset : Int) : Respects (Paired R) (branch holds offset) :=
  respects_ite (fun _ => respects_onFrame _) fun _ => respects_pure ()

theorem respects_branchZero (comparison : Comparison) (offset : Int) :
    Respects (Paired R) (branchZero comparison offset) :=
  respects_bind respects_popInt fun _ => respects_branch _ offset

theorem respects_branchInts (comparison : Comparison) (offset : Int) :
    Respects (Paired R) (branchInts comparison offset) :=
  respects_bind respects_popInt fun _ => respects_bind respects_popInt fun _ =>
    respects_branch _ offset

theorem respects_resolveField (index : UInt16) : Respects (Paired R) (resolveField index) :=
  respects_bind (respects_pooled _) fun _ => respects_bind (respects_check _) fun _ =>
    respects_pure _

theorem respects_resolveMethod (index : UInt16) : Respects (Paired R) (resolveMethod index) :=
  respects_bind (respects_pooled _) fun _ => respects_bind (respects_check _) fun _ =>
    respects_pure _

theorem respects_checkField (field : MemberRef) (type : FieldType) (value : Value) :
    Respects (Paired R) (checkField field type value) :=
  respects_ite (fun _ => respects_pure ()) fun _ => respects_throw _

theorem respects_popArguments (method : MemberRef) (type : MethodType) :
    Respects (Paired R) (popArguments method type) :=
  respects_fromLast (fun _ => respects_onFrame _) type.parameters

section

variable (hidden : Hidden R)

include hidden

theorem respects_report (event : Event) : Respects (Paired R) (onShared (Shared.report event)) :=
  respects_onShared (hidden.report event)

theorem respects_asking (question : Heap → Except Fault α) :
    Respects (Paired R) (onShared (Shared.asking question)) :=
  respects_onShared (hidden.asking question)

theorem respects_allocate (object : HeapObject) :
    Respects (Paired R) (onShared (Shared.allocate object)) :=
  respects_onShared (hidden.allocate object)

theorem respects_ldc (index : UInt16) : Respects (Paired R) (ldc index) := by
  apply respects_bind (respects_pooled _)
  intro constant
  cases constant with
  | integer value => exact respects_push _
  | string textIndex text =>
    exact respects_bind (respects_allocate hidden _) fun _ => respects_push _
  | _ => exact respects_throw _

theorem respects_iaload : Respects (Paired R) iaload :=
  respects_bind respects_popInt fun _ => respects_bind (respects_popReference _) fun _ =>
    respects_bind (respects_asking hidden _) fun _ => respects_push _

theorem respects_caload : Respects (Paired R) caload :=
  respects_bind respects_popInt fun _ => respects_bind (respects_popReference _) fun _ =>
    respects_bind (respects_asking hidden _) fun _ => respects_push _

theorem respects_iastore : Respects (Paired R) iastore :=
  respects_bind respects_popInt fun _ => respects_bind respects_popInt fun _ =>
    respects_bind (respects_popReference _) fun _ =>
      respects_map _ (respects_onShared (hidden.setInt _ _ _))

theorem respects_castore : Respects (Paired R) castore :=
  respects_bind respects_popInt fun _ => respects_bind respects_popInt fun _ =>
    respects_bind (respects_popReference _) fun _ =>
      respects_map _ (respects_onShared (hidden.setChar _ _ _))

theorem respects_newarray (code : UInt8) : Respects (Paired R) (newarray code) := by
  apply respects_bind respects_popInt
  intro count
  apply respects_ite
  · intro _
    exact respects_throw_bind _ _
  · intro _
    exact respects_bind (respects_check _) fun _ => respects_bind (respects_allocate hidden _) fun _ =>
      respects_push _

theorem respects_arraylength : Respects (Paired R) arraylength := by
  apply respects_bind respects_popAny
  intro (array, tag)
  exact respects_bind (respects_asking hidden _) fun _ => respects_push _

end

end Exec

end MiniJvm
