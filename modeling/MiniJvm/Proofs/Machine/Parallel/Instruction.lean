import MiniJvm.Proofs.Machine.Parallel.Activation

/-!
Instructions side by side. An instruction finds one class at most, which is named by its operand, so only
that class has to be found alike.
-/

namespace MiniJvm

open Effect

namespace Exec

open Activation Shared

variable {R : Shared → Shared → Prop} {a b : Activation} {index : UInt16}

section

variable (hidden : Hidden R)

include hidden

theorem respects_makeStatics (className : String) (fields : Fields) :
    Respects (Paired R) (makeStatics className fields) :=
  respects_bind (respects_allocate hidden _) fun _ =>
    respects_bind (respects_onShared (hidden.register _ _)) fun _ => respects_pure _

/-- Platform classes are told apart before a class is looked for. -/
theorem respects_prepareFirst {className : String} (finds : Finds R className) :
    Respects (Paired R) (prepareFirst className) := by
  apply respects_ite
  · intro _
    exact respects_bind (respects_onShared (hidden.platformStatics className)) fun _ =>
      respects_bind (respects_makeStatics hidden className _) fun _ => respects_pure _
  · intro user
    apply respects_bind (respects_onShared (finds (by simpa using user)))
    intro classFile
    apply respects_bind (respects_check _)
    intro fields
    apply respects_bind (respects_makeStatics hidden className fields)
    intro address
    apply respects_bind (respects_report hidden _)
    intro _
    split
    · exact respects_bind (respects_onFrame _) fun _ => respects_pure _
    · exact respects_pure _

theorem respects_prepare {className : String} (finds : Finds R className) :
    Respects (Paired R) (prepare className) := by
  intro a b paired
  unfold prepare Shared.statics?
  rw [hidden.statics paired.shared]
  cases b.shared.statics.lookup className with
  | some address => exact .ok paired
  | none => exact respects_prepareFirst hidden finds paired

theorem respects_fetchField (field : MemberRef) (type : FieldType) (address : Nat) :
    Respects (Paired R) (fetchField field type address) := by
  apply respects_bind (respects_asking hidden _)
  intro found
  cases found with
  | some value => exact respects_bind (respects_checkField field type value) fun _ => respects_push _
  | none => exact respects_throw _

theorem respects_storeField (address : Nat) (name : String) (value : Value) :
    Respects (Paired R) (onShared (Shared.setField address name value)) :=
  respects_onShared (hidden.setField address name value)

theorem coincide_getstatic (paired : Paired R a b)
    (finds : ∀ field, a.frame.classFile.pool.fieldRef index = .ok field → Finds R field.className) :
    Coincide (Paired R) (getstatic index a) (getstatic index b) := by
  apply coincide_bind (respects_resolveField index paired)
  intro (field, type) later later' resolved still
  obtain ⟨looked, rfl⟩ := resolveField_ok resolved
  apply respects_bind (respects_prepare hidden (finds field looked)) ?_ still
  intro preparation
  cases preparation with
  | pending call => exact respects_pure call
  | ready address =>
    exact respects_bind (respects_fetchField hidden field type address) fun _ => respects_pure _

theorem coincide_putstatic (paired : Paired R a b)
    (finds : ∀ field, a.frame.classFile.pool.fieldRef index = .ok field → Finds R field.className) :
    Coincide (Paired R) (putstatic index a) (putstatic index b) := by
  apply coincide_bind (respects_resolveField index paired)
  intro (field, type) later later' resolved still
  obtain ⟨looked, rfl⟩ := resolveField_ok resolved
  apply respects_bind (respects_prepare hidden (finds field looked)) ?_ still
  intro preparation
  cases preparation with
  | pending call => exact respects_pure call
  | ready address =>
    exact respects_bind (respects_onFrame _) fun value =>
      respects_bind (respects_checkField field type value) fun _ =>
        respects_bind (respects_storeField hidden address field.name value) fun _ => respects_pure _

theorem respects_getfield (index : UInt16) : Respects (Paired R) (getfield index) := by
  apply respects_bind (respects_resolveField index)
  intro (field, type)
  exact respects_bind (respects_popReference _) fun address =>
    respects_bind (respects_fetchField hidden field type address) fun _ => respects_pure _

theorem respects_putfield (index : UInt16) : Respects (Paired R) (putfield index) := by
  apply respects_bind (respects_resolveField index)
  intro (field, type)
  exact respects_bind (respects_onFrame _) fun value =>
    respects_bind (respects_popReference _) fun address =>
      respects_bind (respects_checkField field type value) fun _ =>
        respects_bind (respects_storeField hidden address field.name value) fun _ => respects_pure _

theorem respects_makeInstance (className : String) (fields : Fields) :
    Respects (Paired R) (makeInstance className fields) :=
  respects_bind (respects_allocate hidden _) fun _ => respects_bind (respects_report hidden _) fun _ =>
    respects_push _

theorem coincide_new (paired : Paired R a b)
    (finds : ∀ name, a.frame.classFile.pool.className index = .ok name → Finds R name) :
    Coincide (Paired R) (new index a) (new index b) := by
  apply coincide_bind (respects_pooled _ paired)
  intro className later later' named still
  obtain ⟨looked, rfl⟩ := pooled_ok.1 named
  apply respects_ite ?_ ?_ still
  · intro _
    exact respects_bind (respects_makeInstance hidden className []) fun _ => respects_pure _
  · intro user
    apply respects_bind (respects_prepare hidden (finds className looked))
    intro preparation
    cases preparation with
    | pending call => exact respects_pure call
    | ready address =>
      have found := finds className looked (by simpa using user)
      exact respects_bind (respects_onShared found) fun _ =>
        respects_bind (respects_check _) fun fields =>
          respects_bind (respects_makeInstance hidden className fields) fun _ => respects_pure _

theorem respects_callNative (method : MemberRef) (arguments : List Value) :
    Respects (Paired R) (callNative method arguments) := by
  unfold callNative
  split
  · exact respects_throw _
  next native _ =>
    exact respects_bind (respects_report hidden _) fun _ =>
      respects_bind (respects_onShared (hidden.run native arguments)) fun _ => respects_pure _

theorem respects_dispatch {method : MemberRef} (finds : Finds R method.className)
    (arguments : List Value) : Respects (Paired R) (dispatch method arguments) := by
  apply respects_ite
  · intro _
    exact respects_callNative hidden method arguments
  · intro user
    apply respects_bind (respects_onShared (finds (by simpa using user)))
    intro classFile
    split
    · exact respects_pure _
    · exact respects_throw _

theorem respects_invokeOnReceiver {method : MemberRef} (finds : Finds R method.className)
    (type : MethodType) : Respects (Paired R) (invokeOnReceiver method type) := by
  apply respects_bind (respects_popArguments method type)
  intro arguments
  apply respects_bind respects_popAny
  intro (receiver, tag)
  apply respects_ite
  · intro _
    exact respects_throw_bind _ _
  · intro _
    exact respects_dispatch hidden finds _

section

variable (finds : ∀ method, a.frame.classFile.pool.methodRef index = .ok method →
  Finds R method.className)

include finds

theorem coincide_invokestatic (paired : Paired R a b) :
    Coincide (Paired R) (invokestatic index a) (invokestatic index b) := by
  apply coincide_bind (respects_resolveMethod index paired)
  intro (method, type) later later' resolved still
  have found := finds method (resolveMethod_found resolved).1
  apply respects_bind (respects_popArguments method type) ?_ still
  intro arguments
  exact respects_dispatch hidden found arguments

theorem coincide_invokevirtual (paired : Paired R a b) :
    Coincide (Paired R) (invokevirtual index a) (invokevirtual index b) := by
  apply coincide_bind (respects_resolveMethod index paired)
  intro (method, type) later later' resolved still
  exact respects_invokeOnReceiver hidden (finds method (resolveMethod_found resolved).1) type still

theorem coincide_invokespecial (paired : Paired R a b) :
    Coincide (Paired R) (invokespecial index a) (invokespecial index b) := by
  apply coincide_bind (respects_resolveMethod index paired)
  intro (method, type) later later' resolved still
  apply respects_ite ?_ ?_ still
  · intro _
    apply respects_bind (respects_popArguments method type)
    intro arguments
    apply respects_bind respects_popAny
    intro (receiver, tag)
    exact respects_bind (respects_report hidden _) fun _ => respects_pure _
  · intro _
    exact respects_invokeOnReceiver hidden (finds method (resolveMethod_found resolved).1) type

end

theorem respects_popOperand (parameter : FieldType) :
    Respects (Paired R) (popOperand parameter) := by
  unfold popOperand
  split
  · exact respects_bind respects_popInt fun _ => respects_pure _
  · exact respects_bind respects_popInt fun _ => respects_pure _
  · exact respects_bind respects_popInt fun _ => respects_pure _
  · apply respects_ite
    · intro _
      exact respects_bind (respects_popReference _) fun _ => respects_asking hidden _
    · intro _
      exact respects_throw _

theorem respects_invokedynamic (index padding : UInt16) :
    Respects (Paired R) (invokedynamic index padding) := by
  apply respects_ite
  · intro _
    exact respects_throw_bind _ _
  · intro _
    exact respects_bind (respects_ofFrame _) fun site =>
      respects_bind (respects_fromLast (respects_popOperand hidden) site.parameters) fun _ =>
        respects_bind (respects_check _) fun _ => respects_bind (respects_report hidden _) fun _ =>
          respects_bind (respects_allocate hidden _) fun _ =>
            respects_bind (respects_push _) fun _ => respects_pure _

/-- Only the class that the instruction looks for has to be found alike. -/
theorem coincide_execute {instr : Instr} (paired : Paired R a b)
    (finds : ∀ name, instr.seeks? a.frame.classFile.pool = some name → Finds R name) :
    Coincide (Paired R) (execute instr a) (execute instr b) := by
  cases instr with
  | iconst value => exact respects_andProceed (respects_push _) paired
  | ldc index => exact respects_andProceed (respects_ldc hidden _) paired
  | load slot => exact respects_andProceed (respects_load_local slot) paired
  | store slot => exact respects_andProceed (respects_store slot) paired
  | iaload => exact respects_andProceed (respects_iaload hidden) paired
  | caload => exact respects_andProceed (respects_caload hidden) paired
  | iastore => exact respects_andProceed (respects_iastore hidden) paired
  | castore => exact respects_andProceed (respects_castore hidden) paired
  | pop => exact respects_andProceed (respects_map _ (respects_onFrame _)) paired
  | dup => exact respects_andProceed (respects_onFrame _) paired
  | arithmetic op => exact respects_andProceed (respects_arithmetic op) paired
  | iinc slot delta => exact respects_andProceed (respects_iinc slot delta) paired
  | branchZero comparison offset =>
    exact respects_andProceed (respects_branchZero comparison offset) paired
  | branchInts comparison offset =>
    exact respects_andProceed (respects_branchInts comparison offset) paired
  | goto offset => exact respects_andProceed (respects_onFrame _) paired
  | ireturn => exact respects_bind respects_popInt (fun _ => respects_pure _) paired
  | areturn => exact respects_bind respects_popAny (fun _ => respects_pure _) paired
  | leave => exact respects_pure _ paired
  | getstatic index =>
    apply coincide_getstatic hidden paired
    intro field looked
    exact finds _ (by simp [Instr.seeks?, Instr.prepares?, looked, Except.toOption])
  | putstatic index =>
    apply coincide_putstatic hidden paired
    intro field looked
    exact finds _ (by simp [Instr.seeks?, Instr.prepares?, looked, Except.toOption])
  | getfield index => exact respects_getfield hidden index paired
  | putfield index => exact respects_putfield hidden index paired
  | invokevirtual index =>
    apply coincide_invokevirtual hidden ?_ paired
    intro method looked
    exact finds _ (by simp [Instr.seeks?, looked, Except.toOption])
  | invokespecial index =>
    apply coincide_invokespecial hidden ?_ paired
    intro method looked
    exact finds _ (by simp [Instr.seeks?, looked, Except.toOption])
  | invokestatic index =>
    apply coincide_invokestatic hidden ?_ paired
    intro method looked
    exact finds _ (by simp [Instr.seeks?, looked, Except.toOption])
  | invokedynamic index padding => exact respects_invokedynamic hidden index padding paired
  | new index =>
    apply coincide_new hidden paired
    intro name looked
    exact finds _ (by simp [Instr.seeks?, Instr.prepares?, looked, Except.toOption])
  | newarray code => exact respects_andProceed (respects_newarray hidden code) paired
  | arraylength => exact respects_andProceed (respects_arraylength hidden) paired
  | monitor => exact respects_andProceed (respects_map _ respects_popAny) paired

theorem respects_decoded : Respects (Paired R) decoded := by
  have fetches : Respects (Paired R) fetch := by
    apply respects_bind (respects_onFrame _)
    intro found
    cases found with
    | some opcode => exact respects_pure opcode
    | none => exact respects_ofFrame _
  apply respects_bind fetches
  intro opcode
  have reports : Respects (Paired R) (reportStart opcode) :=
    respects_bind (respects_ofFrame _) fun _ => respects_report hidden _
  exact respects_bind reports fun _ => respects_onFrame _

theorem coincide_instruction (paired : Paired R a b)
    (finds : ∀ instr later, decoded a = .ok instr later →
      ∀ name, instr.seeks? later.frame.classFile.pool = some name → Finds R name) :
    Coincide (Paired R) (instruction a) (instruction b) := by
  rw [instruction_eq]
  exact coincide_bind (respects_decoded hidden paired) fun instr later _ read still =>
    coincide_execute hidden still (finds instr later read)

end

end Exec

end MiniJvm
