import MiniJvm.ClassFile.Layout
import MiniJvm.Proofs.Machine.ControlFlow
import MiniJvm.Proofs.Machine.TypedRun

/-!
Faults that have to do neither with the type of a field nor with a missing one, and what fails for no other.
Only reading the field itself fails for such a reason.
-/

namespace MiniJvm

open Effect Activation

/-- The references to fields in a constant pool. -/
def Pool.fieldRefs (pool : Pool) : List MemberRef :=
  pool.constants.toList.filterMap fun
    | .fieldRef field => some field
    | _ => none

theorem Pool.fieldRef_listed {pool : Pool} {index : UInt16} {field : MemberRef}
    (named : pool.fieldRef index = .ok field) : field ∈ pool.fieldRefs := by
  obtain ⟨constant, looked, same⟩ := except_bind_ok.1 named
  have inside : constant ∈ pool.constants.toList := by
    unfold Pool.get at looked
    split at looked
    · cases looked
    · split at looked
      · cases looked
      next there =>
        cases looked
        exact Array.mem_toList_iff.2 (Array.mem_of_getElem? there)
      next => cases looked
  cases constant with
  | fieldRef found =>
    cases same
    exact List.mem_filterMap.2 ⟨_, inside, rfl⟩
  | _ => cases same

/-- Whether finitely many classes agree on their fields can be told from their constant pools. -/
theorem coherent_of_listed {available : ClassFile → Prop} (classes : List ClassFile)
    (listed : ∀ classFile, available classFile → classFile ∈ classes)
    (distinct : ∀ owner ∈ classes, Platform.isPlatform owner.name = false →
      (owner.fields.map Member.name).Nodup)
    (declared : ∀ user ∈ classes, ∀ owner ∈ classes, Platform.isPlatform owner.name = false →
      ∀ field ∈ user.pool.fieldRefs, field.className = owner.name →
        ∃ member ∈ owner.fields, member.name = field.name ∧ member.descriptor = field.descriptor) :
    Coherent available where
  distinct := fun owner offered => distinct owner (listed owner offered)
  declared := fun user owner _ field userOffered offered ordinary named =>
    declared user (listed user userOffered) owner (listed owner offered) ordinary field
      (Pool.fieldRef_listed named)

/-- Faults that tell of something else than a field. -/
def Fault.Elsewhere : Fault → Prop
  | .fieldTypeMismatch .. | .fieldNotFound .. => False
  | _ => True

theorem Fault.OfFile.elsewhere {fault : Fault} (ofFile : fault.OfFile) : fault.Elsewhere := by
  cases fault with
  | fieldTypeMismatch className field expected found => exact ofFile
  | fieldNotFound className field => exact ofFile
  | _ => trivial

theorem FieldType.parse_elsewhere (descriptor : String) :
    ErrsOnly Fault.Elsewhere (FieldType.parse descriptor) := by
  unfold FieldType.parse
  split
  · exact errsOnly_ok _
  · exact errsOnly_error trivial

theorem Shared.load_elsewhere (name : String) : FailsOnly Fault.Elsewhere (Shared.load name) := by
  intro shared later fault failed
  unfold Shared.load at failed
  split at failed
  · cases failed
  · dsimp only at failed
    split at failed
    · cases failed
    next refused =>
      cases failed
      unfold classOnDisk at refused
      dsimp only at refused
      split at refused
      · cases refused
        trivial
      · split at refused
        next rejected =>
          cases refused
          exact (ClassFile.errsOnly_parse _ rejected).elsewhere
        next =>
          split at refused
          · cases refused
          · cases refused
            trivial

theorem Frame.enter_elsewhere (classFile : ClassFile) (methodIndex : Nat) (arguments : List Value) :
    ErrsOnly Fault.Elsewhere (Frame.enter classFile methodIndex arguments) := by
  unfold Frame.enter
  split
  · exact errsOnly_error trivial
  split
  · exact errsOnly_error trivial
  dsimp only
  exact errsOnly_ite (errsOnly_error trivial) (errsOnly_ok _)

theorem Frame.failsOnly_pop {allowed : Fault → Prop} (underflow : allowed .stackUnderflow) :
    FailsOnly allowed Frame.pop := by
  intro frame later fault failed
  unfold Frame.pop at failed
  split at failed
  · cases failed
  · cases failed
    exact underflow

theorem Frame.failsOnly_popReference {allowed : Fault → Prop} (underflow : allowed .stackUnderflow)
    (mismatch : ∀ expected found, allowed (.typeMismatch expected found)) (tag : String) :
    FailsOnly allowed (Frame.popReference tag) := by
  refine failsOnly_bind (failsOnly_pop underflow) fun value => ?_
  cases value with
  | reference address found =>
    exact failsOnly_ite (failsOnly_pure _) (failsOnly_throw (mismatch _ _))
  | _ => exact failsOnly_throw (mismatch _ _)

theorem Frame.popReference_elsewhere (tag : String) :
    FailsOnly Fault.Elsewhere (Frame.popReference tag) :=
  failsOnly_popReference trivial (fun _ _ => trivial) tag

theorem Frame.restart_elsewhere : FailsOnly Fault.Elsewhere Frame.restart := by
  intro frame later fault failed
  have jumped : FailsOnly Fault.Elsewhere (Frame.reading (Cursor.jumpTo frame.start)) := by
    intro old new cause refused
    unfold Frame.reading Cursor.jumpTo at refused
    split at refused
    · cases refused
    next outside =>
      split at outside
      · cases outside
      · cases outside
        cases refused
        trivial
  exact failsOnly_map (fun _ => ()) jumped failed

namespace Exec

open Shared

variable {α : Type} {allowed : Fault → Prop} {a b : Activation} {index : UInt16} {field : MemberRef}
  {type : FieldType} {fault : Fault} {address : Nat}

theorem failsOnly_check {result : Except Fault α} (only : ErrsOnly allowed result) :
    FailsOnly allowed (check result) := by
  intro a b fault failed
  unfold check at failed
  split at failed
  · cases failed
  · cases failed
    exact only rfl

theorem failsOnly_onShared {action : Shared.Action α} (only : FailsOnly allowed action) :
    FailsOnly allowed (onShared action) := by
  intro a b fault failed
  unfold onShared at failed
  split at failed
  · cases failed
  next refused =>
    cases failed
    exact only refused

theorem resolveField_elsewhere (index : UInt16) : FailsOnly Fault.Elsewhere (resolveField index) := by
  have named : FailsOnly Fault.Elsewhere (pooled (·.fieldRef index)) := by
    intro a b fault failed
    exact failsOnly_check ((Pool.errsOnly_fieldRef _ index).mono fun _ => Fault.OfFile.elsewhere) failed
  refine failsOnly_bind named fun field => ?_
  exact failsOnly_bind (failsOnly_check (FieldType.parse_elsewhere _)) fun _ => failsOnly_pure _

theorem defaultFields_elsewhere (static : Bool) (fields : List Member) :
    ErrsOnly Fault.Elsewhere (defaultFields static fields) := by
  refine errsOnly_foldlM (fun values member => ?_) _ _
  refine errsOnly_bind (FieldType.parse_elsewhere member.descriptor) fun type => ?_
  cases Value.default? type with
  | some value => exact errsOnly_ok _
  | none => exact errsOnly_ok _

theorem prepare_elsewhere (className : String) : FailsOnly Fault.Elsewhere (prepare className) := by
  have first : FailsOnly Fault.Elsewhere (prepareFirst className) := by
    have made (fields : Fields) : FailsOnly Fault.Elsewhere (makeStatics className fields) := by
      intro a b fault failed
      cases failed
    have builtIn : FailsOnly Fault.Elsewhere (onShared (Platform.statics className)) := by
      refine failsOnly_onShared (failsOnly_ite ?_ (failsOnly_pure _))
      intro shared later fault failed
      cases failed
    have reported : FailsOnly Fault.Elsewhere (onShared (Shared.report (.classReady className))) := by
      intro a b fault failed
      cases failed
    refine failsOnly_ite (failsOnly_bind builtIn fun fields => failsOnly_map _ (made fields)) ?_
    refine failsOnly_bind (failsOnly_onShared (load_elsewhere className)) fun classFile => ?_
    refine failsOnly_bind (failsOnly_check (defaultFields_elsewhere true _)) fun fields => ?_
    refine failsOnly_bind (made fields) fun address => failsOnly_bind reported fun _ => ?_
    cases classFile.findMethod? initializerName initializerDescriptor with
    | none => exact failsOnly_pure _
    | some methodIndex =>
      exact failsOnly_bind (failsOnly_onFrame Frame.restart_elsewhere) fun _ => failsOnly_pure _
  intro a b fault failed
  unfold prepare at failed
  split at failed
  · cases failed
  · exact first failed

/-- A read of a field fails when there is no value or when the value does not fit. -/
theorem fetchField_failed {className : String} {fields : Fields}
    (there : a.shared.heap.objects[address]? = some (.instanceOf className fields))
    (failed : fetchField field type address a = .error fault b) :
    (fields.get? field.name = none ∧ fault = missingField field) ∨
      ∃ value, fields.get? field.name = some value ∧ value.conformsTo type = false := by
  have read : a.shared.heap.getField address field.name = .ok (fields.get? field.name) := by
    unfold Heap.getField Heap.fields Heap.get
    rw [there]
    rfl
  have asked : onShared (Shared.asking (·.getField address field.name)) a =
      .ok (fields.get? field.name) a := by
    unfold onShared Shared.asking
    dsimp only
    rw [read]
  unfold fetchField at failed
  rw [bind_of_ok asked] at failed
  cases stored : fields.get? field.name with
  | none =>
    rw [stored] at failed
    cases failed
    exact .inl ⟨rfl, rfl⟩
  | some value =>
    rw [stored] at failed
    refine .inr ⟨value, rfl, ?_⟩
    cases fits : value.conformsTo type with
    | false => rfl
    | true =>
      have passed : checkField field type value a = .ok () a := by
        unfold checkField
        rw [if_pos fits]
        rfl
      dsimp only at failed
      rw [bind_of_ok passed] at failed
      cases failed

end Exec

end MiniJvm
