import MiniJvm.Proofs.Machine.Conduct.Heap

/-!
Constants, locals, arrays, arithmetic and branches, run on sound references.
-/

namespace MiniJvm

open Effect

/-- What an instruction hands to the stack of frames is backed. -/
def Heap.BacksControl (heap : Heap) : Control → Prop
  | .proceed => True
  | .call _ _ arguments => ∀ value ∈ arguments, heap.Backs value
  | .leave (some value) => heap.Backs value
  | .leave none => True

namespace FieldType

theorem errsOnly_parse (descriptor : String) :
    ErrsOnly Fault.Ordinary (FieldType.parse descriptor) := by
  unfold FieldType.parse
  split
  · exact errsOnly_ok _
  · exact errsOnly_error trivial

end FieldType

theorem MethodType.errsOnly_parse {allowed : Fault → Prop}
    (malformed : ∀ text, allowed (.malformedDescriptor text)) (descriptor : String) :
    ErrsOnly allowed (MethodType.parse descriptor) := by
  unfold MethodType.parse
  split
  · exact errsOnly_ok _
  · exact errsOnly_error (malformed _)

theorem Arithmetic.errsOnly_apply (op : Arithmetic) (left right : Int32) :
    ErrsOnly Fault.Ordinary (op.apply left right) := by
  cases op with
  | rem => exact errsOnly_ite (errsOnly_error trivial) (errsOnly_ok _)
  | _ => exact errsOnly_ok _

namespace Exec

open Activation

variable {delivers : Bool} {a : Activation}

theorem conducts_andProceed {action : Exec Unit}
    (conducts : Conducts true action a fun _ _ => True) :
    Conducts true (andProceed action) a fun control b => b.shared.heap.BacksControl control :=
  conducts_bind_pure (fun _ => Control.proceed) conducts fun _ _ _ _ => trivial

theorem conducts_ldc (index : UInt16) : Conducts true (ldc index) a fun _ _ => True := by
  refine conducts_bind (conducts_pooled (Pool.errsOnly_get _ index)) ?_
  rintro constant b _ ⟨_, rfl⟩
  cases constant with
  | integer value => exact conducts_push trivial
  | string textIndex text =>
    refine conducts_bind (conducts_allocate trivial) fun address c _ there => ?_
    exact conducts_push ⟨_, there.1, rfl⟩
  | _ => exact conducts_throw id

theorem conducts_load_local (slot : Nat) : Conducts true (load slot) a fun _ _ => True :=
  conducts_bind (conducts_getLocal slot) fun _ _ _ backed => conducts_push backed

theorem conducts_store (slot : Nat) : Conducts true (store slot) a fun _ _ => True :=
  conducts_bind conducts_pop fun _ _ _ backed => conducts_setLocal slot backed

theorem conducts_iaload : Conducts true iaload a fun _ _ => True := by
  refine conducts_bind conducts_popInt fun index b _ _ => ?_
  refine conducts_bind (conducts_popReference _) fun array c _ backed => ?_
  have only := Heap.errsOnly_grounded backed.occupied (Heap.errsOnly_getInt _ array index)
  refine conducts_bind (conducts_asking only) ?_
  exact fun value d _ _ => conducts_push trivial

theorem conducts_caload : Conducts true caload a fun _ _ => True := by
  refine conducts_bind conducts_popInt fun index b _ _ => ?_
  refine conducts_bind (conducts_popReference _) fun array c _ backed => ?_
  have only := Heap.errsOnly_grounded backed.occupied (Heap.errsOnly_getChar _ array index)
  refine conducts_bind (conducts_asking only) ?_
  exact fun unit d _ _ => conducts_push trivial

theorem conducts_iastore : Conducts true iastore a fun _ _ => True := by
  refine conducts_bind conducts_popInt fun value b _ _ => ?_
  refine conducts_bind conducts_popInt fun index c _ _ => ?_
  refine conducts_bind (conducts_popReference _) fun array d _ backed => ?_
  have only := Heap.errsOnly_grounded backed.occupied (Heap.errsOnly_intSlot _ array index)
  exact conducts_map _ (conducts_setInt array index value only) fun _ _ _ _ => trivial

theorem conducts_castore : Conducts true castore a fun _ _ => True := by
  refine conducts_bind conducts_popInt fun value b _ _ => ?_
  refine conducts_bind conducts_popInt fun index c _ _ => ?_
  refine conducts_bind (conducts_popReference _) fun array d _ backed => ?_
  have only := Heap.errsOnly_grounded backed.occupied (Heap.errsOnly_charSlot _ array index)
  exact conducts_map _ (conducts_setChar array index _ only) fun _ _ _ _ => trivial

theorem conducts_arithmetic (op : Arithmetic) :
    Conducts true (arithmetic op) a fun _ _ => True := by
  refine conducts_bind conducts_popInt fun right b _ _ => ?_
  refine conducts_bind conducts_popInt fun left c _ _ => ?_
  exact conducts_bind (conducts_check (op.errsOnly_apply left right)) fun _ _ _ _ =>
    conducts_push trivial

theorem conducts_iinc (slot : Nat) (delta : Int8) :
    Conducts true (iinc slot delta) a fun _ _ => True := by
  refine conducts_bind (conducts_getLocal slot) fun value b _ _ => ?_
  cases value with
  | int value => exact conducts_setLocal slot trivial
  | _ => exact conducts_throw id

theorem conducts_branch (holds : Bool) (offset : Int) :
    Conducts delivers (branch holds offset) a fun _ _ => True :=
  conducts_ite (fun _ => conducts_jump offset) fun _ => conducts_pure trivial

theorem conducts_branchZero (comparison : Comparison) (offset : Int) :
    Conducts delivers (branchZero comparison offset) a fun _ _ => True :=
  conducts_bind conducts_popInt fun _ _ _ _ => conducts_branch _ offset

theorem conducts_branchInts (comparison : Comparison) (offset : Int) :
    Conducts delivers (branchInts comparison offset) a fun _ _ => True :=
  conducts_bind conducts_popInt fun _ _ _ _ => conducts_bind conducts_popInt fun _ _ _ _ =>
    conducts_branch _ offset

theorem zeroArray_ok {code : UInt8} {count : Nat} {array : HeapObject}
    (made : zeroArray code count = .ok array) (heap : Heap) : heap.FieldsBacked array := by
  unfold zeroArray at made
  split at made
  · cases made
    trivial
  · split at made
    · cases made
      trivial
    · cases made

theorem errsOnly_zeroArray (code : UInt8) (count : Nat) :
    ErrsOnly Fault.Ordinary (zeroArray code count) :=
  errsOnly_ite (errsOnly_ok _) (errsOnly_ite (errsOnly_ok _) (errsOnly_error trivial))

theorem conducts_newarray (code : UInt8) : Conducts true (newarray code) a fun _ _ => True := by
  refine conducts_bind conducts_popInt fun count b _ _ => ?_
  refine conducts_ite (fun _ => conducts_throw_bind id) fun _ => ?_
  refine conducts_bind (conducts_check (errsOnly_zeroArray code _)) ?_
  rintro array c _ ⟨made, rfl⟩
  refine conducts_bind (conducts_allocate (zeroArray_ok made _)) fun address d _ there => ?_
  exact conducts_push ⟨_, there.1, rfl⟩

theorem conducts_arraylength : Conducts true arraylength a fun _ _ => True := by
  refine conducts_bind conducts_popAny fun popped b _ backed => ?_
  have only := Heap.errsOnly_grounded backed.occupied (Heap.errsOnly_arrayLength _ popped.1)
  refine conducts_bind (conducts_asking only) ?_
  exact fun _ _ _ _ => conducts_push trivial

theorem conducts_monitor : Conducts delivers monitor a fun _ _ => True :=
  conducts_map _ conducts_popAny fun _ _ _ _ => trivial

end Exec

end MiniJvm
