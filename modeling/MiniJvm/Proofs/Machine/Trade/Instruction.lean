import MiniJvm.Proofs.Machine.Trade

/-!
What instructions trade on the operand stack.
-/

namespace MiniJvm

open Effect

namespace Exec

open Activation

variable {α : Type} {a : Activation} {p q : Nat}

/-! ### Instructions on ints and arrays -/

theorem trades_andProceed {action : Exec Unit} (trades : Trades p q action a) :
    Trades p q (andProceed action) a :=
  trades_bind_pure (fun _ => Control.proceed) trades

theorem trades_ldc (index : UInt16) : Trades 0 1 (ldc index) a := by
  refine trades_keep (trades_pooled (Pool.errsOnly_get _ index)) fun constant b _ => ?_
  cases constant with
  | integer value => exact trades_push _
  | string textIndex text => exact trades_keep (trades_allocate _) fun _ _ _ => trades_push _
  | _ => exact trades_throw trivial

theorem trades_load_local (slot : Nat) : Trades 0 1 (load slot) a :=
  trades_keep (trades_getLocal slot) fun _ _ _ => trades_push _

theorem trades_store (slot : Nat) : Trades 1 0 (store slot) a :=
  trades_take trades_pop fun value _ _ => trades_setLocal slot value

theorem trades_iaload : Trades 2 1 iaload a := by
  refine trades_take trades_popInt fun index b _ => ?_
  refine trades_take (trades_popReference _) fun array c _ => ?_
  exact trades_keep (trades_askingAt (Heap.errsOnly_getInt _ array index)) fun _ _ _ => trades_push _

theorem trades_caload : Trades 2 1 caload a := by
  refine trades_take trades_popInt fun index b _ => ?_
  refine trades_take (trades_popReference _) fun array c _ => ?_
  exact trades_keep (trades_askingAt (Heap.errsOnly_getChar _ array index)) fun _ _ _ => trades_push _

theorem trades_iastore : Trades 3 0 iastore a := by
  refine trades_take trades_popInt fun value b _ => ?_
  refine trades_take trades_popInt fun index c _ => ?_
  refine trades_take (trades_popReference _) fun array d _ => ?_
  exact trades_map _ (trades_setInt array index value)

theorem trades_castore : Trades 3 0 castore a := by
  refine trades_take trades_popInt fun value b _ => ?_
  refine trades_take trades_popInt fun index c _ => ?_
  refine trades_take (trades_popReference _) fun array d _ => ?_
  exact trades_map _ (trades_setChar array index _)

theorem trades_arithmetic (op : Arithmetic) : Trades 2 1 (arithmetic op) a := by
  refine trades_take trades_popInt fun right b _ => ?_
  refine trades_take trades_popInt fun left c _ => ?_
  exact trades_keep (trades_check (op.errsOnly_apply left right)) fun _ _ _ => trades_push _

theorem trades_iinc (slot : Nat) (delta : Int8) : Trades 0 0 (iinc slot delta) a := by
  refine trades_keep (trades_getLocal slot) fun value b _ => ?_
  cases value with
  | int value => exact trades_setLocal slot _
  | _ => exact trades_throw trivial

theorem trades_newarray (code : UInt8) : Trades 1 1 (newarray code) a := by
  refine trades_take trades_popInt fun count b _ => ?_
  refine trades_ite (trades_throw_bind trivial) ?_
  refine trades_keep (trades_check (errsOnly_zeroArray code _)) fun array c _ => ?_
  exact trades_keep (trades_allocate array) fun _ _ _ => trades_push _

theorem trades_arraylength : Trades 1 1 arraylength a := by
  refine trades_take trades_popAny fun popped b _ => ?_
  exact trades_keep (trades_askingAt (Heap.errsOnly_arrayLength _ popped.1)) fun _ _ _ =>
    trades_push _

theorem trades_monitor : Trades 1 0 monitor a :=
  trades_map _ trades_popAny

/-! ### Fields and objects -/

theorem trades_resolveField (index : UInt16) : Trades 0 0 (resolveField index) a := by
  refine trades_keep (trades_pooled (Pool.errsOnly_fieldRef _ index)) fun field b _ => ?_
  exact trades_bind_pure _ (trades_check (FieldType.errsOnly_parse _))

theorem trades_checkField (field : MemberRef) (type : FieldType) (value : Value) :
    Trades 0 0 (checkField field type value) a :=
  trades_ite (trades_pure ()) (trades_throw trivial)

theorem trades_fetchField (field : MemberRef) (type : FieldType) (address : Nat) :
    Trades 0 1 (fetchField field type address) a := by
  refine trades_keep (trades_askingAt (Heap.errsOnly_getField _ address _)) fun found b _ => ?_
  cases found with
  | none => exact trades_throw (ordinary_missingField field)
  | some value => exact trades_keep (trades_checkField field type value) fun _ _ _ => trades_push value

theorem trades_storeField (field : MemberRef) (type : FieldType) (address : Nat) (value : Value) :
    Trades 0 0 (do
      checkField field type value
      onShared (Shared.setField address field.name value)
      return Control.proceed) a :=
  trades_keep (trades_checkField field type value) fun _ _ _ =>
    trades_bind_pure (fun _ => Control.proceed) (trades_setField address field.name value)

theorem trades_getfield (index : UInt16) : Trades 1 1 (getfield index) a := by
  refine trades_keep (trades_resolveField index) fun resolved b _ => ?_
  refine trades_take (trades_popReference _) fun address c _ => ?_
  exact trades_bind_pure (fun _ => Control.proceed) (trades_fetchField _ _ address)

theorem trades_putfield (index : UInt16) : Trades 2 0 (putfield index) a := by
  refine trades_keep (trades_resolveField index) fun resolved b _ => ?_
  refine trades_take trades_pop fun value c _ => ?_
  exact trades_take (trades_popReference _) fun address d _ => trades_storeField _ _ address value

theorem trades_makeInstance (className : String) (fields : Fields) :
    Trades 0 1 (makeInstance className fields) a :=
  trades_keep (trades_allocate _) fun _ _ _ => trades_keep (trades_report _) fun _ _ _ =>
    trades_push _

/-! ### Calls -/

theorem trades_popArgument (native : Bool) (parameter : FieldType) :
    Trades 1 0 (onFrame (popArgument native parameter)) a := by
  unfold popArgument
  split
  · rw [onFrame_bind]
    exact trades_bind_pure Value.int trades_popInt
  · rw [onFrame_bind]
    exact trades_bind_pure (fun int => Value.boolean (int != 0)) trades_popInt
  · cases native with
    | false => exact trades_throw trivial
    | true =>
      rw [if_pos rfl, onFrame_bind]
      exact trades_bind_pure (fun int => Value.char int.toUInt32.toUInt16) trades_popInt
  · rw [onFrame_bind]
    exact trades_bind_pure (Value.reference · Value.charArrayTag) (trades_popReference _)
  · by_cases string : parameter.isString
    · rw [if_pos string, onFrame_bind]
      exact trades_bind_pure (Value.reference · Value.stringTag) (trades_popReference _)
    · rw [if_neg string]
      exact trades_throw trivial

/-- As many values are taken as there are parameters. -/
theorem trades_fromLast {action : FieldType → Exec α}
    (each : ∀ parameter b, Trades 1 0 (action parameter) b) (parameters : List FieldType) :
    Trades parameters.length 0 (fromLast action parameters) a := by
  induction parameters generalizing a with
  | nil => exact trades_pure []
  | cons parameter others ih =>
    rw [List.length_cons, Nat.add_comm]
    exact trades_bind ih fun results b _ => trades_bind_pure (· :: results) (each parameter b)

theorem trades_popArguments (method : MemberRef) (type : MethodType) :
    Trades type.parameters.length 0 (popArguments method type) a :=
  trades_fromLast (fun parameter _ => trades_popArgument _ parameter) type.parameters

theorem trades_print (newline : Bool) (arguments : List Value) :
    Trades 0 0 (onShared (Platform.print newline arguments)) a := by
  unfold Platform.print
  cases arguments with
  | nil => exact trades_throw trivial
  | cons receiver rest =>
    have printed (b : Activation) : Trades 0 0 (onShared (Platform.printed rest)) b := by
      unfold Platform.printed
      match rest with
      | [] => exact trades_pure ""
      | [value] =>
        cases value with
        | reference address tag =>
          exact trades_askingAt (Heap.errsOnly_displayReference _ address tag)
        | _ => exact trades_asking (errsOnly_ok _)
      | _ :: _ :: _ => exact trades_throw trivial
    have number (b : Activation) : Trades 0 0 (onShared (Platform.streamNumber? receiver)) b := by
      unfold Platform.streamNumber?
      cases receiver with
      | reference address tag => exact trades_askingAt (Heap.errsOnly_getField _ address _)
      | _ => exact trades_pure none
    simp only [onShared_bind]
    refine trades_keep (printed a) fun text b _ => trades_keep (number b) fun fd c _ => ?_
    by_cases standard : fd = some (.int 2)
    · rw [if_pos standard]
      exact trades_writeError _
    · rw [if_neg standard]
      exact trades_write _

theorem trades_callNative (method : MemberRef) (arguments : List Value) :
    Trades 0 0 (callNative method arguments) a := by
  unfold callNative
  cases Platform.native? method.className method.name with
  | none => exact trades_throw trivial
  | some native =>
    refine trades_keep (trades_report _) fun _ b _ => ?_
    cases native with
    | println => exact trades_bind_pure (fun _ => Control.proceed) (trades_print true arguments)
    | print => exact trades_bind_pure (fun _ => Control.proceed) (trades_print false arguments)

theorem trades_dispatch (method : MemberRef) (arguments : List Value) :
    Trades 0 0 (dispatch method arguments) a := by
  refine trades_ite (trades_callNative method arguments) ?_
  refine trades_keep (trades_load method.className) fun classFile b _ => ?_
  cases classFile.findMethod? method.name method.descriptor with
  | none => exact trades_throw trivial
  | some methodIndex => exact trades_pure _

theorem trades_invoke (method : MemberRef) (type : MethodType) :
    Trades type.parameters.length 0 (popArguments method type >>= dispatch method) a := by
  rw [← Nat.zero_add type.parameters.length]
  exact trades_bind (trades_popArguments method type) fun arguments _ _ =>
    trades_dispatch method arguments

theorem trades_invokeOnReceiver (method : MemberRef) (type : MethodType) :
    Trades (type.parameters.length + 1) 0 (invokeOnReceiver method type) a := by
  rw [Nat.add_comm]
  refine trades_bind (trades_popArguments method type) fun arguments b _ => ?_
  refine trades_take trades_popAny fun popped c _ => ?_
  exact trades_ite (trades_throw_bind trivial) (trades_dispatch method _)

theorem trades_skipConstructor (method : MemberRef) (type : MethodType) :
    Trades (type.parameters.length + 1) 0 (skipConstructor method type) a := by
  rw [Nat.add_comm]
  refine trades_bind (trades_popArguments method type) fun arguments b _ => ?_
  refine trades_take trades_popAny fun popped c _ => ?_
  exact trades_bind_pure (fun _ => Control.proceed) (trades_report _)

theorem trades_popOperand (parameter : FieldType) : Trades 1 0 (popOperand parameter) a := by
  unfold popOperand
  split
  · exact trades_bind_pure _ trades_popInt
  · exact trades_bind_pure _ trades_popInt
  · exact trades_bind_pure _ trades_popInt
  · refine trades_ite ?_ (trades_throw trivial)
    exact trades_take (trades_popReference _) fun address b _ =>
      trades_askingAt (Heap.errsOnly_string _ address)

end Exec

end MiniJvm
