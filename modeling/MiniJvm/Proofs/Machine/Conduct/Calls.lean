import MiniJvm.Proofs.Machine.Conduct.Computation

/-!
Calls and dynamic calls, run on sound references.
-/

namespace MiniJvm

open Effect

namespace Exec

open Activation

variable {delivers : Bool} {a : Activation}

theorem conducts_resolveMethod (index : UInt16) :
    Conducts delivers (resolveMethod index) a fun _ b => b = a := by
  refine conducts_bind (conducts_pooled (Pool.errsOnly_methodRef _ index)) ?_
  rintro method b _ ⟨_, rfl⟩
  exact conducts_bind_pure _ (conducts_check (MethodType.errsOnly_parse (fun _ => trivial) _))
    fun _ _ _ same => same.2

theorem conducts_popArgument (native : Bool) (parameter : FieldType) :
    Conducts delivers (onFrame (popArgument native parameter)) a fun value b =>
      b.shared.heap.Backs value := by
  unfold popArgument
  split
  · rw [onFrame_bind]
    exact conducts_bind conducts_popInt fun _ _ _ _ => conducts_pure trivial
  · rw [onFrame_bind]
    exact conducts_bind conducts_popInt fun _ _ _ _ => conducts_pure trivial
  · cases native with
    | false => exact conducts_throw id
    | true =>
      rw [if_pos rfl, onFrame_bind]
      exact conducts_bind conducts_popInt fun _ _ _ _ => conducts_pure trivial
  · rw [onFrame_bind]
    exact conducts_bind (conducts_popReference _) fun _ _ _ backed => conducts_pure backed
  · by_cases string : parameter.isString
    · rw [if_pos string, onFrame_bind]
      exact conducts_bind (conducts_popReference _) fun _ _ _ backed => conducts_pure backed
    · rw [if_neg string]
      exact conducts_throw id

theorem conducts_popArguments (method : MemberRef) (type : MethodType) :
    Conducts delivers (popArguments method type) a fun values b =>
      ∀ value ∈ values, b.shared.heap.Backs value := by
  unfold popArguments
  induction type.parameters generalizing a delivers with
  | nil => exact conducts_pure fun _ member => nomatch member
  | cons parameter others ih =>
    refine conducts_bind ih fun values b _ backed => ?_
    refine conducts_bind_pure _ (conducts_popArgument _ parameter) fun value c popped last => ?_
    intro v member
    rcases List.mem_cons.1 member with rfl | later
    · exact last
    · exact (backed v later).evolves popped.evolves

/-- Printing looks at the receiver and at one argument, both of which are backed. -/
theorem conducts_print (newline : Bool) {arguments : List Value}
    (backed : ∀ value ∈ arguments, a.shared.heap.Backs value) :
    Conducts true (onShared (Platform.print newline arguments)) a fun _ _ => True := by
  unfold Platform.print
  cases arguments with
  | nil => exact conducts_throw id
  | cons receiver rest =>
    have printed : Conducts false (onShared (Platform.printed rest)) a fun _ b => b = a := by
      unfold Platform.printed
      match rest, backed with
      | [], _ => exact conducts_pure rfl
      | [value], backed =>
        have argument := backed value (by simp)
        exact (conducts_asking (Heap.errsOnly_display argument)).imp fun _ _ _ same => same.2
      | _ :: _ :: _, _ => exact conducts_throw id
    have number : Conducts false (onShared (Platform.streamNumber? receiver)) a
        fun _ b => b = a := by
      unfold Platform.streamNumber?
      cases receiver with
      | reference address tag =>
        have target := backed _ (List.mem_cons_self ..)
        have only := Heap.errsOnly_grounded target.occupied
          (Heap.errsOnly_getField _ address Platform.streamField)
        exact (conducts_asking only).imp fun _ _ _ same => same.2
      | _ => exact conducts_pure rfl
    simp only [onShared_bind]
    refine conducts_bind printed ?_
    rintro text b _ rfl
    refine conducts_bind number ?_
    rintro fd c _ rfl
    by_cases standard : fd = some (.int 2)
    · rw [if_pos standard]
      exact conducts_writeError _
    · rw [if_neg standard]
      exact conducts_write _

theorem conducts_callNative (method : MemberRef) {arguments : List Value}
    (backed : ∀ value ∈ arguments, a.shared.heap.Backs value) :
    Conducts true (callNative method arguments) a fun control b =>
      b.shared.heap.BacksControl control := by
  unfold callNative
  cases Platform.native? method.className method.name with
  | none => exact conducts_throw id
  | some native =>
    refine conducts_bind (conducts_report _) fun _ b reported _ => ?_
    have still : ∀ value ∈ arguments, b.shared.heap.Backs value :=
      fun value member => (backed value member).evolves reported.evolves
    cases native with
    | println =>
      exact conducts_bind_pure _ (conducts_print true still) fun _ _ _ _ => trivial
    | print =>
      exact conducts_bind_pure _ (conducts_print false still) fun _ _ _ _ => trivial

theorem conducts_dispatch (method : MemberRef) {arguments : List Value}
    (backed : ∀ value ∈ arguments, a.shared.heap.Backs value) :
    Conducts true (dispatch method arguments) a fun control b =>
      b.shared.heap.BacksControl control := by
  refine conducts_ite (fun _ => conducts_callNative method backed) fun _ => ?_
  refine conducts_bind (conducts_load method.className) fun classFile b loaded _ => ?_
  cases classFile.findMethod? method.name method.descriptor with
  | none => exact conducts_throw id
  | some methodIndex =>
    exact conducts_pure fun value member => (backed value member).evolves loaded.evolves

theorem conducts_invokestatic (index : UInt16) :
    Conducts true (invokestatic index) a fun control b => b.shared.heap.BacksControl control := by
  refine conducts_bind (conducts_resolveMethod index) ?_
  rintro ⟨method, type⟩ b _ rfl
  exact conducts_bind (conducts_popArguments method type) fun _ _ _ backed =>
    conducts_dispatch method backed

theorem conducts_invokeOnReceiver (method : MemberRef) (type : MethodType) :
    Conducts true (invokeOnReceiver method type) a fun control b =>
      b.shared.heap.BacksControl control := by
  refine conducts_bind (conducts_popArguments method type) fun arguments b _ backed => ?_
  refine conducts_bind conducts_popAny ?_
  rintro ⟨receiver, tag⟩ c popped target
  refine conducts_ite (fun _ => conducts_throw_bind id) fun _ => ?_
  refine conducts_dispatch method fun value member => ?_
  rcases List.mem_cons.1 member with rfl | later
  · exact target
  · exact (backed value later).evolves popped.evolves

theorem conducts_invokevirtual (index : UInt16) :
    Conducts true (invokevirtual index) a fun control b => b.shared.heap.BacksControl control := by
  refine conducts_bind (conducts_resolveMethod index) ?_
  rintro ⟨method, type⟩ b _ rfl
  exact conducts_invokeOnReceiver method type

theorem conducts_invokespecial (index : UInt16) :
    Conducts true (invokespecial index) a fun control b => b.shared.heap.BacksControl control := by
  refine conducts_bind (conducts_resolveMethod index) ?_
  rintro ⟨method, type⟩ b _ rfl
  refine conducts_ite (fun _ => ?_) fun _ => conducts_invokeOnReceiver method type
  refine conducts_bind (conducts_popArguments method type) fun _ _ _ _ => ?_
  refine conducts_bind conducts_popAny fun _ _ _ _ => ?_
  exact conducts_bind_pure _ (conducts_report _) fun _ _ _ _ => trivial

/-! ### Dynamic calls -/

theorem errsOnly_pieces {allowed : Fault → Prop}
    (sites : ∀ problem, allowed (.unsupportedCallSite problem)) (recipe : String) (chars : List Char)
    (operands constants : List String) :
    ErrsOnly allowed (Concat.pieces recipe chars operands constants) := by
  have prepend {result : Except Fault (List String)} (text : String)
      (only : ErrsOnly allowed result) : ErrsOnly allowed ((text :: ·) <$> result) := by
    cases result with
    | ok pieces => exact errsOnly_ok _
    | error fault => exact errsOnly_error (only rfl)
  fun_induction Concat.pieces recipe chars operands constants with
  | case1 => exact errsOnly_ok _
  | case2 => exact errsOnly_error (sites _)
  | case3 => exact prepend _ ‹_›
  | case4 => exact errsOnly_error (sites _)
  | case5 => exact prepend _ ‹_›
  | case6 => exact errsOnly_error (sites _)
  | case7 => exact prepend _ ‹_›

theorem errsOnly_fill {allowed : Fault → Prop}
    (sites : ∀ problem, allowed (.unsupportedCallSite problem)) (recipe : String)
    (operands constants : List String) :
    ErrsOnly allowed (Concat.fill recipe operands constants) := by
  have only := errsOnly_pieces sites recipe recipe.toList operands constants
  unfold Concat.fill
  cases filled : Concat.pieces recipe recipe.toList operands constants with
  | ok pieces => exact errsOnly_ok _
  | error fault => exact errsOnly_error (only filled)

theorem errsOnly_ordinary {α : Type} {result : Except Fault α}
    (only : ErrsOnly Fault.OfFile result) : ErrsOnly Fault.Ordinary result :=
  only.mono fun _ => Fault.OfFile.ordinary

theorem errsOnly_concatBootstrap (classFile : ClassFile) (site : CallSite) :
    ErrsOnly Fault.Ordinary (concatBootstrap classFile site) := by
  refine errsOnly_ite (errsOnly_error trivial) ?_
  cases (classFile.bootstrapMethods?.getD [])[site.bootstrapIndex.toNat]? with
  | none => exact errsOnly_error trivial
  | some bootstrap =>
    refine errsOnly_bind (errsOnly_ordinary (Pool.errsOnly_methodHandle _ _)) fun handle => ?_
    exact errsOnly_ite (errsOnly_error trivial) (errsOnly_ok _)

theorem errsOnly_recipeText (pool : Pool) (index : UInt16) :
    ErrsOnly Fault.Ordinary (recipeText pool index) := by
  refine errsOnly_bind (errsOnly_ordinary (pool.errsOnly_get index)) fun constant => ?_
  cases constant with
  | string textIndex text => exact errsOnly_ok text
  | _ => exact errsOnly_error trivial

theorem errsOnly_constantText (pool : Pool) (index : UInt16) :
    ErrsOnly Fault.Ordinary (constantText pool index) := by
  refine errsOnly_bind (errsOnly_ordinary (pool.errsOnly_get index)) fun constant => ?_
  cases constant with
  | string textIndex text => exact errsOnly_ok text
  | integer value => exact errsOnly_ok _
  | _ => exact errsOnly_error trivial

theorem errsOnly_recipeParts (pool : Pool) (arguments : List UInt16) :
    ErrsOnly Fault.Ordinary (recipeParts pool arguments) := by
  cases arguments with
  | nil => exact errsOnly_error trivial
  | cons recipe others =>
    refine errsOnly_bind (errsOnly_recipeText pool recipe) fun text => ?_
    exact errsOnly_bind (errsOnly_mapM fun index _ => errsOnly_constantText pool index) fun _ =>
      errsOnly_ok _

theorem errsOnly_concatParameters {allowed : Fault → Prop}
    (malformed : ∀ text, allowed (.malformedDescriptor text))
    (sites : ∀ problem, allowed (.unsupportedCallSite problem)) (site : CallSite) :
    ErrsOnly allowed (concatParameters site) := by
  refine errsOnly_bind (MethodType.errsOnly_parse malformed _) fun type => ?_
  cases type.returns with
  | some returned => exact errsOnly_ite (errsOnly_ok _) (errsOnly_error (sites _))
  | none => exact errsOnly_error (sites _)

theorem errsOnly_concatSite (classFile : ClassFile) (index : UInt16) :
    ErrsOnly Fault.Ordinary (concatSite classFile index) :=
  errsOnly_bind (errsOnly_ordinary (Pool.errsOnly_callSite _ index)) fun site =>
    errsOnly_bind (errsOnly_concatBootstrap classFile site) fun bootstrap =>
    errsOnly_bind (errsOnly_recipeParts classFile.pool bootstrap.arguments) fun _ =>
    errsOnly_bind (errsOnly_concatParameters (fun _ => trivial) (fun _ => trivial) site) fun _ =>
    errsOnly_ok _

theorem conducts_popOperand (parameter : FieldType) :
    Conducts delivers (popOperand parameter) a fun _ _ => True := by
  unfold popOperand
  split
  · exact conducts_bind_pure _ conducts_popInt fun _ _ _ _ => trivial
  · exact conducts_bind_pure _ conducts_popInt fun _ _ _ _ => trivial
  · exact conducts_bind_pure _ conducts_popInt fun _ _ _ _ => trivial
  · refine conducts_ite (fun _ => ?_) fun _ => conducts_throw id
    refine conducts_bind (conducts_popReference _) fun address b _ backed => ?_
    have only := Heap.errsOnly_grounded backed.occupied (Heap.errsOnly_string _ address)
    exact (conducts_asking only).imp fun _ _ _ _ => trivial

theorem conducts_popOperands (parameters : List FieldType) :
    Conducts delivers (fromLast popOperand parameters) a fun _ _ => True := by
  induction parameters generalizing a delivers with
  | nil => exact conducts_pure trivial
  | cons parameter others ih =>
    exact conducts_bind ih fun _ _ _ _ =>
      conducts_bind_pure _ (conducts_popOperand parameter) fun _ _ _ _ => trivial

theorem conducts_invokedynamic (index padding : UInt16) :
    Conducts true (invokedynamic index padding) a fun control b =>
      b.shared.heap.BacksControl control := by
  refine conducts_ite (fun _ => conducts_throw_bind id) fun _ => ?_
  refine conducts_bind (conducts_ofFrame (errsOnly_concatSite _ index)) fun site b _ _ => ?_
  refine conducts_bind (conducts_popOperands site.parameters) fun operands c _ _ => ?_
  refine conducts_bind (conducts_check (errsOnly_fill (fun _ => trivial) _ operands _)) fun text d _ _ => ?_
  refine conducts_bind (conducts_report _) fun _ e _ _ => ?_
  refine conducts_bind (conducts_allocate trivial) fun address f _ made => ?_
  exact conducts_bind_pure _ (conducts_push ⟨_, made.1, rfl⟩) fun _ _ _ _ => trivial

end Exec

end MiniJvm
