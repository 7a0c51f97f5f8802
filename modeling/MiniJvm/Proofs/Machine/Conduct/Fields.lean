import MiniJvm.Proofs.Machine.Conduct.Computation

/-!
Classes that are prepared, and fields that are read and written, on sound references.
-/

namespace MiniJvm

open Effect

namespace Exec

open Activation

variable {delivers : Bool} {a : Activation}

theorem errsOnly_defaultFields (static : Bool) (fields : List Member) :
    ErrsOnly Fault.Ordinary (defaultFields static fields) := by
  refine errsOnly_foldlM (fun values field => ?_) _ _
  refine errsOnly_bind (FieldType.errsOnly_parse field.descriptor) fun type => ?_
  cases Value.default? type with
  | some value => exact errsOnly_ok _
  | none => exact errsOnly_ok _

theorem backs_default {type : FieldType} {value : Value} (default : Value.default? type = some value)
    (heap : Heap) : heap.Backs value := by
  cases type <;> cases default <;> trivial

theorem foldlM_preserves {ε α β : Type} {f : β → α → Except ε β} {P : β → Prop}
    (each : ∀ acc item next, P acc → f acc item = .ok next → P next) {items : List α} {acc last : β}
    (holds : P acc) (run : items.foldlM f acc = .ok last) : P last := by
  induction items generalizing acc with
  | nil =>
    cases run
    exact holds
  | cons item items ih =>
    rw [List.foldlM_cons] at run
    obtain ⟨next, first, rest⟩ := except_bind_ok.1 run
    exact ih (each acc item next holds first) rest

/-- Default values are no references. -/
theorem backs_defaultFields {static : Bool} {fields : List Member} {values : Fields}
    (made : defaultFields static fields = .ok values) (heap : Heap) (className : String) :
    heap.FieldsBacked (.instanceOf className values) := by
  refine foldlM_preserves (P := fun kept => heap.FieldsBacked (.instanceOf className kept)) ?_
    (fun _ _ member => (List.not_mem_nil member).elim) made
  intro start field next backed first
  obtain ⟨type, _, chosen⟩ := except_bind_ok.1 first
  cases default : Value.default? type with
  | none =>
    rw [default] at chosen
    cases chosen
    exact backed
  | some value =>
    rw [default] at chosen
    cases chosen
    intro key stored member
    rcases Fields.mem_set member with rfl | kept
    · exact backs_default default heap
    · exact backed key stored kept

theorem conducts_makeStatics {className : String} {fields : Fields}
    (absent : a.shared.statics? className = none)
    (backed : a.shared.heap.FieldsBacked (.instanceOf className fields)) :
    Conducts delivers (makeStatics className fields) a fun address b =>
      b.shared.heap.HoldsInstance address className := by
  refine conducts_bind (conducts_allocate backed) fun address b _ made => ?_
  have stillAbsent : b.shared.statics? className = none := by
    unfold Shared.statics?
    rw [made.2]
    exact absent
  refine conducts_bind_pure _ (conducts_register stillAbsent ⟨fields, made.1⟩) fun _ c _ same => ?_
  rw [same]
  exact ⟨fields, made.1⟩

theorem conducts_platformStatics (className : String) :
    Conducts delivers (onShared (Platform.statics className)) a fun fields b =>
      b.shared.heap.FieldsBacked (.instanceOf className fields) ∧
        b.shared.statics = a.shared.statics := by
  unfold Platform.statics
  by_cases system : className = Platform.systemClass
  · have plain (heap : Heap) (number : Int32) : heap.FieldsBacked (Platform.stream number) := by
      intro key value member
      cases List.mem_singleton.1 member
      trivial
    rw [if_pos system, onShared_bind]
    refine conducts_bind (conducts_allocate (plain _ 1)) fun out b _ madeOut => ?_
    rw [onShared_bind]
    refine conducts_bind (conducts_allocate (plain _ 2)) fun err c later madeErr => ?_
    refine conducts_pure ⟨?_, madeErr.2.trans madeOut.2⟩
    have outBacked : c.shared.heap.Backs (.reference out (Platform.stream 1).kind) :=
      Heap.Backs.evolves ⟨_, madeOut.1, rfl⟩ later.evolves
    intro name value member
    rcases List.mem_cons.1 member with first | others
    · cases first
      exact outBacked
    · cases List.mem_singleton.1 others
      exact ⟨_, madeErr.1, rfl⟩
  · rw [if_neg system]
    exact conducts_pure ⟨fun _ _ member => (List.not_mem_nil member).elim, rfl⟩

/-- A class is ready when its static instance is there; a call that has to come first takes no
arguments. -/
def Prepared (className : String) (preparation : Preparation) (b : Activation) : Prop :=
  match preparation with
  | .ready address => b.shared.heap.HoldsInstance address className
  | .pending call => b.shared.heap.BacksControl call

theorem conducts_prepareFirst {className : String}
    (absent : a.shared.statics? className = none) :
    Conducts delivers (prepareFirst className) a (Prepared className) := by
  have still {b : Activation} (same : b.shared.statics = a.shared.statics) :
      b.shared.statics? className = none := by
    unfold Shared.statics?
    rw [same]
    exact absent
  refine conducts_ite (fun _ => ?_) fun _ => ?_
  · refine conducts_bind (conducts_platformStatics className) fun fields b _ made => ?_
    exact conducts_bind_pure _ (conducts_makeStatics (still made.2) made.1) fun _ _ _ holds => holds
  · refine conducts_bind (conducts_load className) fun classFile b _ loaded => ?_
    refine conducts_bind (conducts_check (errsOnly_defaultFields true classFile.fields)) ?_
    rintro fields c _ ⟨made, rfl⟩
    refine conducts_bind (conducts_makeStatics (still loaded.1) (backs_defaultFields made _ _))
      fun address d _ holds => ?_
    refine conducts_bind (conducts_report _) fun _ e reported _ => ?_
    cases classFile.findMethod? initializerName initializerDescriptor with
    | none => exact conducts_pure (holds.evolves reported.evolves)
    | some methodIndex =>
      exact conducts_bind_pure _ conducts_restart fun _ _ _ _ _ member => nomatch member

theorem conducts_prepare (className : String) :
    Conducts delivers (prepare className) a (Prepared className) := by
  cases known : a.shared.statics? className with
  | none =>
    refine (conducts_prepareFirst known).congr ?_
    unfold prepare
    rw [known]
  | some address =>
    intro sound
    unfold prepare
    rw [known]
    exact ⟨.refl, sound.shared.statics className address (mem_of_lookup known)⟩

theorem conducts_resolveField (index : UInt16) :
    Conducts delivers (resolveField index) a fun _ b => b = a := by
  refine conducts_bind (conducts_pooled (Pool.errsOnly_fieldRef _ index)) ?_
  rintro field b _ ⟨_, rfl⟩
  exact conducts_bind_pure _ (conducts_check (FieldType.errsOnly_parse _)) fun _ _ _ same => same.2

theorem conducts_checkField (field : MemberRef) (type : FieldType) (value : Value) :
    Conducts delivers (checkField field type value) a fun _ b => b = a :=
  conducts_ite (fun _ => conducts_pure rfl) fun _ => conducts_throw id

theorem ordinary_missingField (field : MemberRef) : (missingField field).Ordinary := by
  unfold missingField
  split
  · trivial
  · trivial

theorem conducts_fetchField (field : MemberRef) (type : FieldType) {address : Nat}
    (there : a.shared.heap.Occupied address) :
    Conducts true (fetchField field type address) a fun _ _ => True := by
  intro sound
  have only := Heap.errsOnly_grounded there (Heap.errsOnly_getField _ address field.name)
  refine conducts_bind (conducts_asking only) ?_ sound
  rintro found b _ ⟨read, rfl⟩
  cases found with
  | none => exact conducts_throw (ordinary_missingField field).grounded
  | some value =>
    refine conducts_bind (conducts_checkField field type value) ?_
    rintro _ c _ rfl
    exact conducts_push (Heap.backs_getField sound.shared.fields read)

theorem conducts_getstatic (index : UInt16) :
    Conducts true (getstatic index) a fun control b => b.shared.heap.BacksControl control := by
  refine conducts_bind (conducts_resolveField index) ?_
  rintro ⟨field, type⟩ b _ rfl
  refine conducts_bind (conducts_prepare field.className) fun preparation c _ prepared => ?_
  cases preparation with
  | pending call => exact conducts_pure prepared
  | ready address =>
    exact conducts_bind_pure _ (conducts_fetchField field type prepared.occupied) fun _ _ _ _ =>
      trivial

theorem conducts_putstatic (index : UInt16) :
    Conducts true (putstatic index) a fun control b => b.shared.heap.BacksControl control := by
  refine conducts_bind (conducts_resolveField index) ?_
  rintro ⟨field, type⟩ b _ rfl
  refine conducts_bind (conducts_prepare field.className) fun preparation c _ prepared => ?_
  cases preparation with
  | pending call => exact conducts_pure prepared
  | ready address =>
    refine conducts_bind conducts_pop fun value d popped backed => ?_
    refine conducts_bind (conducts_checkField field type value) ?_
    rintro _ e _ rfl
    have there := Heap.HoldsInstance.occupied (prepared.evolves popped.evolves)
    have only := Heap.errsOnly_grounded there (Heap.errsOnly_fields _ address)
    exact conducts_bind_pure _ (conducts_setField address field.name backed only) fun _ _ _ _ =>
      trivial

theorem conducts_getfield (index : UInt16) :
    Conducts true (getfield index) a fun control b => b.shared.heap.BacksControl control := by
  refine conducts_bind (conducts_resolveField index) ?_
  rintro ⟨field, type⟩ b _ rfl
  refine conducts_bind (conducts_popReference _) fun address c _ backed => ?_
  exact conducts_bind_pure _ (conducts_fetchField field type backed.occupied) fun _ _ _ _ => trivial

theorem conducts_putfield (index : UInt16) :
    Conducts true (putfield index) a fun control b => b.shared.heap.BacksControl control := by
  refine conducts_bind (conducts_resolveField index) ?_
  rintro ⟨field, type⟩ b _ rfl
  refine conducts_bind conducts_pop fun value c _ backed => ?_
  refine conducts_bind (conducts_popReference _) fun address d popped target => ?_
  refine conducts_bind (conducts_checkField field type value) ?_
  rintro _ e _ rfl
  have only := Heap.errsOnly_grounded target.occupied (Heap.errsOnly_fields _ address)
  exact conducts_bind_pure _ (conducts_setField address field.name (backed.evolves popped.evolves)
    only) fun _ _ _ _ => trivial

theorem conducts_makeInstance {className : String} {fields : Fields}
    (backed : a.shared.heap.FieldsBacked (.instanceOf className fields)) :
    Conducts true (makeInstance className fields) a fun _ _ => True := by
  refine conducts_bind (conducts_allocate backed) fun address b _ made => ?_
  refine conducts_bind (conducts_report _) fun _ c reported _ => ?_
  exact conducts_push (Heap.Backs.evolves ⟨_, made.1, rfl⟩ reported.evolves)

theorem conducts_new (index : UInt16) :
    Conducts true (new index) a fun control b => b.shared.heap.BacksControl control := by
  refine conducts_bind (conducts_pooled (Pool.errsOnly_className _ index)) ?_
  rintro className b _ ⟨_, rfl⟩
  refine conducts_ite (fun _ => ?_) fun _ => ?_
  · have bare : b.shared.heap.FieldsBacked (.instanceOf className []) :=
      fun _ _ member => nomatch member
    exact conducts_bind_pure _ (conducts_makeInstance bare) fun _ _ _ _ => trivial
  · refine conducts_bind (conducts_prepare className) fun preparation c _ prepared => ?_
    cases preparation with
    | pending call => exact conducts_pure prepared
    | ready address =>
      refine conducts_bind (conducts_load className) fun classFile d _ _ => ?_
      refine conducts_bind (conducts_check (errsOnly_defaultFields false classFile.fields)) ?_
      rintro fields e _ ⟨made, rfl⟩
      exact conducts_bind_pure _ (conducts_makeInstance (backs_defaultFields made _ _))
        fun _ _ _ _ => trivial

end Exec

end MiniJvm
