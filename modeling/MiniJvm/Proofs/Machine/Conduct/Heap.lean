import MiniJvm.Proofs.Machine.Conduct.Shared

/-!
Why a question about the heap may have no answer: nothing is at the address, or something else than what was
asked for. Where an object is known to be, only the second is left.
-/

namespace MiniJvm

open Effect

namespace Heap

variable {heap : Heap} {address : Nat}

/-- There is an object at an address. -/
def Occupied (heap : Heap) (address : Nat) : Prop :=
  ∃ object, heap.objects[address]? = some object

theorem Backs.occupied {tag : String} (backed : heap.Backs (.reference address tag)) :
    heap.Occupied address :=
  let ⟨object, found, _⟩ := backed
  ⟨object, found⟩

theorem HoldsInstance.occupied {className : String} (holds : heap.HoldsInstance address className) :
    heap.Occupied address :=
  let ⟨_, found⟩ := holds
  ⟨_, found⟩

/-- Why a question about an address may have no answer: there is nothing at the address, or there is
something else than what was asked for. -/
def Refuses (heap : Heap) (address : Nat) (fault : Fault) : Prop :=
  (fault = .invalidReference address ∧ ¬ heap.Occupied address) ∨ fault.Ordinary

theorem Refuses.not_stray {fault : Fault} (refuses : heap.Refuses address fault) :
    ¬ fault.IsStray := by
  rcases refuses with ⟨rfl, _⟩ | ordinary
  · exact id
  · exact ordinary.not_stray

theorem errsOnly_grounded {α : Type} {result : Except Fault α} (there : heap.Occupied address)
    (only : ErrsOnly (heap.Refuses address) result) : ErrsOnly Fault.Grounded result := by
  intro fault failed
  rcases only failed with ⟨_, nothing⟩ | ordinary
  · exact absurd there nothing
  · exact ordinary.grounded

theorem errsOnly_mismatch {α : Type} (expected : String) (found : HeapObject) :
    ErrsOnly (heap.Refuses address) (mismatch expected found : Except Fault α) :=
  errsOnly_error (.inr trivial)

theorem errsOnly_get (heap : Heap) (address : Nat) :
    ErrsOnly (heap.Refuses address) (heap.get address) := by
  unfold get
  split
  · exact errsOnly_ok _
  next nothing =>
    refine errsOnly_error (.inl ⟨rfl, fun ⟨object, found⟩ => ?_⟩)
    rw [nothing] at found
    cases found

theorem errsOnly_string (heap : Heap) (address : Nat) :
    ErrsOnly (heap.Refuses address) (heap.string address) := by
  refine errsOnly_bind (errsOnly_get heap address) fun object => ?_
  cases object with
  | str text => exact errsOnly_ok text
  | _ => exact errsOnly_mismatch _ _

theorem errsOnly_ints (heap : Heap) (address : Nat) :
    ErrsOnly (heap.Refuses address) (heap.ints address) := by
  refine errsOnly_bind (errsOnly_get heap address) fun object => ?_
  cases object with
  | ints values => exact errsOnly_ok values
  | _ => exact errsOnly_mismatch _ _

theorem errsOnly_chars (heap : Heap) (address : Nat) :
    ErrsOnly (heap.Refuses address) (heap.chars address) := by
  refine errsOnly_bind (errsOnly_get heap address) fun object => ?_
  cases object with
  | chars units => exact errsOnly_ok units
  | _ => exact errsOnly_mismatch _ _

theorem errsOnly_arrayLength (heap : Heap) (address : Nat) :
    ErrsOnly (heap.Refuses address) (heap.arrayLength address) := by
  refine errsOnly_bind (errsOnly_get heap address) fun object => ?_
  cases object with
  | ints values => exact errsOnly_ok _
  | chars units => exact errsOnly_ok _
  | _ => exact errsOnly_mismatch _ _

theorem errsOnly_fields (heap : Heap) (address : Nat) :
    ErrsOnly (heap.Refuses address) (heap.fields address) := by
  refine errsOnly_bind (errsOnly_get heap address) fun object => ?_
  cases object with
  | instanceOf className fields => exact errsOnly_ok fields
  | _ => exact errsOnly_mismatch _ _

theorem errsOnly_getField (heap : Heap) (address : Nat) (name : String) :
    ErrsOnly (heap.Refuses address) (heap.getField address name) :=
  errsOnly_bind (errsOnly_fields heap address) fun _ => errsOnly_ok _

theorem errsOnly_elementIndex (index : Int32) (length : Nat) :
    ErrsOnly (heap.Refuses address) (elementIndex index length) := by
  unfold elementIndex
  split
  · exact errsOnly_ok _
  · exact errsOnly_error (.inr trivial)

theorem errsOnly_getInt (heap : Heap) (address : Nat) (index : Int32) :
    ErrsOnly (heap.Refuses address) (heap.getInt address index) :=
  errsOnly_bind (errsOnly_ints heap address) fun _ =>
    errsOnly_bind (errsOnly_elementIndex index _) fun _ => errsOnly_ok _

theorem errsOnly_getChar (heap : Heap) (address : Nat) (index : Int32) :
    ErrsOnly (heap.Refuses address) (heap.getChar address index) :=
  errsOnly_bind (errsOnly_chars heap address) fun _ =>
    errsOnly_bind (errsOnly_elementIndex index _) fun _ => errsOnly_ok _

theorem errsOnly_intSlot (heap : Heap) (address : Nat) (index : Int32) :
    ErrsOnly (heap.Refuses address) (heap.intSlot address index) :=
  errsOnly_bind (errsOnly_ints heap address) fun _ =>
    errsOnly_bind (errsOnly_elementIndex index _) fun _ => errsOnly_ok _

theorem errsOnly_charSlot (heap : Heap) (address : Nat) (index : Int32) :
    ErrsOnly (heap.Refuses address) (heap.charSlot address index) :=
  errsOnly_bind (errsOnly_chars heap address) fun _ =>
    errsOnly_bind (errsOnly_elementIndex index _) fun _ => errsOnly_ok _

theorem errsOnly_displayReference (heap : Heap) (address : Nat) (tag : String) :
    ErrsOnly (heap.Refuses address) (heap.display (.reference address tag)) := by
  refine errsOnly_bind (errsOnly_get heap address) fun object => ?_
  cases object with
  | str text => exact errsOnly_ok text
  | chars units => exact errsOnly_ok _
  | _ => exact errsOnly_error (.inr trivial)

theorem errsOnly_display {value : Value} (backed : heap.Backs value) :
    ErrsOnly Fault.Grounded (heap.display value) := by
  cases value with
  | reference address tag =>
    exact errsOnly_grounded backed.occupied (errsOnly_displayReference heap address tag)
  | _ => exact errsOnly_ok _

/-- The value that is read from a field is backed. -/
theorem backs_getField {name : String} {value : Value}
    (sound : ∀ (address : Nat) (object : HeapObject), heap.objects[address]? = some object →
      heap.FieldsBacked object)
    (read : heap.getField address name = .ok (some value)) : heap.Backs value := by
  unfold getField fields get at read
  cases found : heap.objects[address]? with
  | none => simp [found, bind, Except.bind] at read
  | some object =>
    rw [found] at read
    cases object with
    | instanceOf className fields =>
      have stored : fields.lookup name = some value := Except.ok.inj read
      exact sound address _ found name value (mem_of_lookup stored)
    | _ => simp [bind, Except.bind, mismatch] at read

end Heap

end MiniJvm
