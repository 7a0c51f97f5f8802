import MiniJvm.Machine.Run

/-!
References and the objects they point to. A reference is backed when its address holds an object of the
kind that its tag states. Objects change only in their contents, so a reference that is backed once stays
backed, whatever is added to the heap or stored in it.
-/

namespace MiniJvm

/-- What an object may turn into: elements and field values change; kind, length and class do not. -/
def HeapObject.Becomes : HeapObject → HeapObject → Prop
  | .ints old, new => ∃ values, new = .ints values ∧ values.size = old.size
  | .chars old, new => ∃ units, new = .chars units ∧ units.size = old.size
  | .str text, new => new = .str text
  | .instanceOf className _, new => ∃ fields, new = .instanceOf className fields

namespace HeapObject

theorem becomes_refl (object : HeapObject) : object.Becomes object := by
  cases object with
  | ints values => exact ⟨values, rfl, rfl⟩
  | chars units => exact ⟨units, rfl, rfl⟩
  | str text => rfl
  | instanceOf className fields => exact ⟨fields, rfl⟩

theorem Becomes.trans {first second third : HeapObject} (early : first.Becomes second)
    (late : second.Becomes third) : first.Becomes third := by
  cases first with
  | ints values =>
    obtain ⟨middle, rfl, sameSize⟩ := early
    obtain ⟨last, rfl, stillSame⟩ := late
    exact ⟨last, rfl, stillSame.trans sameSize⟩
  | chars units =>
    obtain ⟨middle, rfl, sameSize⟩ := early
    obtain ⟨last, rfl, stillSame⟩ := late
    exact ⟨last, rfl, stillSame.trans sameSize⟩
  | str text =>
    cases early
    exact late
  | instanceOf className fields =>
    obtain ⟨middle, rfl⟩ := early
    exact late

theorem Becomes.kind {old new : HeapObject} (change : old.Becomes new) : new.kind = old.kind := by
  cases old with
  | ints values => obtain ⟨_, rfl, _⟩ := change; rfl
  | chars units => obtain ⟨_, rfl, _⟩ := change; rfl
  | str text => cases change; rfl
  | instanceOf className fields => obtain ⟨_, rfl⟩ := change; rfl

end HeapObject

namespace Heap

/-- Every object of the old heap is still at its address in the new one. -/
def Evolves (old new : Heap) : Prop :=
  ∀ (address : Nat) (object : HeapObject), old.objects[address]? = some object →
    ∃ later, new.objects[address]? = some later ∧ object.Becomes later

theorem evolves_refl (heap : Heap) : heap.Evolves heap :=
  fun _ object found => ⟨object, found, object.becomes_refl⟩

theorem Evolves.trans {first second third : Heap} (early : first.Evolves second)
    (late : second.Evolves third) : first.Evolves third := by
  intro address object found
  obtain ⟨middle, foundMiddle, toMiddle⟩ := early address object found
  obtain ⟨last, foundLast, toLast⟩ := late address middle foundMiddle
  exact ⟨last, foundLast, toMiddle.trans toLast⟩

theorem getElem?_push_lt {heap : Heap} {address : Nat} {object found : HeapObject}
    (there : heap.objects[address]? = some found) :
    (heap.push object).objects[address]? = some found := by
  obtain ⟨inside, _⟩ := Array.getElem?_eq_some_iff.1 there
  simp only [push, Array.getElem?_push, Nat.ne_of_lt inside, if_false, there]

@[simp] theorem getElem?_push_size (heap : Heap) (object : HeapObject) :
    (heap.push object).objects[heap.size]? = some object := by
  simp [push, size]

theorem getElem?_push_cases {heap : Heap} {address : Nat} {object found : HeapObject}
    (there : (heap.push object).objects[address]? = some found) :
    heap.objects[address]? = some found ∨ found = object := by
  by_cases last : address = heap.objects.size
  · simp only [push, Array.getElem?_push, if_pos last, Option.some.injEq] at there
    exact .inr there.symm
  · simp only [push, Array.getElem?_push, if_neg last] at there
    exact .inl there

theorem getElem?_modify_cases {objects : Array HeapObject} {address other : Nat}
    {change : HeapObject → HeapObject} {found : HeapObject}
    (there : (objects.modify address change)[other]? = some found) :
    objects[other]? = some found ∨ ∃ old, objects[other]? = some old ∧ found = change old := by
  by_cases here : address = other
  · simp only [Array.getElem?_modify, if_pos here, Option.map_eq_some_iff] at there
    obtain ⟨old, before, rfl⟩ := there
    exact .inr ⟨old, before, rfl⟩
  · simp only [Array.getElem?_modify, if_neg here] at there
    exact .inl there

theorem evolves_push (heap : Heap) (object : HeapObject) : heap.Evolves (heap.push object) :=
  fun _ found there => ⟨found, getElem?_push_lt there, found.becomes_refl⟩

theorem evolves_modify (heap : Heap) (address : Nat) {change : HeapObject → HeapObject}
    (tame : ∀ object : HeapObject, object.Becomes (change object)) :
    heap.Evolves ⟨heap.objects.modify address change⟩ := by
  intro other object found
  by_cases here : address = other
  · exact ⟨change object, by simp [Array.getElem?_modify, here, found], tame object⟩
  · exact ⟨object, by simp [Array.getElem?_modify, here, found], object.becomes_refl⟩

theorem evolves_setField (heap : Heap) (address : Nat) (name : String) (value : Value) :
    heap.Evolves (heap.setField address name value) := by
  refine heap.evolves_modify address fun object => ?_
  cases object with
  | instanceOf className fields => exact ⟨_, rfl⟩
  | ints values => exact HeapObject.becomes_refl _
  | chars units => exact HeapObject.becomes_refl _
  | str text => exact HeapObject.becomes_refl _

theorem evolves_setInt (heap : Heap) (address index : Nat) (value : Int32) :
    heap.Evolves (heap.setInt address index value) := by
  refine heap.evolves_modify address fun object => ?_
  cases object with
  | ints values => exact ⟨_, rfl, Array.size_setIfInBounds⟩
  | chars units => exact HeapObject.becomes_refl _
  | str text => exact HeapObject.becomes_refl _
  | instanceOf className fields => exact HeapObject.becomes_refl _

theorem evolves_setChar (heap : Heap) (address index : Nat) (unit : UInt16) :
    heap.Evolves (heap.setChar address index unit) := by
  refine heap.evolves_modify address fun object => ?_
  cases object with
  | chars units => exact ⟨_, rfl, Array.size_setIfInBounds⟩
  | ints values => exact HeapObject.becomes_refl _
  | str text => exact HeapObject.becomes_refl _
  | instanceOf className fields => exact HeapObject.becomes_refl _

/-- A reference is backed by an object of the kind its tag states. Other values need no backing. -/
def Backs (heap : Heap) : Value → Prop
  | .reference address tag =>
    ∃ object, heap.objects[address]? = some object ∧ object.kind = tag
  | _ => True

theorem Backs.evolves {old new : Heap} {value : Value} (backed : old.Backs value)
    (change : old.Evolves new) : new.Backs value := by
  cases value with
  | reference address tag =>
    obtain ⟨object, found, sameKind⟩ := backed
    obtain ⟨later, foundLater, becomes⟩ := change address object found
    exact ⟨later, foundLater, becomes.kind.trans sameKind⟩
  | int value => trivial
  | boolean value => trivial
  | char unit => trivial

/-- An address holds an instance of a class. -/
def HoldsInstance (heap : Heap) (address : Nat) (className : String) : Prop :=
  ∃ fields, heap.objects[address]? = some (.instanceOf className fields)

theorem HoldsInstance.evolves {old new : Heap} {address : Nat} {className : String}
    (holds : old.HoldsInstance address className) (change : old.Evolves new) :
    new.HoldsInstance address className := by
  obtain ⟨fields, found⟩ := holds
  obtain ⟨later, foundLater, newFields, rfl⟩ := change address _ found
  exact ⟨newFields, foundLater⟩

/-- Every value in a field of an instance is backed. -/
def FieldsBacked (heap : Heap) : HeapObject → Prop
  | .instanceOf _ fields => ∀ name value, (name, value) ∈ fields → heap.Backs value
  | _ => True

theorem FieldsBacked.evolves {old new : Heap} {object : HeapObject}
    (backed : old.FieldsBacked object) (change : old.Evolves new) : new.FieldsBacked object := by
  cases object with
  | instanceOf className fields =>
    intro name value member
    exact (backed name value member).evolves change
  | ints values => trivial
  | chars units => trivial
  | str text => trivial

end Heap

theorem mem_of_lookup {α : Type} {entries : List (String × α)} {key : String} {value : α}
    (found : entries.lookup key = some value) : (key, value) ∈ entries := by
  obtain ⟨before, after, rfl, _⟩ := List.lookup_eq_some_iff.1 found
  simp

theorem Fields.mem_set {fields : Fields} {name key : String} {value stored : Value}
    (member : (key, stored) ∈ Fields.set fields name value) :
    stored = value ∨ (key, stored) ∈ fields := by
  induction fields with
  | nil =>
    simp only [Fields.set, List.mem_singleton, Prod.mk.injEq] at member
    exact .inl member.2
  | cons head rest ih =>
    obtain ⟨label, old⟩ := head
    by_cases here : label = name
    · simp only [Fields.set, if_pos here, List.mem_cons, Prod.mk.injEq] at member ⊢
      exact member.imp (·.2) .inr
    · simp only [Fields.set, if_neg here, List.mem_cons] at member ⊢
      rcases member with first | later
      · exact .inr (.inl first)
      · exact (ih later).imp_right .inr

/-- All references that the shared state keeps are backed: those in fields, and those to the instances
that hold static fields, of which each class has at most one. -/
structure Shared.Sound (shared : Shared) : Prop where
  fields : ∀ (address : Nat) (object : HeapObject), shared.heap.objects[address]? = some object →
    shared.heap.FieldsBacked object
  statics : ∀ name address, (name, address) ∈ shared.statics →
    shared.heap.HoldsInstance address name
  once : (shared.statics.map Prod.fst).Nodup

/-- All references that a frame keeps are backed. -/
structure Frame.Sound (heap : Heap) (frame : Frame) : Prop where
  stack : ∀ value ∈ frame.stack, heap.Backs value
  locals : ∀ value, some value ∈ frame.locals → heap.Backs value

theorem Frame.Sound.evolves {old new : Heap} {frame : Frame} (sound : frame.Sound old)
    (change : old.Evolves new) : frame.Sound new where
  stack := fun value member => (sound.stack value member).evolves change
  locals := fun value member => (sound.locals value member).evolves change

structure Activation.Sound (activation : Activation) : Prop where
  frame : activation.frame.Sound activation.shared.heap
  shared : activation.shared.Sound

structure Machine.Sound (machine : Machine) : Prop where
  frames : ∀ frame ∈ machine.frames, frame.Sound machine.shared.heap
  shared : machine.shared.Sound

end MiniJvm
