import Mathlib.Logic.Relation
import MiniJvm.Proofs.Machine.References

/-!
The elementary changes that an instruction makes, one after the other. Some prepare its result: they
read operands, pop values, add objects, classes and static instances. The others deliver it: they push,
store or print. An instruction that fails has only prepared.

Every elementary change keeps all references backed, keeps the objects of the heap in their places and
adds to the static instances without touching those that are there.
-/

namespace MiniJvm

open Relation

namespace Activation

/-- One elementary change. Changes that deliver a result need `delivers`. -/
inductive Change : (delivers : Bool) → Activation → Activation → Prop
  | move {delivers} {a : Activation} (code : Cursor) (same : code.bytes = a.frame.code.bytes) :
      Change delivers a { a with frame := { a.frame with code } }
  | begin {delivers} {a : Activation} :
      Change delivers a { a with frame := { a.frame with start := a.frame.pc } }
  | pop {delivers} {a : Activation} (value : Value) (stack : List Value)
      (top : a.frame.stack = value :: stack) :
      Change delivers a { a with frame := { a.frame with stack } }
  | report {delivers} {a : Activation} (log : Log) :
      Change delivers a { a with shared := { a.shared with log } }
  | allocate {delivers} {a : Activation} (object : HeapObject)
      (backed : a.shared.heap.FieldsBacked object) :
      Change delivers a { a with shared := { a.shared with heap := a.shared.heap.push object } }
  | addClass {delivers} {a : Activation} (found : ClassFile)
      (absent : a.shared.findClass? found.name = none) :
      Change delivers a
        { a with shared := { a.shared with classes := a.shared.classes ++ [found] } }
  | register {delivers} {a : Activation} (name : String) (address : Nat)
      (absent : a.shared.statics? name = none) (holds : a.shared.heap.HoldsInstance address name) :
      Change delivers a
        { a with shared := { a.shared with statics := a.shared.statics ++ [(name, address)] } }
  | push {a : Activation} (value : Value) (backed : a.shared.heap.Backs value) :
      Change true a { a with frame := { a.frame with stack := value :: a.frame.stack } }
  | setLocal {a : Activation} (index : Nat) (value : Value) (backed : a.shared.heap.Backs value) :
      Change true a
        { a with frame := { a.frame with locals := a.frame.locals.set index (some value) } }
  | setField {a : Activation} (address : Nat) (name : String) (value : Value)
      (backed : a.shared.heap.Backs value) :
      Change true a
        { a with shared := { a.shared with heap := a.shared.heap.setField address name value } }
  | setInt {a : Activation} (address index : Nat) (value : Int32) :
      Change true a
        { a with shared := { a.shared with heap := a.shared.heap.setInt address index value } }
  | setChar {a : Activation} (address index : Nat) (unit : UInt16) :
      Change true a
        { a with shared := { a.shared with heap := a.shared.heap.setChar address index unit } }
  | print {a : Activation} (text : String) :
      Change true a { a with shared := { a.shared with output := a.shared.output.append text } }
  | printError {a : Activation} (text : String) :
      Change true a { a with shared := { a.shared with errors := a.shared.errors ++ text } }

abbrev Changes (delivers : Bool) : Activation → Activation → Prop :=
  ReflTransGen (Change delivers)

variable {delivers : Bool} {a b c : Activation}

/-- Preparing changes may come in the course of any others. -/
theorem Change.relax (change : Change false a b) : Change delivers a b := by
  cases change with
  | move code same => exact .move code same
  | begin => exact .begin
  | pop value stack top => exact .pop value stack top
  | report log => exact .report log
  | allocate object backed => exact .allocate object backed
  | addClass found absent => exact .addClass found absent
  | register name address absent holds => exact .register name address absent holds

theorem Changes.relax (changes : Changes false a b) : Changes delivers a b :=
  changes.lift id fun _ _ => Change.relax

theorem Change.evolves (change : Change delivers a b) : a.shared.heap.Evolves b.shared.heap := by
  cases change with
  | allocate object backed => exact Heap.evolves_push _ object
  | setField address name value backed => exact Heap.evolves_setField _ address name value
  | setInt address index value => exact Heap.evolves_setInt _ address index value
  | setChar address index unit => exact Heap.evolves_setChar _ address index unit
  | _ => exact Heap.evolves_refl _

theorem Changes.evolves (changes : Changes delivers a b) :
    a.shared.heap.Evolves b.shared.heap := by
  induction changes with
  | refl => exact Heap.evolves_refl _
  | tail _ last ih => exact ih.trans last.evolves

theorem Change.statics (change : Change delivers a b) :
    b.shared.statics = a.shared.statics ∨ ∃ name address, a.shared.statics? name = none ∧
      b.shared.statics = a.shared.statics ++ [(name, address)] := by
  cases change with
  | register name address absent holds => exact .inr ⟨name, address, absent, rfl⟩
  | _ => exact .inl rfl

theorem Change.fieldsBacked (change : Change delivers a b)
    (backed : ∀ (address : Nat) (object : HeapObject),
      a.shared.heap.objects[address]? = some object → a.shared.heap.FieldsBacked object)
    (address : Nat) (object : HeapObject) (found : b.shared.heap.objects[address]? = some object) :
    b.shared.heap.FieldsBacked object := by
  have evolves := change.evolves
  cases change with
  | allocate added backedAdded =>
    rcases Heap.getElem?_push_cases found with old | rfl
    · exact (backed address object old).evolves evolves
    · exact backedAdded.evolves evolves
  | setField place name value backedValue =>
    rcases Heap.getElem?_modify_cases found with old | ⟨old, there, rfl⟩
    · exact (backed address object old).evolves evolves
    · have before := (backed address old there).evolves evolves
      cases old with
      | instanceOf className fields =>
        intro key stored member
        rcases Fields.mem_set member with rfl | kept
        · exact backedValue.evolves evolves
        · exact before key stored kept
      | _ => trivial
  | setInt place index value =>
    rcases Heap.getElem?_modify_cases found with old | ⟨old, there, rfl⟩
    · exact (backed address object old).evolves evolves
    · cases old with
      | instanceOf className fields => exact (backed address _ there).evolves evolves
      | _ => trivial
  | setChar place index unit =>
    rcases Heap.getElem?_modify_cases found with old | ⟨old, there, rfl⟩
    · exact (backed address object old).evolves evolves
    · cases old with
      | instanceOf className fields => exact (backed address _ there).evolves evolves
      | _ => trivial
  | _ => exact backed address object found

theorem Change.frameSound (change : Change delivers a b) (sound : a.frame.Sound a.shared.heap) :
    b.frame.Sound b.shared.heap := by
  have still := sound.evolves change.evolves
  cases change with
  | pop value stack top =>
    exact ⟨fun v member => still.stack v (top ▸ List.mem_cons_of_mem value member), still.locals⟩
  | push value backed =>
    refine ⟨fun v member => ?_, still.locals⟩
    rcases List.mem_cons.1 member with rfl | below
    · exact backed
    · exact still.stack v below
  | setLocal index value backed =>
    refine ⟨still.stack, fun v member => ?_⟩
    rcases List.mem_or_eq_of_mem_set member with old | new
    · exact still.locals v old
    · cases new
      exact backed
  | _ => exact ⟨still.stack, still.locals⟩

theorem Change.staticsSound (change : Change delivers a b) (sound : a.shared.Sound) :
    ∀ name address, (name, address) ∈ b.shared.statics →
      b.shared.heap.HoldsInstance address name := by
  intro name address member
  have old (kept : (name, address) ∈ a.shared.statics) : b.shared.heap.HoldsInstance address name :=
    (sound.statics name address kept).evolves change.evolves
  cases change with
  | register other place absent holds =>
    rcases List.mem_append.1 member with kept | added
    · exact old kept
    · cases List.mem_singleton.1 added
      exact holds
  | _ => exact old member

theorem Change.once (change : Change delivers a b)
    (once : (a.shared.statics.map Prod.fst).Nodup) : (b.shared.statics.map Prod.fst).Nodup := by
  rcases change.statics with same | ⟨name, address, absent, added⟩
  · rwa [same]
  · rw [added, List.map_append]
    refine List.nodup_append.2 ⟨once, by simp, ?_⟩
    intro other member last here same
    cases same
    cases List.mem_singleton.1 here
    obtain ⟨⟨_, place⟩, there, rfl⟩ := List.mem_map.1 member
    have missing := List.lookup_eq_none_iff.1 absent (_, place) there
    simp at missing

/-- No change leaves a reference without the object it stands for. -/
theorem Change.sound (change : Change delivers a b) (sound : a.Sound) : b.Sound where
  frame := change.frameSound sound.frame
  shared :=
    { fields := change.fieldsBacked sound.shared.fields
      statics := change.staticsSound sound.shared
      once := change.once sound.shared.once }

theorem Changes.sound (changes : Changes delivers a b) (sound : a.Sound) : b.Sound := by
  induction changes with
  | refl => exact sound
  | tail _ last ih => exact last.sound ih

end Activation

end MiniJvm
