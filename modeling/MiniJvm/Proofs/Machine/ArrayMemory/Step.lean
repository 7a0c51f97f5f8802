import MiniJvm.Proofs.Machine.ArrayMemory.Execution
import MiniJvm.Proofs.Machine.Footprint

/-!
Single steps on arrays. A store of its kind that succeeds sets one element of one array, and no other step
changes an array.
-/

namespace MiniJvm

open Effect

namespace Machine

open Exec

/-- The value of a store with these operands into an element of an array. -/
def storing? (address slot : Nat) : List Value → Option Int32
  | value :: index :: .reference array _ :: _ =>
    if array = address ∧ index.toInt?.map Int32.toInt = some (slot : Int) then value.toInt? else none
  | _ => none

def StoresNext (kind : ArrayKind) (machine : Machine) : Prop :=
  machine.next? = some kind.store ∧ value? (step machine) = some ()

instance (kind : ArrayKind) (machine : Machine) : Decidable (machine.StoresNext kind) :=
  inferInstanceAs (Decidable (_ ∧ _))

/-- What the next step stores into an element of an array. Stores that fail do not count. -/
def stored? (kind : ArrayKind) (address slot : Nat) (machine : Machine) : Option Int32 :=
  if machine.StoresNext kind then storing? address slot machine.stack else none

variable {machine : Machine} {kind : ArrayKind} {address slot : Nat} {old middle new : List Value}
  {instr : Instr}

theorem storing?_eq {value index : Value} {int position : Int32} {array place : Nat} {tag : String}
    {rest : List Value} (seen : value.toInt? = some int) (indexed : index.toInt? = some position)
    (here : position.toInt = (place : Int)) (address slot : Nat) :
    storing? address slot (value :: index :: .reference array tag :: rest) =
      if address = array ∧ slot = place then some int else none := by
  unfold storing?
  dsimp only
  rw [seen, indexed, Option.map_some, here]
  simp only [Option.some.injEq, Int.natCast_inj, eq_comm]

theorem step_stores (stores : machine.StoresNext kind) :
    ∃ array place int elements, machine.shared.heap.array? array = some (kind, elements) ∧
      place < elements.length ∧
      (∀ address slot, stored? kind address slot machine =
        if address = array ∧ slot = place then some int else none) ∧
      ∀ address, (final (step machine)).shared.heap.array? address =
        if address = array then some (kind, elements.set place (kind.kept int))
        else machine.shared.heap.array? address := by
  obtain ⟨a, b, sameStack, sameHeap, done, _, sameShared⟩ :=
    step_of_ends stores.1 (eq_ok_of_value? stores.2) fun a => ends_stores kind trivial
  obtain @⟨value, index, int, position, array, rest, shape, seen, indexed, sets⟩ := done
  rw [sameHeap, ← sameShared] at sets
  obtain @⟨place, elements, there, here, inside, arrays⟩ := sets
  refine ⟨array, place, int, elements, there, inside, fun address slot => ?_, arrays⟩
  rw [stored?, if_pos stores, ← sameStack, shape, storing?_eq seen indexed here]

/-- The elements where something has been written hold it, and the others are as before. -/
structure Overwritten (kind : ArrayKind) (written : Nat → Option Int32) (old new : List Value) : Prop where
  length : new.length = old.length
  elements : ∀ slot < old.length, new[slot]? = ((written slot).map kind.kept).or old[slot]?

theorem overwritten_refl (kind : ArrayKind) {written : Nat → Option Int32}
    (unwritten : ∀ slot, written slot = none) (elements : List Value) :
    Overwritten kind written elements elements where
  length := rfl
  elements := by
    intro slot _
    rw [unwritten slot]
    rfl

theorem Overwritten.trans {first second : Nat → Option Int32} (early : Overwritten kind first old middle)
    (late : Overwritten kind second middle new) :
    Overwritten kind (fun slot => (second slot).or (first slot)) old new where
  length := late.length.trans early.length
  elements := by
    intro slot inside
    rw [late.elements slot (early.length.symm ▸ inside), early.elements slot inside, Option.map_or,
      Option.or_assoc]

/-- Only a store of its kind that succeeds changes an array. -/
theorem step_array?_same (there : machine.shared.heap.array? address = some (kind, old))
    (other : ¬ machine.StoresNext kind) :
    (final (step machine)).shared.heap.array? address = some (kind, old) := by
  obtain ⟨object, found, shown⟩ := Option.bind_eq_some_iff.1 there
  refine Option.bind_eq_some_iff.2 ⟨object, ?_, shown⟩
  rcases footprint_step machine with ⟨_, same⟩ | ⟨instr, a, about, ⟨_, same⟩, footprint⟩
  · rw [same]
    exact found
  · have objects := footprint.objects
    rw [same] at objects
    cases objects with
    | kept keeps => exact keeps address object found
    | @rewritten changed before after done rewrites here _ others =>
      refine others address object ?_ found
      rintro rfl
      cases found.symm.trans here
      have next := about.next?
      have succeeds : value? (step machine) = some () := by
        rw [done]
        rfl
      cases rewrites with
      | ints _ _ _ =>
        cases shown
        exact other ⟨next, succeeds⟩
      | chars _ _ _ =>
        cases shown
        exact other ⟨next, succeeds⟩
      | field _ _ _ _ => cases shown

theorem step_overwrites (there : machine.shared.heap.array? address = some (kind, old)) :
    ∃ new, (final (step machine)).shared.heap.array? address = some (kind, new) ∧
      Overwritten kind (fun slot => stored? kind address slot machine) old new := by
  by_cases stores : machine.StoresNext kind
  · obtain ⟨array, place, int, elements, holds, inside, stored, arrays⟩ := step_stores stores
    by_cases same : address = array
    -- The store is into this array, or into another one.
    · subst same
      cases there.symm.trans holds
      refine ⟨old.set place (kind.kept int), by rw [arrays, if_pos rfl], List.length_set, ?_⟩
      intro slot within
      rw [stored, List.getElem?_set]
      by_cases this : slot = place
      · subst this
        simp [inside]
      · simp [this, Ne.symm this]
    · refine ⟨old, by rw [arrays, if_neg same]; exact there, overwritten_refl kind ?_ old⟩
      intro slot
      rw [stored, if_neg fun both => same both.1]
  · exact ⟨old, step_array?_same there stores, overwritten_refl kind (fun slot => if_neg stores) old⟩

theorem stored?_absent (absent : machine.shared.heap.array? address = none) :
    stored? kind address slot machine = none := by
  by_cases stores : machine.StoresNext kind
  · obtain ⟨array, place, int, elements, holds, _, stored, _⟩ := step_stores stores
    rw [stored, if_neg]
    rintro ⟨rfl, _⟩
    rw [absent] at holds
    cases holds
  · exact if_neg stores

theorem step_length {tag : String} {rest : List Value}
    (there : machine.shared.heap.array? address = some (kind, old))
    (next : machine.next? = some .arraylength) (shape : machine.stack = .reference address tag :: rest) :
    ∃ measured, step machine = .ok () measured ∧
      measured.stack = .int (Int32.ofNat old.length) :: rest := by
  obtain ⟨top, below, a, running, read, sameStack, sameHeap⟩ := decoded_of_next? next
  have ran := arraylength_eq (sameStack.trans shape)
  rw [sameHeap, Heap.arrayLength_eq there] at ran
  exact ⟨_, step_proceeds running read ran, rfl⟩

theorem step_load {operand : Value} {index : Int32} {rest : List Value}
    (there : machine.shared.heap.array? address = some (kind, old))
    (next : machine.next? = some kind.load)
    (shape : machine.stack = operand :: .reference address kind.tag :: rest)
    (seen : operand.toInt? = some index) :
    match Heap.at? old index with
    | some value => ∃ loaded, step machine = .ok () loaded ∧ loaded.stack = value :: rest
    | none => ∃ failed, step machine = .error (.arrayIndexOutOfBounds index old.length) failed := by
  obtain ⟨top, below, a, running, read, sameStack, sameHeap⟩ := decoded_of_next? next
  have ran := load_eq kind (sameStack.trans shape) seen
  rw [sameHeap, Heap.element_eq there] at ran
  cases found : Heap.at? old index with
  | some value =>
    rw [found] at ran
    exact ⟨_, step_proceeds running read ran, rfl⟩
  | none =>
    rw [found] at ran
    obtain ⟨frames, shared⟩ := machine
    cases running
    rw [step_decoded read, ran]
    exact ⟨_, rfl⟩

theorem step_makes {code : UInt8} {made : Machine} (next : machine.next? = some (.newarray code))
    (ran : step machine = .ok () made) :
    ∃ operand count rest kind, machine.stack = operand :: rest ∧ operand.toInt? = some count ∧
      0 ≤ count.toInt ∧ code = ArrayKind.code kind ∧
      made.stack = .reference machine.shared.heap.size kind.tag :: rest ∧
      made.shared.heap.array? machine.shared.heap.size =
        some (kind, List.replicate count.toInt.toNat (kind.kept 0)) := by
  obtain ⟨a, b, sameStack, sameHeap, done, lastStack, sameShared⟩ :=
    step_of_ends next ran fun a => ends_makes code trivial
  obtain ⟨shape, counts, nonnegative, coded, pushes, there⟩ := done
  rw [sameStack] at shape
  rw [sameHeap] at pushes there
  rw [← sameShared] at there
  exact ⟨_, _, _, _, shape, counts, nonnegative, coded, lastStack.trans pushes, there⟩

end Machine

end MiniJvm
