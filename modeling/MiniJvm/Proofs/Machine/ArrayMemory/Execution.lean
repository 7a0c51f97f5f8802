import MiniJvm.Proofs.Machine.ArrayMemory.Heap
import MiniJvm.Proofs.Machine.Execution.Shared

/-!
What the instructions on arrays do: making one, storing, loading and measuring.
-/

namespace MiniJvm

open Effect Activation

namespace Exec

variable {a b : Activation} {kind : ArrayKind}

inductive Stores (kind : ArrayKind) (a b : Activation) : Prop
  | intro {value index : Value} {int position : Int32} {address : Nat} {rest : List Value}
      (shape : a.frame.stack = value :: index :: .reference address kind.tag :: rest)
      (seen : value.toInt? = some int) (indexed : index.toInt? = some position)
      (sets : a.shared.heap.Sets kind address position int b.shared.heap)

/-- The operands of a store, from the top: a value, an index and an array. -/
theorem ends_storing {tag : String} {action : (array : Nat) → (index value : Int32) → Exec Unit}
    {post : Control → Activation → Prop} {stuck : Shared → Prop} (fails : stuck a.shared)
    (does : ∀ value index int position array rest,
      a.frame.stack = value :: index :: .reference array tag :: rest → value.toInt? = some int →
      index.toInt? = some position → Ends (action array position int) (a.withStack rest)
        (fun _ b => post .proceed b) stuck) :
    Ends (andProceed do
      let value ← popInt
      let index ← popInt
      let array ← popReference tag
      action array index value) a post stuck := by
  refine ends_andProceed (ends_bind (ends_popInt fails) ?_)
  rintro int _ ⟨value, below, seen, shape, rfl⟩
  refine ends_bind (ends_popInt fails) ?_
  rintro position _ ⟨index, below', indexed, shape', rfl⟩
  refine ends_bind (ends_popReference tag fails) ?_
  rintro array _ ⟨rest, shape'', rfl⟩
  cases shape'
  cases shape''
  exact does value index int position array rest shape seen indexed

theorem ends_stores (kind : ArrayKind) {stuck : Shared → Prop} (fails : stuck a.shared) :
    Ends (execute kind.store) a (fun control b => control = .proceed ∧ Stores kind a b) stuck := by
  cases kind with
  | ints =>
    refine ends_storing fails fun value index int position array rest shape seen indexed => ?_
    refine ends_map _ ((ends_setInt (b := a.withStack rest) array position int fails).imp ?_)
    rintro _ _ ⟨slot, chosen, rfl⟩
    exact ⟨rfl, .intro shape seen indexed (Heap.sets_int chosen int)⟩
  | chars =>
    refine ends_storing fails fun value index int position array rest shape seen indexed => ?_
    refine ends_map _ ((ends_setChar (b := a.withStack rest) array position _ fails).imp ?_)
    rintro _ _ ⟨slot, chosen, rfl⟩
    exact ⟨rfl, .intro shape seen indexed (Heap.sets_char chosen int)⟩

inductive Makes (code : UInt8) (a b : Activation) : Prop
  | intro {kind : ArrayKind} {operand : Value} {count : Int32} {rest : List Value}
      (shape : a.frame.stack = operand :: rest) (counts : operand.toInt? = some count)
      (nonnegative : 0 ≤ count.toInt) (coded : code = kind.code)
      (pushes : b.frame.stack = .reference a.shared.heap.size kind.tag :: rest)
      (there : b.shared.heap.array? a.shared.heap.size =
        some (kind, List.replicate count.toInt.toNat (kind.kept 0)))

theorem zeroArray_elements {code : UInt8} {count : Nat} {object : HeapObject}
    (made : zeroArray code count = .ok object) : ∃ kind : ArrayKind, code = kind.code ∧
      object.kind = kind.tag ∧ object.array? = some (kind, List.replicate count (kind.kept 0)) := by
  unfold zeroArray at made
  split at made
  next ints =>
    cases made
    exact ⟨.ints, ints, rfl, by simp [HeapObject.array?, ArrayKind.kept]⟩
  next =>
    split at made
    next chars =>
      cases made
      exact ⟨.chars, chars, rfl, by simp [HeapObject.array?, ArrayKind.kept]⟩
    next => cases made

theorem ends_makes (code : UInt8) {stuck : Shared → Prop} (fails : stuck a.shared) :
    Ends (execute (.newarray code)) a (fun control b => control = .proceed ∧ Makes code a b) stuck := by
  refine ends_andProceed (ends_bind (ends_popInt fails) ?_)
  rintro count _ ⟨operand, rest, counts, shape, rfl⟩
  refine ends_ite (fun _ => ends_throw_bind fails) fun nonnegative => ?_
  refine ends_bind (ends_check fails) ?_
  rintro object _ ⟨made, rfl⟩
  obtain ⟨kind, coded, tagged, zeros⟩ := zeroArray_elements made
  have atLeast : 0 ≤ count.toInt := by
    rw [Int32.lt_iff_toInt_lt] at nonnegative
    exact Int.not_lt.1 nonnegative
  refine ⟨rfl, .intro shape counts atLeast coded ?_ ?_⟩
  · rw [← tagged]
    rfl
  · show (a.shared.heap.push object).array? a.shared.heap.size = _
    rw [Heap.array?, Heap.getElem?_push_size]
    exact zeros

theorem andProceed_congr {action other : Exec Unit} (same : action a = other b) :
    andProceed action a = andProceed other b := by
  rw [andProceed_eq, andProceed_eq, same]

theorem asked_eq {α : Type} (question : Heap → Except Fault α) (make : α → Value) (a : Activation) :
    andProceed (do
      let answer ← onShared (Shared.asking question)
      push (make answer)) a =
      match make <$> question a.shared.heap with
      | .ok value => .ok .proceed (a.withStack (value :: a.frame.stack))
      | .error fault => .error fault a := by
  cases asked : question a.shared.heap with
  | ok answer =>
    have answers : onShared (Shared.asking question) a = .ok answer a := by
      simp only [onShared, Shared.asking, asked]
    rw [andProceed_congr (bind_of_ok answers)]
    rfl
  | error fault =>
    have refuses : onShared (Shared.asking question) a = .error fault a := by
      simp only [onShared, Shared.asking, asked]
    exact bind_of_error (bind_of_error refuses)

/-- The operands of a load, from the top: an index and an array. -/
theorem loading_eq {tag : String} {action : (array : Nat) → (index : Int32) → Exec Unit}
    {operand : Value} {index : Int32} {address : Nat} {rest : List Value}
    (shape : a.frame.stack = operand :: .reference address tag :: rest)
    (seen : operand.toInt? = some index) :
    (do
      let index ← popInt
      let array ← popReference tag
      action array index) a = action address index (a.withStack rest) := by
  have popped : popInt a = .ok index (a.withStack (.reference address tag :: rest)) :=
    popInt_iff.2 ⟨operand, _, shape, seen, rfl⟩
  have referenced : popReference tag (a.withStack (.reference address tag :: rest)) =
      .ok address (a.withStack rest) := popReference_iff.2 ⟨rest, rfl, rfl⟩
  rw [bind_of_ok popped, bind_of_ok referenced]

theorem load_eq (kind : ArrayKind) {operand : Value} {index : Int32} {address : Nat} {rest : List Value}
    (shape : a.frame.stack = operand :: .reference address kind.tag :: rest)
    (seen : operand.toInt? = some index) :
    execute kind.load a =
      match kind.element a.shared.heap address index with
      | .ok element => .ok .proceed (a.withStack (element :: rest))
      | .error fault => .error fault (a.withStack rest) := by
  cases kind with
  | ints => exact (andProceed_congr (loading_eq shape seen)).trans (asked_eq _ _ (a.withStack rest))
  | chars => exact (andProceed_congr (loading_eq shape seen)).trans (asked_eq _ _ (a.withStack rest))

theorem arraylength_eq {address : Nat} {tag : String} {rest : List Value}
    (shape : a.frame.stack = .reference address tag :: rest) :
    execute .arraylength a =
      match (fun length => .int (Int32.ofNat length)) <$> a.shared.heap.arrayLength address with
      | .ok length => .ok .proceed (a.withStack (length :: rest))
      | .error fault => .error fault (a.withStack rest) := by
  have popped : popAny a = .ok (address, tag) (a.withStack rest) := popAny_iff.2 ⟨rest, shape, rfl⟩
  exact (andProceed_congr (bind_of_ok popped)).trans (asked_eq _ _ (a.withStack rest))

end Exec

end MiniJvm
