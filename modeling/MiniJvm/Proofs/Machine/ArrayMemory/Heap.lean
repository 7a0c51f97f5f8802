import MiniJvm.Proofs.Machine.Operands

/-!
Arrays on the heap: their kind, their elements, and what is left when one element is set.
-/

namespace MiniJvm

open Effect

/-- Arrays have ints or chars as elements. -/
inductive ArrayKind where
  | ints
  | chars
  deriving DecidableEq

namespace ArrayKind

def code : ArrayKind → UInt8
  | .ints => 10
  | .chars => 5

def tag : ArrayKind → String
  | .ints => Value.intArrayTag
  | .chars => Value.charArrayTag

def load : ArrayKind → Instr
  | .ints => .iaload
  | .chars => .caload

def store : ArrayKind → Instr
  | .ints => .iastore
  | .chars => .castore

/-- What an element holds of an int that is stored. A char is its remainder by 65536. -/
def kept : ArrayKind → Int32 → Value
  | .ints, int => .int int
  | .chars, int => .char (UInt16.ofNat (int.toInt % 65536).toNat)

theorem kept_chars (int : Int32) : kept .chars int = .char int.toUInt32.toUInt16 := by
  have narrow := toNat_narrowed int
  have same : (int.toInt % 65536).toNat = int.toUInt32.toUInt16.toNat := by omega
  rw [kept, same, UInt16.ofNat_toNat]

/-- The element of an array at an index. -/
def element (heap : Heap) (address : Nat) (index : Int32) : ArrayKind → Except Fault Value
  | .ints => .int <$> heap.getInt address index
  | .chars => .char <$> heap.getChar address index

end ArrayKind

/-- The kind and the elements of an array. -/
def HeapObject.array? : HeapObject → Option (ArrayKind × List Value)
  | .ints values => some (.ints, values.toList.map .int)
  | .chars units => some (.chars, units.toList.map .char)
  | _ => none

namespace Heap

def array? (heap : Heap) (address : Nat) : Option (ArrayKind × List Value) :=
  heap.objects[address]?.bind HeapObject.array?

variable {heap : Heap} {address : Nat} {kind : ArrayKind} {elements : List Value}

theorem array?_ints (there : heap.array? address = some (.ints, elements)) :
    ∃ values, heap.objects[address]? = some (.ints values) ∧ elements = values.toList.map .int := by
  obtain ⟨object, found, shown⟩ := Option.bind_eq_some_iff.1 there
  cases object with
  | ints values =>
    cases shown
    exact ⟨values, found, rfl⟩
  | _ => cases shown

theorem array?_chars (there : heap.array? address = some (.chars, elements)) :
    ∃ units, heap.objects[address]? = some (.chars units) ∧ elements = units.toList.map .char := by
  obtain ⟨object, found, shown⟩ := Option.bind_eq_some_iff.1 there
  cases object with
  | chars units =>
    cases shown
    exact ⟨units, found, rfl⟩
  | _ => cases shown

theorem array?_tag {object : HeapObject} (there : heap.array? address = some (kind, elements))
    (found : heap.objects[address]? = some object) : object.kind = kind.tag := by
  rw [array?, found, Option.bind_some] at there
  cases object with
  | ints values =>
    cases there
    rfl
  | chars units =>
    cases there
    rfl
  | _ => cases there

theorem array?_size (heap : Heap) : heap.array? heap.size = none := by
  simp [array?, size]

/-- Changing one object changes at most one array. -/
theorem array?_modify {object : HeapObject} (change : HeapObject → HeapObject)
    (there : heap.objects[address]? = some object) (other : Nat) :
    array? ⟨heap.objects.modify address change⟩ other =
      if other = address then (change object).array? else heap.array? other := by
  unfold array?
  rw [Array.getElem?_modify]
  by_cases same : other = address
  · subst same
    rw [if_pos rfl, if_pos rfl, there]
    rfl
  · rw [if_neg (Ne.symm same), if_neg same]

/-! ### Elements by index -/

theorem elementIndex_ok {index : Int32} {length : Nat} {slot : Fin length}
    (inside : elementIndex index length = .ok slot) : index.toInt = (slot.val : Int) := by
  unfold elementIndex at inside
  split at inside
  next bounds =>
    cases inside
    exact (Int.toNat_of_nonneg bounds.1).symm
  next => cases inside

/-- The element at an index that may be out of bounds. -/
def at? (elements : List Value) (index : Int32) : Option Value :=
  if 0 ≤ index.toInt then elements[index.toInt.toNat]? else none

theorem at?_outside {elements : List Value} {index : Int32}
    (outside : ¬ (0 ≤ index.toInt ∧ index.toInt < elements.length)) : at? elements index = none := by
  unfold at?
  split
  · exact List.getElem?_eq_none_iff.2 (by omega)
  · rfl

theorem indexed_eq {α : Type} {items : Array α} {read : Fin items.size → α}
    (reads : ∀ i : Fin items.size, items[i.val]? = some (read i)) (make : α → Value) (index : Int32) :
    (make <$> do
      let i ← elementIndex index items.size
      return read i) =
      match at? (items.toList.map make) index with
      | some value => .ok value
      | none => .error (.arrayIndexOutOfBounds index items.size) := by
  unfold elementIndex
  by_cases inside : 0 ≤ index.toInt ∧ index.toInt.toNat < items.size
  · rw [dif_pos inside, at?, if_pos inside.1, List.getElem?_map, Array.getElem?_toList,
      reads ⟨_, inside.2⟩]
    rfl
  · rw [dif_neg inside, at?_outside (by rw [List.length_map, Array.length_toList]; omega)]
    rfl

theorem element_eq (there : heap.array? address = some (kind, elements)) (index : Int32) :
    kind.element heap address index =
      match at? elements index with
      | some value => .ok value
      | none => .error (.arrayIndexOutOfBounds index elements.length) := by
  cases kind with
  | ints =>
    obtain ⟨values, found, rfl⟩ := array?_ints there
    unfold ArrayKind.element getInt
    rw [ints_ok.2 found, List.length_map, Array.length_toList]
    exact indexed_eq (fun i => Array.getElem?_eq_getElem i.isLt) .int index
  | chars =>
    obtain ⟨units, found, rfl⟩ := array?_chars there
    unfold ArrayKind.element getChar
    rw [chars_ok.2 found, List.length_map, Array.length_toList]
    exact indexed_eq (fun i => Array.getElem?_eq_getElem i.isLt) .char index

theorem arrayLength_eq (there : heap.array? address = some (kind, elements)) :
    heap.arrayLength address = .ok elements.length := by
  cases kind with
  | ints =>
    obtain ⟨values, found, rfl⟩ := array?_ints there
    unfold arrayLength
    rw [get_ok.2 found, List.length_map, Array.length_toList]
    rfl
  | chars =>
    obtain ⟨units, found, rfl⟩ := array?_chars there
    unfold arrayLength
    rw [get_ok.2 found, List.length_map, Array.length_toList]
    rfl

/-- One element of one array has been set, and all other arrays are as before. -/
inductive Sets (kind : ArrayKind) (old : Heap) (address : Nat) (index value : Int32) (new : Heap) : Prop
  | intro {slot : Nat} {elements : List Value} (there : old.array? address = some (kind, elements))
      (position : index.toInt = (slot : Int)) (inside : slot < elements.length)
      (arrays : ∀ other, new.array? other =
        if other = address then some (kind, elements.set slot (kind.kept value)) else old.array? other)

theorem sets_int {index : Int32} {slot : Nat} (chosen : heap.intSlot address index = .ok slot)
    (value : Int32) : heap.Sets .ints address index value (heap.setInt address slot value) := by
  obtain ⟨values, found, rest⟩ := except_bind_ok.1 chosen
  obtain ⟨position, inside, last⟩ := except_bind_ok.1 rest
  cases last
  have there := ints_ok.1 found
  refine .intro (by rw [array?, there]; rfl) (elementIndex_ok inside) (by simp) fun other => ?_
  rw [setInt, array?_modify _ there]
  simp [HeapObject.array?, ArrayKind.kept, List.map_set]

theorem sets_char {index : Int32} {slot : Nat} (chosen : heap.charSlot address index = .ok slot)
    (value : Int32) : heap.Sets .chars address index value
      (heap.setChar address slot value.toUInt32.toUInt16) := by
  obtain ⟨units, found, rest⟩ := except_bind_ok.1 chosen
  obtain ⟨position, inside, last⟩ := except_bind_ok.1 rest
  cases last
  have there := chars_ok.1 found
  refine .intro (by rw [array?, there]; rfl) (elementIndex_ok inside) (by simp) fun other => ?_
  rw [setChar, array?_modify _ there]
  simp [HeapObject.array?, ArrayKind.kept_chars, List.map_set]

end Heap

end MiniJvm
