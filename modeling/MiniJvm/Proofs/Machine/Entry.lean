import MiniJvm.Frame

/-!
How a frame begins. It runs the first method of its name and descriptor, from the start of the code of that
method, with an empty operand stack. The arguments are its first local variables, and the others are unset.
-/

namespace MiniJvm

/-- The first method of a name and a descriptor. -/
structure ClassFile.First (classFile : ClassFile) (name descriptor : String) (index : Nat)
    (method : Member) : Prop where
  here : classFile.methods[index]? = some method
  named : method.name = name ∧ method.descriptor = descriptor
  earlier : ∀ other < index, ∀ found, classFile.methods[other]? = some found →
    ¬ (found.name = name ∧ found.descriptor = descriptor)

/-- A frame at the start of a code, its arguments in the first local variables. -/
structure Frame.Begins (frame : Frame) (code : Code) (arguments : List Value) : Prop where
  declared : frame.method.code? = some code
  bytes : frame.code.bytes = code.bytes
  pc : frame.pc = 0
  stack : frame.stack = []
  room : arguments.length ≤ code.maxLocals.toNat
  locals : frame.locals =
    arguments.map some ++ List.replicate (code.maxLocals.toNat - arguments.length) none

theorem ClassFile.findMethod?_some {classFile : ClassFile} {name descriptor : String} {index : Nat}
    {method : Member} (found : classFile.findMethod? name descriptor = some index)
    (declared : classFile.methods[index]? = some method) :
    method.name = name ∧ method.descriptor = descriptor := by
  obtain ⟨inside, holds, _⟩ := List.findIdx?_eq_some_iff_getElem.1 found
  obtain ⟨_, same⟩ := List.getElem?_eq_some_iff.1 declared
  rw [same] at holds
  simpa using holds

theorem ClassFile.first_of_findMethod? {classFile : ClassFile} {name descriptor : String} {index : Nat}
    {method : Member} (found : classFile.findMethod? name descriptor = some index)
    (declared : classFile.methods[index]? = some method) :
    classFile.First name descriptor index method where
  here := declared
  named := findMethod?_some found declared
  earlier := by
    intro other before earlier there
    obtain ⟨_, _, fails⟩ := List.findIdx?_eq_some_iff_getElem.1 found
    obtain ⟨_, same⟩ := List.getElem?_eq_some_iff.1 there
    have differs := fails other before
    rw [same] at differs
    simpa using differs

theorem ClassFile.findMethod?_of_mem {classFile : ClassFile} {method : Member}
    (listed : method ∈ classFile.methods) :
    ∃ index, classFile.findMethod? method.name method.descriptor = some index := by
  refine Option.isSome_iff_exists.1 (List.findIdx?_isSome.trans ?_)
  exact List.any_eq_true.2 ⟨method, listed, by simp⟩

theorem ClassFile.First.unique {classFile : ClassFile} {name descriptor : String} {index other : Nat}
    {method also : Member} (first : classFile.First name descriptor index method)
    (second : classFile.First name descriptor other also) : index = other ∧ method = also := by
  have same : index = other := by
    rcases Nat.lt_trichotomy index other with before | same | behind
    · exact absurd first.named (second.earlier index before method first.here)
    · exact same
    · exact absurd second.named (first.earlier other behind also second.here)
  subst same
  exact ⟨rfl, Option.some.inj (first.here.symm.trans second.here)⟩

theorem Frame.begins_of_enter {classFile : ClassFile} {methodIndex : Nat} {arguments : List Value}
    {frame : Frame} (entered : Frame.enter classFile methodIndex arguments = .ok frame) :
    frame.classFile = classFile ∧ frame.methodIndex = methodIndex ∧
      classFile.methods[methodIndex]? = some frame.method ∧ ∃ code, frame.Begins code arguments := by
  unfold Frame.enter at entered
  split at entered
  · cases entered
  next method declared =>
    split at entered
    · cases entered
    next code found =>
      dsimp only at entered
      split at entered
      · cases entered
      next room =>
        cases entered
        exact ⟨rfl, rfl, declared, code, found, rfl, rfl, rfl, Nat.le_of_not_lt room, rfl⟩

end MiniJvm
