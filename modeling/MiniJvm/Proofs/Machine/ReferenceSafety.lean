import MiniJvm.Proofs.Descriptor.Tags
import MiniJvm.Proofs.Machine.Decoding
import MiniJvm.Proofs.Machine.History

/-!
Reference safety. Wherever a reachable machine keeps a reference, the object it points to is there and is
of the kind that the tag states. So no step meets a reference to nothing, and an instruction that has
popped a reference of the tag it asks for finds the object it expects.
-/

namespace MiniJvm

open Effect

namespace HeapObject

theorem eq_ints_of_kind {object : HeapObject} (kind : object.kind = Value.intArrayTag) :
    ∃ values, object = .ints values := by
  have typed : object.type = .array .int := kind_eq_tag_iff.1 (kind.trans Value.intArrayTag_eq)
  cases object with
  | ints values => exact ⟨values, rfl⟩
  | _ => cases typed

theorem eq_chars_of_kind {object : HeapObject} (kind : object.kind = Value.charArrayTag) :
    ∃ units, object = .chars units := by
  have typed : object.type = .array .char := kind_eq_tag_iff.1 (kind.trans Value.charArrayTag_eq)
  cases object with
  | chars units => exact ⟨units, rfl⟩
  | _ => cases typed

/-- Strings are the only objects that are no instances and have the kind of one. -/
theorem eq_instanceOf_of_kind {object : HeapObject} {className : String}
    (kind : object.kind = FieldType.objectTag className) (other : className ≠ FieldType.stringClass) :
    ∃ fields, object = .instanceOf className fields := by
  have typed : object.type = .object className := kind_eq_tag_iff.1 kind
  cases object with
  | instanceOf found fields =>
    cases typed
    exact ⟨fields, rfl⟩
  | str text =>
    cases typed
    exact absurd rfl other
  | _ => cases typed

end HeapObject

namespace Heap

variable {heap : Heap} {address : Nat}

theorem Backs.ints (backed : heap.Backs (.reference address Value.intArrayTag)) :
    ∃ values, heap.ints address = .ok values := by
  obtain ⟨object, found, kind⟩ := backed
  obtain ⟨values, rfl⟩ := HeapObject.eq_ints_of_kind kind
  refine ⟨values, ?_⟩
  unfold Heap.ints get
  rw [found]
  rfl

theorem Backs.chars (backed : heap.Backs (.reference address Value.charArrayTag)) :
    ∃ units, heap.chars address = .ok units := by
  obtain ⟨object, found, kind⟩ := backed
  obtain ⟨units, rfl⟩ := HeapObject.eq_chars_of_kind kind
  refine ⟨units, ?_⟩
  unfold Heap.chars get
  rw [found]
  rfl

theorem Backs.holdsInstance {className : String}
    (backed : heap.Backs (.reference address (FieldType.objectTag className)))
    (other : className ≠ FieldType.stringClass) : heap.HoldsInstance address className := by
  obtain ⟨object, found, kind⟩ := backed
  obtain ⟨fields, rfl⟩ := HeapObject.eq_instanceOf_of_kind kind other
  exact ⟨fields, found⟩

end Heap

namespace Exec

variable {α : Type} {a b : Activation}

theorem Conducts.of_ok {exec : Exec α} {post : α → Activation → Prop} {value : α}
    (conducts : Conducts false exec a post) (sound : a.Sound) (ran : exec a = .ok value b) :
    b.Sound ∧ post value b := by
  have result := conducts sound
  rw [ran] at result
  exact ⟨result.1.sound sound, result.2⟩

/-- Once an index and an int array have been popped, the array is there. -/
def FindsInts (a : Activation) : Prop :=
  ∀ index array b c, popInt a = .ok index b → popReference Value.intArrayTag b = .ok array c →
    ∃ values, c.shared.heap.ints array = .ok values

/-- Once an index and a char array have been popped, the array is there. -/
def FindsChars (a : Activation) : Prop :=
  ∀ index array b c, popInt a = .ok index b → popReference Value.charArrayTag b = .ok array c →
    ∃ units, c.shared.heap.chars array = .ok units

/-- Once the receiver of a field access has been popped, it is an instance of the class that the
reference to the field names. -/
def FindsInstance (field : MemberRef) (a : Activation) : Prop :=
  ∀ address b, popReference (FieldType.objectTag field.className) a = .ok address b →
    b.shared.heap.HoldsInstance address field.className

theorem findsInts (sound : a.Sound) : FindsInts a := by
  intro index array b c popped typed
  obtain ⟨soundNext, _⟩ := conducts_popInt.of_ok sound popped
  obtain ⟨_, backed⟩ := (conducts_popReference _).of_ok soundNext typed
  exact backed.ints

theorem findsChars (sound : a.Sound) : FindsChars a := by
  intro index array b c popped typed
  obtain ⟨soundNext, _⟩ := conducts_popInt.of_ok sound popped
  obtain ⟨_, backed⟩ := (conducts_popReference _).of_ok soundNext typed
  exact backed.chars

theorem findsInstance {field : MemberRef} (sound : a.Sound)
    (other : field.className ≠ FieldType.stringClass) : FindsInstance field a := by
  intro address b popped
  obtain ⟨_, backed⟩ := (conducts_popReference _).of_ok sound popped
  exact backed.holdsInstance other

end Exec

namespace Machine

open Exec

def Holds (machine : Machine) (value : Value) : Prop :=
  (∃ frame ∈ machine.frames, value ∈ frame.stack ∨ some value ∈ frame.locals) ∨
    ∃ (address : Nat) (className : String) (fields : Fields) (name : String),
      machine.shared.heap.objects[address]? = some (.instanceOf className fields) ∧
        (name, value) ∈ fields

theorem Sound.backs {machine : Machine} (sound : machine.Sound) {value : Value}
    (held : machine.Holds value) : machine.shared.heap.Backs value := by
  rcases held with ⟨frame, running, inStack | inLocals⟩ |
    ⟨address, className, fields, name, found, stored⟩
  · exact (sound.frames frame running).stack value inStack
  · exact (sound.frames frame running).locals value inLocals
  · exact sound.shared.fields address _ found name value stored

theorem Sound.aboutTo {machine : Machine} (sound : machine.Sound) {instr : Instr} {a : Activation}
    (about : machine.AboutTo instr a) : a.Sound := by
  obtain ⟨frames, shared⟩ := machine
  obtain ⟨top, below, rfl, read⟩ := about
  exact (conducts_decoded.of_ok sound.activation read).1

/-- In every machine that a history leads to, each reference points to an object of the kind that its tag
states and each registered address to a static instance of its class. So no step fails for want of an
object, array instructions find their arrays and field instructions their instances. -/
theorem reachable_references_safe (machine : Machine) (reachable : machine.Reachable) :
    (∀ address tag, machine.Holds (.reference address tag) →
      address < machine.shared.heap.size ∧
        ∃ object, machine.shared.heap.objects[address]? = some object ∧ object.kind = tag) ∧
    (∀ className address, machine.shared.statics? className = some address →
      machine.shared.heap.HoldsInstance address className) ∧
    (∀ address later, step machine ≠ .error (.invalidReference address) later) ∧
    (∀ a, machine.AboutTo .iaload a → FindsInts a) ∧
    (∀ a, machine.AboutTo .iastore a → ∀ value b, popInt a = .ok value b → FindsInts b) ∧
    (∀ a, machine.AboutTo .caload a → FindsChars a) ∧
    (∀ a, machine.AboutTo .castore a → ∀ value b, popInt a = .ok value b → FindsChars b) ∧
    (∀ index a, machine.AboutTo (.getfield index) a →
      ∀ field type b, resolveField index a = .ok (field, type) b →
        field.className ≠ FieldType.stringClass → FindsInstance field b) ∧
    (∀ index a, machine.AboutTo (.putfield index) a →
      ∀ field type b value c, resolveField index a = .ok (field, type) b →
        onFrame Frame.pop b = .ok value c →
          field.className ≠ FieldType.stringClass → FindsInstance field c) := by
  have sound := reachable.sound
  have popped {a b : Activation} {value : Int32} (before : a.Sound) (ran : popInt a = .ok value b) :
      b.Sound := (conducts_popInt.of_ok before ran).1
  have resolved {a b : Activation} {index : UInt16} {found : MemberRef × FieldType} (before : a.Sound)
      (ran : resolveField index a = .ok found b) : b.Sound :=
    ((conducts_resolveField index).of_ok before ran).1
  refine ⟨?_, ?_, ?_, ?_, ?_, ?_, ?_, ?_, ?_⟩
  · intro address tag held
    obtain ⟨object, found, kind⟩ := sound.backs held
    exact ⟨(Array.getElem?_eq_some_iff.1 found).1, object, found, kind⟩
  · intro className address known
    exact sound.shared.statics className address (mem_of_lookup known)
  · intro address later failed
    exact (safe_step sound).2.2 _ later failed trivial
  · intro a about
    exact findsInts (sound.aboutTo about)
  · intro a about value b first
    exact findsInts (popped (sound.aboutTo about) first)
  · intro a about
    exact findsChars (sound.aboutTo about)
  · intro a about value b first
    exact findsChars (popped (sound.aboutTo about) first)
  · intro index a about field type b found other
    exact findsInstance (resolved (sound.aboutTo about) found) other
  · intro index a about field type b value c found first other
    have before := resolved (sound.aboutTo about) found
    exact findsInstance (conducts_pop.of_ok before first).1 other

/-- An entry point that makes an array of two ints and pushes the index of its first element. -/
def arrayMain : ClassFile where
  minorVersion := 0
  majorVersion := 52
  pool := ⟨#[]⟩
  flags := 0
  thisClass := 0
  superClass := 0
  fields := []
  methods := [⟨mainFlags, 0, 0, mainName, mainDescriptor, [.code 0 2 1 #[5, 188, 10, 3, 46] [] []]⟩]
  attributes := []
  name := "Main"

def arrayMachine : Machine :=
  after [.enterMain arrayMain, .step, .step, .step] (fresh "" Disk.empty Sink.unbounded 0)

theorem array_reference_safe :
    arrayMachine.frames.map Frame.stack = [[.int 0, .reference 0 "[I"]] ∧
      0 < arrayMachine.shared.heap.size ∧
      ∃ object, arrayMachine.shared.heap.objects[0]? = some object ∧ object.kind = "[I" := by
  have stacked : arrayMachine.frames.map Frame.stack = [[.int 0, .reference 0 "[I"]] := by
    decide +kernel
  have held : arrayMachine.Holds (.reference 0 "[I") := by
    obtain ⟨frame, running, stack⟩ := List.mem_map.1 (stacked ▸ List.mem_singleton_self _)
    exact .inl ⟨frame, running, .inl (by simp [stack])⟩
  exact ⟨stacked, (reachable_references_safe arrayMachine ⟨_, _, _, _, _, rfl⟩).1 0 "[I" held⟩

end Machine

end MiniJvm
