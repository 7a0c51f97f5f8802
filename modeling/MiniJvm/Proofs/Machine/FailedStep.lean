import MiniJvm.Proofs.Machine.Control
import MiniJvm.Proofs.Machine.ReferenceSafety

/-!
A step that fails only consumes. It may have popped operands and read classes, made objects and
registered static instances, but it has neither changed what was there nor printed anything. The faults
of an instruction come before all that it delivers; the one fault that comes after an instruction is that
of entering a method, and an instruction that asks for a call delivers nothing.
-/

namespace MiniJvm

open Effect

namespace Activation

variable {a b : Activation}

/-- Operands are taken from the running frame, objects, classes and static instances are added, and
nothing else happens. -/
structure Consumes (old new : Activation) : Prop where
  locals : new.frame.locals = old.frame.locals
  stack : new.frame.stack <:+ old.frame.stack
  heap : old.shared.heap.objects.toList <+: new.shared.heap.objects.toList
  statics : old.shared.statics <+: new.shared.statics
  classes : old.shared.classes <+: new.shared.classes
  output : new.shared.output = old.shared.output
  errors : new.shared.errors = old.shared.errors

theorem consumes_refl (a : Activation) : a.Consumes a :=
  ⟨rfl, List.suffix_refl _, List.prefix_refl _, List.prefix_refl _, List.prefix_refl _, rfl, rfl⟩

theorem Consumes.trans {c : Activation} (early : a.Consumes b) (late : b.Consumes c) :
    a.Consumes c where
  locals := late.locals.trans early.locals
  stack := late.stack.trans early.stack
  heap := early.heap.trans late.heap
  statics := early.statics.trans late.statics
  classes := early.classes.trans late.classes
  output := late.output.trans early.output
  errors := late.errors.trans early.errors

theorem Change.consumes (change : Change false a b) : a.Consumes b := by
  have same := consumes_refl a
  cases change with
  | move code sameBytes => exact { same with }
  | begin => exact { same with }
  | report log => exact { same with }
  | pop value stack top =>
    have popped : stack <:+ a.frame.stack := by
      rw [top]
      exact List.suffix_cons value stack
    exact { same with stack := popped }
  | allocate object backed =>
    have grown : a.shared.heap.objects.toList <+: (a.shared.heap.objects.push object).toList := by
      simp
    exact { same with heap := grown }
  | addClass found absent => exact { same with classes := List.prefix_append _ _ }
  | register name address absent holds => exact { same with statics := List.prefix_append _ _ }

theorem Changes.consumes (changes : Changes false a b) : a.Consumes b := by
  induction changes with
  | refl => exact consumes_refl a
  | tail _ last ih => exact ih.trans last.consumes

theorem Consumes.object (consumes : a.Consumes b) {address : Nat} {object : HeapObject}
    (found : a.shared.heap.objects[address]? = some object) :
    b.shared.heap.objects[address]? = some object := by
  obtain ⟨added, grown⟩ := consumes.heap
  rw [← Array.getElem?_toList] at found ⊢
  have inside := (List.getElem?_eq_some_iff.1 found).1
  rw [← grown, List.getElem?_append_left inside]
  exact found

end Activation

namespace Exec

open Activation

variable {a b : Activation}

theorem consumes_of_error {fault : Fault} (sound : a.Sound) (failed : instruction a = .error fault b) :
    a.Consumes b := by
  have conduct := conducts_instruction sound
  rw [failed] at conduct
  exact conduct.1.consumes

/-- An instruction that asks for a call has only prepared it. -/
theorem consumes_of_call {classFile : ClassFile} {methodIndex : Nat} {arguments : List Value}
    (sound : a.Sound) (ran : instruction a = .ok (.call classFile methodIndex arguments) b) :
    a.Consumes b := by
  rw [instruction_eq] at ran
  obtain ⟨instr, c, read, executed⟩ := bind_ok.1 ran
  have reading : Changes false a c := conducts_decoded.changes sound read
  cases asks_execute executed with
  | call cause prepares => exact reading.consumes.trans (prepares (reading.sound sound)).consumes

end Exec

namespace Machine

open Activation

theorem step_error_consumes {machine later : Machine} {fault : Fault} (sound : machine.Sound)
    (failed : step machine = .error fault later) :
    (machine.frames = [] ∧ later = machine) ∨
      ∃ top below b, machine.frames = top :: below ∧ later = ⟨b.frame :: below, b.shared⟩ ∧
        Consumes ⟨top, machine.shared⟩ b := by
  rcases step_error failed with idle | ⟨top, below, b, frames, rfl, cause⟩
  · exact .inl idle
  obtain ⟨_, shared⟩ := machine
  cases frames
  refine .inr ⟨top, below, b, rfl, rfl, ?_⟩
  rcases cause with refused | ⟨classFile, methodIndex, arguments, called⟩
  · exact Exec.consumes_of_error sound.activation refused
  · exact Exec.consumes_of_call sound.activation called

/-- When a step fails there are as many frames as before, and all but the running one are the same. The
running frame has its local variables and the bottom part of its operand stack. Every object, static
instance and class that was there is there unchanged, and nothing has been printed. -/
theorem failed_step_consumes (machine later : Machine) (fault : Fault) (reachable : machine.Reachable)
    (failed : step machine = .error fault later) :
    later.frames.length = machine.frames.length ∧ later.frames.tail = machine.frames.tail ∧
    (∀ top, machine.frames.head? = some top →
      ∃ left, later.frames.head? = some left ∧ left.locals = top.locals ∧ left.stack <:+ top.stack) ∧
    (∀ (address : Nat) (object : HeapObject), machine.shared.heap.objects[address]? = some object →
      later.shared.heap.objects[address]? = some object) ∧
    machine.shared.statics <+: later.shared.statics ∧
    machine.shared.classes <+: later.shared.classes ∧
    later.shared.output = machine.shared.output ∧ later.shared.errors = machine.shared.errors := by
  rcases step_error_consumes reachable.sound failed with
    ⟨idle, rfl⟩ | ⟨top, below, b, frames, rfl, consumes⟩
  · simp [idle]
  · have running : ∀ first, machine.frames.head? = some first → ∃ left,
        (b.frame :: below).head? = some left ∧ left.locals = first.locals ∧
          left.stack <:+ first.stack := by
      intro first shown
      rw [frames] at shown
      cases shown
      exact ⟨b.frame, rfl, consumes.locals, consumes.stack⟩
    refine ⟨by simp [frames], by simp [frames], running, fun _ _ => consumes.object, ?_⟩
    exact ⟨consumes.statics, consumes.classes, consumes.output, consumes.errors⟩

/-- An entry point that makes an array of two ints and asks for the element at five. -/
def beyondMain : ClassFile :=
  { arrayMain with
    methods :=
      [⟨mainFlags, 0, 0, mainName, mainDescriptor, [.code 0 2 1 #[5, 188, 10, 8, 46] [] []]⟩] }

def beyondMachine : Machine :=
  after [.enterMain beyondMain, .step, .step, .step] (fresh "" Disk.empty Sink.unbounded 0)

theorem array_load_failure_consumes :
    beyondMachine.frames.map Frame.stack = [[.int 5, .reference 0 "[I"]] ∧
      ∃ later, step beyondMachine = .error (.arrayIndexOutOfBounds 5 2) later ∧
        later.frames.map Frame.stack = [[]] ∧ later.frames.tail = [] ∧
        later.shared.heap.objects[0]? = some (.ints #[0, 0]) ∧
        later.shared.output = beyondMachine.shared.output := by
  have facts :
      beyondMachine.frames.map Frame.stack = [[.int 5, .reference 0 "[I"]] ∧
      beyondMachine.shared.heap.objects[0]? = some (.ints #[0, 0]) ∧
      (final (step beyondMachine)).frames.map Frame.stack = [[]] ∧
      fault? (step beyondMachine) = some (.arrayIndexOutOfBounds 5 2) := by
    decide +kernel
  obtain ⟨operands, stored, left, fails⟩ := facts
  have failed := eq_error_of_fault? fails
  obtain ⟨_, tail, _, objects, _, _, output, _⟩ :=
    failed_step_consumes beyondMachine _ _ ⟨_, _, _, _, _, rfl⟩ failed
  have alone : beyondMachine.frames.tail = [] := by
    have single := congrArg List.tail operands
    rw [← List.map_tail] at single
    exact List.map_eq_nil_iff.1 single
  exact ⟨operands, _, failed, left, tail.trans alone, objects 0 _ stored, output⟩

end Machine

end MiniJvm
