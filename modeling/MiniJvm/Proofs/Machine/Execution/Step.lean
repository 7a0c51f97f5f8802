import MiniJvm.Proofs.Machine.Execution.Shared

/-!
What a step of the whole machine comes to: its instruction cannot be decoded, or fails, or does what it does,
and then the frames change as it asks. The end of a step only reports.
-/

namespace MiniJvm

open Effect

namespace Machine

open Exec Shared

variable {top : Frame} {below : List Frame} {machine : Machine}

/-- How a step ends, with what is known of the instruction by then. -/
inductive StepsTo (machine : Machine) : EStateM.Result Fault Machine Unit → Prop
  | idle {fault : Fault} (idle : machine.frames = []) : StepsTo machine (.error fault machine)
  | undecoded {fault : Fault} {top : Frame} {below : List Frame} {a : Activation}
      (running : machine.frames = top :: below)
      (unread : decoded ⟨top, machine.shared⟩ = .error fault a)
      (same : machine.shared.Same a.shared) : StepsTo machine (.error fault ⟨a.frame :: below, a.shared⟩)
  | fails {instr : Instr} {fault : Fault} {top : Frame} {below : List Frame} {a b : Activation}
      (running : machine.frames = top :: below) (read : decoded ⟨top, machine.shared⟩ = .ok instr a)
      (same : machine.shared.Same a.shared) (failed : execute instr a = .error fault b)
      (touches : instr.Touches a.shared b.shared) :
      StepsTo machine (.error fault ⟨b.frame :: below, b.shared⟩)
  | executes {instr : Instr} {control : Control} {top : Frame} {below : List Frame} {a b : Activation}
      (running : machine.frames = top :: below) (read : decoded ⟨top, machine.shared⟩ = .ok instr a)
      (same : machine.shared.Same a.shared) (executed : execute instr a = .ok control b)
      (executes : Executes a instr control b) :
      StepsTo machine (apply control ⟨b.frame :: below, b.shared⟩)

theorem stepsTo (machine : Machine) : StepsTo machine (step machine) := by
  obtain ⟨frames, shared⟩ := machine
  cases frames with
  | nil => exact .idle rfl
  | cons top below =>
    cases read : decoded ⟨top, shared⟩ with
    | error fault a =>
      rw [step_undecoded read]
      exact .undecoded rfl read ((ends_decoded _).failed read)
    | ok instr a =>
      have same : shared.Same a.shared := (ends_decoded _).done read
      rw [step_decoded read]
      cases executed : execute instr a with
      | error fault b => exact .fails rfl read same executed ((ends_execute instr a).failed executed)
      | ok control b => exact .executes rfl read same executed ((ends_execute instr a).done executed)

theorem same_apply (control : Control) (top : Frame) (below : List Frame) (shared : Shared) :
    shared.Same (final (apply control ⟨top :: below, shared⟩)).shared := by
  cases control with
  | proceed => exact same_refl _
  | leave value =>
    rw [apply_leave]
    exact same_reported _ _
  | call classFile methodIndex arguments =>
    rw [apply_call]
    cases Frame.enter classFile methodIndex arguments with
    | ok frame => exact same_reported _ _
    | error fault => exact same_refl _

/-- Where a frame comes from that is there at the end of a step. -/
inductive Comes (frames : List Frame) : Control → Frame → Prop
  | kept {control : Control} {frame : Frame} (member : frame ∈ frames) : Comes frames control frame
  | entered {classFile : ClassFile} {methodIndex : Nat} {arguments : List Value} {frame : Frame}
      (entered : Frame.enter classFile methodIndex arguments = .ok frame) :
      Comes frames (.call classFile methodIndex arguments) frame
  | received {value : Value} {caller : Frame} (member : caller ∈ frames) :
      Comes frames (.leave (some value)) { caller with stack := value :: caller.stack }

theorem comes_delivered {value : Option Value} {frame : Frame}
    (member : frame ∈ delivered value below) : Comes (top :: below) (.leave value) frame := by
  cases value with
  | none => exact .kept (List.mem_cons_of_mem _ member)
  | some value =>
    cases below with
    | nil => cases member
    | cons caller others =>
      rcases List.mem_cons.1 member with rfl | other
      · exact .received (List.mem_cons_of_mem _ (List.mem_cons_self ..))
      · exact .kept (List.mem_cons_of_mem _ (List.mem_cons_of_mem _ other))

theorem comes_apply {control : Control} {shared : Shared} {frame : Frame}
    (member : frame ∈ (final (apply control ⟨top :: below, shared⟩)).frames) :
    Comes (top :: below) control frame := by
  cases control with
  | proceed => exact .kept member
  | leave value =>
    rw [apply_leave] at member
    exact comes_delivered member
  | call classFile methodIndex arguments =>
    rw [apply_call] at member
    cases entered : Frame.enter classFile methodIndex arguments with
    | error fault =>
      rw [entered] at member
      exact .kept member
    | ok callee =>
      rw [entered] at member
      rcases List.mem_cons.1 member with rfl | other
      · exact .entered entered
      · exact .kept other

/-! ### The instruction that comes next -/

variable {instr : Instr}

/-- The instruction that comes next, if it can be decoded. -/
def next? (machine : Machine) : Option Instr :=
  machine.frames.head?.bind fun top => value? (decoded ⟨top, machine.shared⟩)

def stack (machine : Machine) : List Value :=
  (machine.frames.head?.map Frame.stack).getD []

theorem AboutTo.next? {a : Activation} (about : machine.AboutTo instr a) :
    machine.next? = some instr := by
  obtain ⟨top, below, running, read⟩ := about
  simp [Machine.next?, running, read, value?]

theorem decoded_of_next? (next : machine.next? = some instr) : ∃ top below a,
    machine.frames = top :: below ∧ decoded ⟨top, machine.shared⟩ = .ok instr a ∧
      a.frame.stack = machine.stack ∧ a.shared.heap = machine.shared.heap := by
  obtain ⟨top, first, shown⟩ := Option.bind_eq_some_iff.1 next
  obtain ⟨below, running⟩ := List.head?_eq_some_iff.1 first
  have read := eq_ok_of_value? shown
  obtain ⟨_, _, sameFrame⟩ := decoded_frame read
  refine ⟨top, below, _, running, read, ?_, (decoded_sameStore read).heap⟩
  rw [sameFrame, stack, running]
  rfl

theorem step_proceeds {a b : Activation}
    (running : machine.frames = top :: below) (read : decoded ⟨top, machine.shared⟩ = .ok instr a)
    (ran : execute instr a = .ok .proceed b) :
    step machine = .ok () ⟨b.frame :: below, b.shared⟩ := by
  obtain ⟨frames, shared⟩ := machine
  cases running
  rw [step_decoded read, ran]
  rfl

/-- What an instruction that proceeds does is what its step does. -/
theorem step_of_ends {later : Machine} {post : Activation → Activation → Prop}
    (next : machine.next? = some instr) (ran : step machine = .ok () later)
    (spec : ∀ a, Ends (execute instr) a (fun control b => control = .proceed ∧ post a b)
      (fun _ => True)) :
    ∃ a b, a.frame.stack = machine.stack ∧ a.shared.heap = machine.shared.heap ∧ post a b ∧
      later.stack = b.frame.stack ∧ later.shared = b.shared := by
  obtain ⟨top, below, a, running, read, sameStack, sameHeap⟩ := decoded_of_next? next
  obtain ⟨_, _, _, _, control, b, frames, read', executed, _⟩ := step_ok ran
  cases running.symm.trans frames
  cases read.symm.trans read'
  obtain ⟨rfl, done⟩ := (spec a).done executed
  cases ran.symm.trans (step_proceeds running read executed)
  exact ⟨a, b, sameStack, sameHeap, done, rfl, rfl⟩

end Machine

end MiniJvm
