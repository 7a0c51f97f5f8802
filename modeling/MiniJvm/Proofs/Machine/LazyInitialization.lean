import MiniJvm.ClassFile.Layout
import MiniJvm.Proofs.Machine.Defaults
import MiniJvm.Proofs.Machine.Entry
import MiniJvm.Proofs.Machine.Initialization

/-!
The instruction that uses a class for the first time is interrupted: the static fields of the class get their
defaults, and its initializer runs first, on top of the frame of the instruction. Nothing below the initializer
moves while it runs, so that its return finds the frame as it was, and the instruction is executed as if it had
never been interrupted.
-/

namespace MiniJvm

open Effect Relation

namespace Machine

variable {machine later : Machine} {top : Frame} {below low : List Frame} {shared : Shared}

theorem step_frames (ran : step ⟨top :: below, shared⟩ = .ok () later) :
    ∃ frame, later.frames = frame :: below ∨ (∃ called, later.frames = called :: frame :: below) ∨
      ∃ value, later.frames = delivered value below := by
  rw [step_cons] at ran
  cases instruction : Exec.instruction ⟨top, shared⟩ with
  | error fault b =>
    rw [instruction] at ran
    cases ran
  | ok control b =>
    rw [instruction] at ran
    have frames := apply_frames ran
    refine ⟨b.frame, ?_⟩
    cases control with
    | proceed => exact .inl frames
    | call classFile methodIndex arguments => exact .inr (.inl frames)
    | leave value => exact .inr (.inr ⟨value, frames⟩)

/-- Some frames run on top of given ones. -/
def RunsAbove (low : List Frame) (machine : Machine) : Prop :=
  ∃ top upper, machine.frames = top :: (upper ++ low)

/-- A successful step to a machine that does not have the given number of frames. -/
def StepAvoiding (depth : Nat) (machine later : Machine) : Prop :=
  step machine = .ok () later ∧ later.frames.length ≠ depth

/-- The only way for a step to reach the frames below is to uncover them. -/
theorem RunsAbove.step (above : machine.RunsAbove low)
    (stepped : StepAvoiding low.length machine later) : later.RunsAbove low := by
  obtain ⟨frames, shared⟩ := machine
  obtain ⟨top, upper, rfl⟩ := above
  obtain ⟨ran, covered⟩ := stepped
  obtain ⟨frame, same | ⟨called, pushed⟩ | ⟨value, uncovered⟩⟩ := step_frames ran
  · exact ⟨frame, upper, same⟩
  · exact ⟨called, frame :: upper, pushed⟩
  · cases upper with
    | nil =>
      have back : later.frames.length = low.length := by
        rw [uncovered, length_delivered]
        rfl
      exact absurd back covered
    | cons next others =>
      cases value with
      | none => exact ⟨next, others, uncovered⟩
      | some value => exact ⟨_, others, uncovered⟩

theorem RunsAbove.run (above : machine.RunsAbove low)
    (run : ReflTransGen (StepAvoiding low.length) machine later) : later.RunsAbove low := by
  induction run with
  | refl => exact above
  | tail _ last ih => exact ih.step last

theorem step_sound (sound : machine.Sound) (ran : step machine = .ok () later) :
    later.Sound ∧ machine.Extends later := by
  obtain ⟨soundNext, extended, _⟩ := safe_step sound
  rw [ran] at soundNext extended
  exact ⟨soundNext, extended⟩

theorem run_sound {depth : Nat} (sound : machine.Sound)
    (run : ReflTransGen (StepAvoiding depth) machine later) :
    later.Sound ∧ machine.Extends later := by
  induction run with
  | refl => exact ⟨sound, extends_refl _⟩
  | tail _ last ih =>
    obtain ⟨soundNext, extended⟩ := step_sound ih.1 last.1
    exact ⟨soundNext, ih.2.trans extended⟩

theorem RunsAbove.leave {a : Activation} (above : machine.RunsAbove low)
    (about : machine.AboutTo .leave a) (ran : Machine.step machine = .ok () later)
    (uncovered : later.frames.length = low.length) : later.frames = low := by
  obtain ⟨frames, shared⟩ := machine
  obtain ⟨top, upper, rfl⟩ := above
  obtain ⟨_, _, same, read⟩ := about
  cases same
  rw [step_decoded read] at ran
  cases ran
  cases upper with
  | nil => rfl
  | cons next others =>
    simp only [List.cons_append, List.length_cons, List.length_append] at uncovered
    omega

/-- The first use of a class that has an initializer: the running frame is back at the instruction, the
static instance is registered and the initializer is entered. -/
theorem step_initializes {next : Machine} {instr : Instr} {a : Activation} {className : String}
    {classFile : ClassFile} {methodIndex : Nat}
    (read : Exec.decoded ⟨top, shared⟩ = .ok instr a)
    (asks : instr.prepares? top.classFile.pool = some className)
    (user : Platform.isPlatform className = false)
    (unprepared : shared.statics? className = none)
    (found : shared.lookup className = .ok classFile)
    (initializer : classFile.findMethod? Exec.initializerName Exec.initializerDescriptor =
      some methodIndex)
    (ran : step ⟨top :: below, shared⟩ = .ok () next) :
    ∃ frame fields, Frame.enter classFile methodIndex [] = .ok frame ∧
      Exec.defaultFields true classFile.fields = .ok fields ∧
      next.frames = frame :: { top with start := top.pc } :: below ∧
      Exec.Registers className fields shared next.shared := by
  obtain ⟨code, sameBytes, sameFrame⟩ := Exec.decoded_frame read
  obtain ⟨opcode, started, _, _, reported⟩ := Exec.decoded_ok.1 read
  have asksNow : instr.prepares? a.frame.classFile.pool = some className := by
    rw [sameFrame]
    exact asks
  have unpreparedNow : a.shared.statics? className = none := by
    rw [reported]
    exact unprepared
  have foundNow : a.shared.lookup className = .ok classFile := by
    rw [reported]
    exact found
  rw [step_decoded read] at ran
  cases executed : Exec.execute instr a with
  | error fault b =>
    rw [executed] at ran
    cases ran
  | ok control b =>
    rw [executed] at ran
    dsimp only at ran
    obtain ⟨rfl, restarted, fields, made, registers⟩ :=
      Exec.execute_initializes asksNow user unpreparedNow foundNow initializer executed
    rw [sameFrame] at restarted
    have back := Frame.restart_eq sameBytes restarted
    rw [apply_call] at ran
    cases entered : Frame.enter classFile methodIndex [] with
    | error fault =>
      rw [entered] at ran
      cases ran
    | ok frame =>
      rw [entered] at ran
      cases ran
      refine ⟨frame, fields, rfl, made, ?_, ?_⟩
      · rw [← back]
      · rw [reported] at registers
        exact ⟨registers.heap, registers.statics⟩

theorem registers_statics? {className : String} {fields : Fields} {old new : Shared}
    (registers : Exec.Registers className fields old new)
    (unprepared : old.statics? className = none) :
    new.statics? className = some old.heap.size := by
  unfold Shared.statics? at unprepared ⊢
  rw [registers.statics, List.lookup_append, unprepared]
  simp

/-- The first use of a class that has an initializer does not touch the frame that is interrupted, except
that it notes where the instruction starts. One object is made: the static instance of the class, in which a
name has a value if and only if a static field of the name has a default. The initializer is entered on top,
without arguments. When it has returned, after any run on top of the frame, the frame is the same, the static
instance is the one registered at first, and the instruction is decoded again and finds its class ready. -/
theorem initialization_transparent (machine next : Machine) (top : Frame) (below : List Frame)
    (instr : Instr) (a : Activation) (className : String) (classFile : ClassFile) (initializer : Member)
    (reachable : machine.Reachable) (running : machine.frames = top :: below)
    (about : machine.AboutTo instr a)
    (asks : instr.prepares? top.classFile.pool = some className)
    (user : Platform.isPlatform className = false)
    (unprepared : machine.shared.statics? className = none)
    (found : machine.shared.lookup className = .ok classFile)
    (listed : initializer ∈ classFile.methods)
    (named : initializer.name = "<clinit>" ∧ initializer.descriptor = "()V")
    (ran : step machine = .ok () next) :
    (∃ frame code fields, next.frames = frame :: { top with start := top.pc } :: below ∧
      frame.classFile = classFile ∧
      classFile.First "<clinit>" "()V" frame.methodIndex frame.method ∧ frame.Begins code [] ∧
      next.shared.heap = machine.shared.heap.push (.instanceOf className fields) ∧
      (∀ name, fields.get? name = classFile.preset? true name) ∧
      next.shared.statics = machine.shared.statics ++ [(className, machine.shared.heap.size)]) ∧
    ∀ last returned b,
      ReflTransGen (StepAvoiding machine.frames.length) next last →
      last.AboutTo .leave b → step last = .ok () returned →
      returned.frames.length = machine.frames.length →
        returned.frames = { top with start := top.pc } :: below ∧
        returned.shared.statics? className = some machine.shared.heap.size ∧
        returned.shared.heap.HoldsInstance machine.shared.heap.size className ∧
        (∃ c, returned.AboutTo instr c ∧ c.frame = a.frame ∧
          Exec.prepare className c = .ok (.ready machine.shared.heap.size) c) ∧
        ∀ operations, (after operations returned).scheduled? ≠ some className := by
  have sound := reachable.sound
  obtain ⟨frames, shared⟩ := machine
  cases running
  obtain ⟨_, _, same, read⟩ := about
  cases same
  obtain ⟨methodIndex, chosen⟩ := ClassFile.findMethod?_of_mem listed
  rw [named.1, named.2] at chosen
  obtain ⟨frame, fields, entered, made, frames, registers⟩ :=
    step_initializes read asks user unprepared found chosen ran
  refine ⟨?_, ?_⟩
  · obtain ⟨owner, position, declared, code, begins⟩ := Frame.begins_of_enter entered
    rw [← position] at chosen declared
    exact ⟨frame, code, fields, frames, owner, ClassFile.first_of_findMethod? chosen declared, begins,
      registers.heap, (Exec.defaultFields_ok made).2, registers.statics⟩
  · intro last returned b run leaving ranLast depth
    obtain ⟨soundLast, extendedLast⟩ := run_sound (step_sound sound ran).1 run
    obtain ⟨soundReturned, extendedReturned⟩ := step_sound soundLast ranLast
    have framesBack : returned.frames = { top with start := top.pc } :: below := by
      have start : next.RunsAbove ({ top with start := top.pc } :: below) := ⟨frame, [], frames⟩
      exact (start.run run).leave leaving ranLast depth
    have known : returned.shared.statics? className = some shared.heap.size :=
      (extendedLast.trans extendedReturned).statics?_eq (registers_statics? registers unprepared)
    refine ⟨framesBack, known, ?_, ?_, ?_⟩
    · exact soundReturned.shared.statics className _ (mem_of_lookup known)
    · obtain ⟨c, again, sameFrame, sameStore⟩ := Exec.decoded_again read returned.shared
      refine ⟨c, ⟨_, _, framesBack, again⟩, sameFrame, Exec.prepare_known ?_⟩
      unfold Shared.statics?
      rw [sameStore.statics]
      exact known
    · intro operations scheduled
      have still := (after_sound operations soundReturned).2.statics?_eq known
      rw [(scheduled?_registered scheduled).1] at still
      cases still

/-- A class whose entry point reads a static field. Its initializer returns at once. -/
def counterBytes : Array UInt8 :=
  (Layout.u4 ClassFile.magic ++ Layout.u2 0 ++ Layout.u2 52 ++
    Entry.encodePool [.utf8 "Counter", .classRef 1, .utf8 "count", .utf8 "I", .nameAndType 3 4,
      .fieldRef 2 5, .utf8 mainName, .utf8 mainDescriptor, .utf8 Exec.initializerName,
      .utf8 Exec.initializerDescriptor, .utf8 "Code"] ++
    Layout.u2 0 ++ Layout.u2 2 ++ Layout.u2 0 ++ Layout.u2 0 ++
    Layout.counted Member.layout [⟨Access.isStatic, 3, 4, "count", "I", []⟩] ++
    Layout.counted Member.layout
      [⟨mainFlags, 7, 8, mainName, mainDescriptor, [.code 11 1 1 #[178, 0, 6, 177] [] []]⟩,
        ⟨Access.isStatic, 9, 10, Exec.initializerName, Exec.initializerDescriptor,
          [.code 11 0 0 #[177] [] []]⟩] ++
    Attribute.layoutAll []).toArray

def counterMachine : Machine :=
  after [.define counterBytes, .start 0 "Counter"] (fresh "" Disk.empty Sink.unbounded 0)

def counterCalled : Machine := final (step counterMachine)

def counterReturned : Machine := final (step counterCalled)

/-- The static instance is made with its one field at zero, the initializer is entered at its start, and when it
has returned the class is never initialized again. -/
theorem counter_initialization_transparent :
    counterMachine.shared.statics? "Counter" = none ∧ counterMachine.frames.length = 1 ∧
      (∃ frame interrupted fields, counterCalled.frames = [frame, interrupted] ∧ frame.pc = 0 ∧
        frame.stack = [] ∧ frame.method.name = "<clinit>" ∧
        counterCalled.shared.heap.objects = #[.instanceOf "Counter" fields] ∧
        fields.get? "count" = some (.int 0) ∧ fields.get? "total" = none) ∧
      counterReturned.frames.length = 1 ∧ counterReturned.shared.statics? "Counter" = some 0 ∧
      ∀ operations, (after operations counterReturned).scheduled? ≠ some "Counter" := by
  have facts :
      counterMachine.frames.length = 1 ∧ counterReturned.frames.length = 1 ∧
      counterMachine.shared.statics? "Counter" = none ∧ counterMachine.shared.heap.objects = #[] ∧
      counterMachine.frames.map (fun top => value? (Exec.decoded ⟨top, counterMachine.shared⟩)) =
        [some (.getstatic 6)] ∧
      counterMachine.frames.map (fun top => Instr.prepares? top.classFile.pool (.getstatic 6)) =
        [some "Counter"] ∧
      (counterMachine.shared.lookup "Counter").toOption.map (fun classFile =>
        (classFile.methods[1]?.map (·.name), classFile.methods[1]?.map (·.descriptor),
          ["count", "total"].map (classFile.preset? true))) =
        some (some "<clinit>", some "()V", [some (.int 0), none]) ∧
      value? (step counterMachine) = some () ∧
      (counterCalled.frames.head?.map
        (fun top => value? (Exec.decoded ⟨top, counterCalled.shared⟩))) = some (some .leave) ∧
      value? (step counterCalled) = some () := by
    decide +kernel
  obtain ⟨one, back, unprepared, empty, decodes, asks, declares, calls, leaves, returns⟩ := facts
  obtain ⟨top, running⟩ := List.length_eq_one_iff.1 one
  rw [running] at decodes asks
  have read := eq_ok_of_value? (List.cons.inj decodes).1
  obtain ⟨classFile, found, shape⟩ := Option.map_eq_some_iff.1 declares
  obtain ⟨named, described, presets⟩ : _ ∧ _ ∧ _ := by simpa only [Prod.mk.injEq] using shape
  obtain ⟨initializer, listed, name⟩ := Option.map_eq_some_iff.1 named
  have descriptor : initializer.descriptor = "()V" := by simpa [listed] using described
  have looked : counterMachine.shared.lookup "Counter" = .ok classFile := eq_ok_of_toOption found
  obtain ⟨called, entered, leave⟩ := Option.map_eq_some_iff.1 leaves
  obtain ⟨others, frames⟩ := List.head?_eq_some_iff.1 entered
  have about : counterCalled.AboutTo .leave _ := ⟨called, others, frames, eq_ok_of_value? leave⟩
  obtain ⟨first, later⟩ := initialization_transparent counterMachine counterCalled top [] (.getstatic 6) _
    "Counter" classFile initializer ⟨_, _, _, _, _, rfl⟩ running ⟨top, [], running, read⟩
    (List.cons.inj asks).1 (by decide) unprepared looked (List.mem_of_getElem? listed)
    ⟨name, descriptor⟩ (eq_ok_of_value? calls)
  have size : counterMachine.shared.heap.size = 0 := congrArg Array.size empty
  have result := later counterCalled counterReturned _ .refl about (eq_ok_of_value? returns)
    (back.trans one.symm)
  rw [size] at result
  refine ⟨unprepared, one, ?_, back, result.2.1, result.2.2.2.2⟩
  obtain ⟨frame, code, fields, stacked, _, chosen, begins, heap, held, _⟩ := first
  simp only [List.map_cons, List.map_nil, List.cons.injEq, and_true] at presets
  refine ⟨frame, _, fields, stacked, begins.pc, begins.stack, chosen.named.1, ?_,
    (held "count").trans presets.1, (held "total").trans presets.2⟩
  rw [heap]
  show counterMachine.shared.heap.objects.push _ = _
  rw [empty]
  rfl

end Machine

end MiniJvm
