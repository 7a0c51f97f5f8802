import MiniJvm.Proofs.Machine.Control
import MiniJvm.Proofs.Machine.LazyInitialization

/-!
Calls are balanced. While a method runs, however many calls it makes in turn, the frames below it stay as
the call left them. Its return gives the frame on top of them the value that it returns, if there is one,
and changes nothing else in them. Nothing but a return takes a frame off.
-/

namespace MiniJvm

open Effect Relation

namespace Machine

variable {machine later : Machine} {instr : Instr} {a b : Activation}

/-- What a returning instruction changes in the frame that its method was called from. -/
inductive Returns (a : Activation) : Instr → Frame → Frame → Prop
  | int {caller : Frame} {value : Value} {stack : List Value} {int : Int32}
      (top : a.frame.stack = value :: stack) (shown : value.toInt? = some int) :
      Returns a .ireturn caller { caller with stack := .int int :: caller.stack }
  | reference {caller : Frame} {stack : List Value} {address : Nat} {tag : String}
      (top : a.frame.stack = .reference address tag :: stack) :
      Returns a .areturn caller { caller with stack := .reference address tag :: caller.stack }
  | nothing {caller : Frame} : Returns a .leave caller caller

theorem returns_of_asks {value : Option Value} (asks : Exec.Asks a instr (.leave value) b)
    (caller : Frame) (below : List Frame) :
    ∃ received, Returns a instr caller received ∧
      delivered value (caller :: below) = received :: below := by
  cases asks with
  | ireturn popped =>
    obtain ⟨value, shown, top⟩ := Exec.popInt_ok popped
    exact ⟨_, .int top shown, rfl⟩
  | areturn popped => exact ⟨_, .reference (Exec.popAny_ok popped), rfl⟩
  | leave => exact ⟨caller, .nothing, rfl⟩

theorem step_leaves (ran : step machine = .ok () later)
    (fewer : later.frames.length < machine.frames.length) :
    ∃ top below instr a value b, machine.frames = top :: below ∧
      Exec.decoded ⟨top, machine.shared⟩ = .ok instr a ∧ Exec.Asks a instr (.leave value) b ∧
      later.frames = delivered value below := by
  obtain ⟨top, below, instr, a, control, b, frames, read, executed, applied⟩ := step_ok ran
  have asks := Exec.asks_execute executed
  have applied := apply_frames applied
  rw [frames] at fewer
  cases control with
  | proceed => simp [applied] at fewer
  | call classFile methodIndex arguments =>
    obtain ⟨callee, applied⟩ := applied
    simp only [applied, List.length_cons] at fewer
    omega
  | leave value => exact ⟨top, below, instr, a, value, b, frames, read, asks, applied⟩

/-- A step that puts a frame on top executes a call, or an instruction that has to wait for the initializer
of a class. -/
theorem step_calls (ran : step machine = .ok () later)
    (more : later.frames.length = machine.frames.length + 1) :
    ∃ instr a callee caller below, machine.AboutTo instr a ∧
      (instr.Invokes ∨ ∃ className, machine.scheduled? = some className) ∧
      later.frames = callee :: caller :: below := by
  obtain ⟨top, below, instr, a, control, b, frames, read, executed, applied⟩ := step_ok ran
  have applied := apply_frames applied
  rw [frames] at more
  cases Exec.asks_execute executed with
  | proceed => simp [applied] at more
  | call cause prepares =>
    obtain ⟨callee, applied⟩ := applied
    refine ⟨instr, a, callee, b.frame, below, ⟨top, below, frames, read⟩, ?_, applied⟩
    refine cause.imp_right fun ⟨className, asked⟩ => ⟨className, ?_⟩
    unfold scheduled?
    simp only [frames, read, executed]
    exact asked
  | _ =>
    simp only [applied, length_delivered, List.length_cons] at more
    omega

theorem length_of_step_error {fault : Fault} (failed : step machine = .error fault later) :
    later.frames.length = machine.frames.length := by
  rcases step_error failed with ⟨_, rfl⟩ | ⟨top, below, b, frames, rfl, _⟩
  · rfl
  · rw [frames]
    rfl

/-- The return that uncovers the frames below hands its value to the first of them. -/
theorem RunsAbove.returns {caller : Frame} {below : List Frame}
    (above : machine.RunsAbove (caller :: below)) (ran : Machine.step machine = .ok () later)
    (uncovered : later.frames.length = (caller :: below).length) :
    ∃ instr a received, machine.AboutTo instr a ∧ Returns a instr caller received ∧
      later.frames = received :: below := by
  obtain ⟨top, upper, frames⟩ := above
  have fewer : later.frames.length < machine.frames.length := by
    rw [uncovered, frames]
    simp only [List.length_cons, List.length_append]
    omega
  obtain ⟨top', rest, instr, a, value, b, frames', read, asks, left⟩ := step_leaves ran fewer
  have same : rest = upper ++ caller :: below := by
    rw [frames] at frames'
    exact (List.cons.inj frames').2.symm
  -- One frame has gone and only the low ones are left, so none was between them and the running one.
  have empty : upper = [] := by
    rw [left, length_delivered, same, List.length_append] at uncovered
    exact List.eq_nil_of_length_eq_zero (by omega)
  rw [same, empty] at left
  obtain ⟨received, returns, shape⟩ := returns_of_asks asks caller below
  exact ⟨instr, a, received, ⟨top', rest, frames', read⟩, returns, left.trans shape⟩

theorem step_pastEnd {top : Frame} {below : List Frame} (frames : machine.frames = top :: below)
    (ended : top.code.isExhausted = true) :
    step machine = .error (.missingReturn top.classFile.name top.method.name) machine := by
  obtain ⟨frames', shared⟩ := machine
  cases frames
  have stuck : Exec.instruction ⟨top, shared⟩ =
      .error (.missingReturn top.classFile.name top.method.name) ⟨top, shared⟩ := by
    apply bind_error.2
    refine .inl (bind_error.2 (.inr ⟨none, ⟨top, shared⟩, ?_, rfl⟩))
    unfold Exec.onFrame Frame.nextOpcode
    simp only [if_pos ended]
  rw [step_cons, stuck]

/-- A call and the return from it, with any run in between that stays above the caller: the frames below
the method that is called stay the same, and its return adds what it returns to the operand stack of the
caller. Frames are taken off by returns only, and code that runs off its end fails. -/
theorem calls_balanced (machine : Machine) :
    (∀ next, step machine = .ok () next → next.frames.length = machine.frames.length + 1 →
      (∃ instr a, machine.AboutTo instr a ∧
        (instr.Invokes ∨ ∃ className, machine.scheduled? = some className)) ∧
      ∃ callee caller below, next.frames = callee :: caller :: below ∧
        (∀ later, ReflTransGen (StepAvoiding machine.frames.length) next later →
          ∃ top upper, later.frames = top :: (upper ++ caller :: below)) ∧
        ∀ last returned, ReflTransGen (StepAvoiding machine.frames.length) next last →
          step last = .ok () returned → returned.frames.length = machine.frames.length →
            ∃ instr a received, last.AboutTo instr a ∧ Returns a instr caller received ∧
              returned.frames = received :: below) ∧
    ((final (step machine)).frames.length < machine.frames.length →
      ∃ instr a, machine.AboutTo instr a ∧
        (instr = .ireturn ∨ instr = .areturn ∨ instr = .leave)) ∧
    (∀ top below, machine.frames = top :: below → top.code.isExhausted = true →
      step machine = .error (.missingReturn top.classFile.name top.method.name) machine) := by
  refine ⟨?_, ?_, fun top below => step_pastEnd⟩
  · intro next ran more
    obtain ⟨instr, a, callee, caller, below, about, cause, frames⟩ := step_calls ran more
    have depth : machine.frames.length = (caller :: below).length := by
      rw [frames] at more
      exact (Nat.succ.inj more).symm
    have start : next.RunsAbove (caller :: below) := ⟨callee, [], frames⟩
    rw [depth]
    refine ⟨⟨instr, a, about, cause⟩, callee, caller, below, frames, fun later run => start.run run, ?_⟩
    intro last returned run ranLast back
    exact (start.run run).returns ranLast back
  · intro fewer
    cases ran : step machine with
    | error fault later =>
      rw [ran] at fewer
      have same := length_of_step_error ran
      exact absurd fewer (by simp [final, same])
    | ok value later =>
      rw [ran] at fewer
      obtain ⟨top, below, instr, a, value, b, frames, read, asks, _⟩ := step_leaves ran fewer
      refine ⟨instr, a, ⟨top, below, frames, read⟩, ?_⟩
      cases asks with
      | ireturn => exact .inl rfl
      | areturn => exact .inr (.inl rfl)
      | leave => exact .inr (.inr rfl)

/-- A class whose entry point calls a method that returns five. -/
def fiveBytes : Array UInt8 :=
  (Layout.u4 ClassFile.magic ++ Layout.u2 0 ++ Layout.u2 52 ++
    Entry.encodePool [.utf8 "Main", .classRef 1, .utf8 "five", .utf8 "()I", .nameAndType 3 4,
      .methodRef 2 5, .utf8 mainName, .utf8 mainDescriptor, .utf8 "Code"] ++
    Layout.u2 0 ++ Layout.u2 2 ++ Layout.u2 0 ++ Layout.u2 0 ++
    Layout.counted Member.layout [] ++
    Layout.counted Member.layout
      [⟨mainFlags, 7, 8, mainName, mainDescriptor, [.code 9 1 1 #[184, 0, 6, 177] [] []]⟩,
        ⟨Access.isStatic, 3, 4, "five", "()I", [.code 9 1 0 #[8, 172] [] []]⟩] ++
    Attribute.layoutAll []).toArray

def fiveMachine : Machine :=
  after [.define fiveBytes, .start 0 "Main"] (fresh "" Disk.empty Sink.unbounded 0)

def fiveCalled : Machine := final (step fiveMachine)

def fivePushed : Machine := final (step fiveCalled)

def fiveReturned : Machine := final (step fivePushed)

theorem five_call_balanced :
    fiveReturned.frames.map Frame.stack = [[.int 5]] ∧
      ∃ callee caller instr a received, fiveCalled.frames = [callee, caller] ∧
        fivePushed.AboutTo instr a ∧ Returns a instr caller received ∧
        fiveReturned.frames = [received] := by
  have facts :
      fiveMachine.frames.length = 1 ∧ fiveCalled.frames.length = 2 ∧ fivePushed.frames.length = 2 ∧
      fiveReturned.frames.map Frame.stack = [[.int 5]] ∧ value? (step fiveMachine) = some () ∧
      value? (step fiveCalled) = some () ∧ value? (step fivePushed) = some () := by
    decide +kernel
  obtain ⟨one, two, still, operands, calls, pushes, returns⟩ := facts
  have back : fiveReturned.frames.length = 1 := by
    rw [← List.length_map (f := Frame.stack), operands]
    rfl
  have balanced := calls_balanced fiveMachine
  rw [one] at balanced
  obtain ⟨_, callee, caller, below, frames, _, returned⟩ :=
    balanced.1 fiveCalled (eq_ok_of_value? calls) two
  have run : ReflTransGen (StepAvoiding 1) fiveCalled fivePushed :=
    .single ⟨eq_ok_of_value? pushes, by rw [still]; decide⟩
  obtain ⟨instr, a, received, about, result, left⟩ :=
    returned fivePushed fiveReturned run (eq_ok_of_value? returns) back
  have alone : below = [] := by
    rw [left] at back
    exact List.eq_nil_of_length_eq_zero (Nat.succ.inj back)
  subst alone
  exact ⟨operands, callee, caller, instr, a, received, frames, about, result, left⟩

end Machine

end MiniJvm
