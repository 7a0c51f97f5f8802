import MiniJvm.Proofs.Machine.Outcome
import MiniJvm.Proofs.Machine.ReferenceSafety

/-!
Where the program counter goes. After an instruction it is behind the bytes of the instruction, at the
target of a branch that is taken, or back at the instruction if a class has to be initialized first. A
target is an offset from the address of the branch, and it has to be in the code or right at its end.
-/

namespace MiniJvm

open Effect

namespace Frame

/-- Whether the branch with this opcode is taken, if it is a branch and has its operands. -/
def taken? (frame : Frame) (opcode : UInt8) : Option Bool :=
  (Condition.ofOpcode? opcode).bind (·.holds? frame.stack)

/-- The address that a branch at the program counter leads to. -/
def target (frame : Frame) : Int :=
  frame.pc + frame.operand.toInt16.toInt

end Frame

theorem Instr.Encodes.decides {opcode : UInt8} {word : UInt16} {instr : Instr}
    (encodes : Encodes opcode word instr) (stack : List Value) :
    instr.decides? stack = ((Condition.ofOpcode? opcode).bind (·.holds? stack)).map
      (·, word.toInt16.toInt - 3) := by
  unfold decides?
  rw [encodes.branching]
  cases Condition.ofOpcode? opcode with
  | none => rfl
  | some condition => rfl

namespace Exec

variable {α : Type} {top : Frame} {shared : Shared} {instr : Instr} {a b : Activation}
  {allowed : Fault → Prop}

/-! ### Decoding -/

theorem failsOnly_onFrame {action : Frame.Action α} (only : FailsOnly allowed action) :
    FailsOnly allowed (onFrame action) := by
  intro a b fault failed
  unfold onFrame at failed
  split at failed
  · cases failed
  next refused =>
    cases failed
    exact only refused

theorem failsOnly_reading {read : Decode α} (only : FailsOnly Fault.OfFile read) :
    FailsOnly Fault.Ordinary (Frame.reading read) := by
  intro frame later fault failed
  unfold Frame.reading at failed
  split at failed
  · cases failed
  next refused =>
    cases failed
    exact (only refused).ordinary

theorem failsOnly_frame_u1 : FailsOnly Fault.Ordinary Frame.u1 :=
  failsOnly_reading Cursor.failsOnly_u1

theorem failsOnly_frame_u2 : FailsOnly Fault.Ordinary Frame.u2 :=
  failsOnly_reading Cursor.failsOnly_u2

theorem failsOnly_offset : FailsOnly Fault.Ordinary Frame.offset :=
  failsOnly_bind failsOnly_frame_u2 fun _ => failsOnly_pure _

theorem failsOnly_i1 : FailsOnly Fault.Ordinary Frame.i1 :=
  failsOnly_bind failsOnly_frame_u1 fun _ => failsOnly_pure _

theorem failsOnly_decode (opcode : UInt8) : FailsOnly Fault.Ordinary (Instr.decode opcode) := by
  unfold Instr.decode
  split
  · exact failsOnly_pure _
  split
  · exact failsOnly_bind failsOnly_frame_u1 fun _ => failsOnly_pure _
  split
  · exact failsOnly_bind failsOnly_offset fun _ => failsOnly_pure _
  split
  · exact failsOnly_bind failsOnly_frame_u2 fun _ => failsOnly_pure _
  split
  · exact failsOnly_bind failsOnly_frame_u1 fun _ => failsOnly_bind failsOnly_i1 fun _ =>
      failsOnly_pure _
  split
  · exact failsOnly_bind failsOnly_frame_u2 fun _ => failsOnly_bind failsOnly_frame_u2 fun _ =>
      failsOnly_pure _
  · intro frame later fault failed
    cases failed
    trivial

theorem failsOnly_nextOpcode : FailsOnly Fault.Ordinary Frame.nextOpcode := by
  intro frame later fault failed
  unfold Frame.nextOpcode at failed
  split at failed
  · cases failed
  · exact failsOnly_map some failsOnly_frame_u1 failed

/-- What goes wrong before an instruction is executed has nothing to do with addresses. -/
theorem failsOnly_decoded : FailsOnly Fault.Ordinary decoded := by
  refine failsOnly_bind (failsOnly_bind (failsOnly_onFrame failsOnly_nextOpcode) fun found => ?_)
    fun opcode => failsOnly_bind ?_ fun _ => failsOnly_onFrame (failsOnly_decode opcode)
  · cases found with
    | some opcode => exact failsOnly_pure opcode
    | none =>
      intro a b fault failed
      cases failed
      trivial
  · intro a b fault failed
    cases failed

theorem u2_succeeds {c : Cursor} (fits : c.position + 2 ≤ c.bytes.size) :
    ∃ word d, Cursor.u2 c = .ok word d := by
  have taken : Cursor.take 2 c = .ok _ _ := dif_pos fits
  exact ⟨_, _, map_ok.2 ⟨_, bind_ok.2 ⟨_, _, taken, pure_ok.2 ⟨rfl, rfl⟩⟩, rfl⟩⟩

theorem decode_branch {opcode : UInt8} {condition : Condition}
    (known : Condition.ofOpcode? opcode = some condition) :
    Instr.decode opcode = do return condition.instr (← Frame.offset) := by
  obtain ⟨_, _, plain, byte⟩ := Instr.condition_table opcode condition known
  unfold Instr.decode
  rw [plain, Option.isNone_iff_eq_none.1 byte, Instr.branch?_eq, known]
  rfl

theorem decoded_branch {opcode : UInt8} {condition : Condition}
    (fetched : top.peekOpcode? = some opcode)
    (known : Condition.ofOpcode? opcode = some condition)
    (complete : top.pc + 3 ≤ top.code.size) (shared : Shared) :
    ∃ instr a, decoded ⟨top, shared⟩ = .ok instr a := by
  unfold Frame.pc Cursor.size at complete
  unfold Frame.peekOpcode? at fetched
  split at fetched
  next found code read =>
    cases fetched
    have spans := Cursor.u1_spans.1 read
    have opened := Frame.nextOpcode_of_spans spans
    have fits : code.position + 2 ≤ code.bytes.size := by
      rw [spans.1, spans.position]
      exact complete
    obtain ⟨word, d, operand⟩ := u2_succeeds fits
    have wordRead : Frame.u2 { top with start := top.pc, code } =
        .ok word { top with start := top.pc, code := d } := by
      unfold Frame.u2 Frame.reading
      dsimp only
      rw [operand]
    have decodes : Instr.decode opcode { top with start := top.pc, code } =
        .ok (condition.instr (word.toInt16.toInt - 3)) { top with start := top.pc, code := d } := by
      rw [decode_branch known]
      exact bind_ok.2 ⟨_, _, bind_ok.2 ⟨_, _, wordRead, rfl⟩, rfl⟩
    exact ⟨_, ⟨_, _⟩, decoded_ok.2 ⟨opcode, _, opened, decodes, rfl⟩⟩
  next => cases fetched

/-! ### Branching -/

/-- What is known of an instruction that has been decoded, in terms of its opcode. -/
structure Located (top : Frame) (opcode : UInt8) (instr : Instr) (a : Activation) : Prop where
  bytes : a.frame.code.bytes = top.code.bytes
  position : a.frame.code.position = top.code.position + Instr.length opcode
  decides : instr.decides? a.frame.stack =
    (top.taken? opcode).map (·, top.operand.toInt16.toInt - 3)
  length : (top.taken? opcode).isSome → Instr.length opcode = 3

theorem located {opcode : UInt8} (fetched : top.peekOpcode? = some opcode)
    (read : decoded ⟨top, shared⟩ = .ok instr a) : Located top opcode instr a := by
  obtain ⟨code, sameBytes, sameFrame⟩ := decoded_frame read
  obtain ⟨found, shown, moved, encodes⟩ := decoded_encodes read
  cases fetched.symm.trans shown
  refine ⟨by rw [sameFrame]; exact sameBytes, moved, ?_, fun branch => ?_⟩
  · rw [sameFrame]
    exact encodes.decides top.stack
  · unfold Frame.taken? at branch
    cases known : Condition.ofOpcode? opcode with
    | none => simp [known] at branch
    | some condition => exact (Instr.condition_table opcode condition known).1

theorem Located.undecided {opcode : UInt8} (here : Located top opcode instr a)
    (straight : instr.decides? a.frame.stack = none) : top.taken? opcode = none := by
  rw [here.decides] at straight
  exact Option.map_eq_none_iff.1 straight

theorem Located.decided {opcode : UInt8} {taken : Bool} {offset : Int}
    (here : Located top opcode instr a)
    (decides : instr.decides? a.frame.stack = some (taken, offset)) :
    top.taken? opcode = some taken ∧ a.frame.code.position + offset = top.target ∧
      Instr.length opcode = 3 := by
  rw [here.decides] at decides
  obtain ⟨_, shown, same⟩ := Option.map_eq_some_iff.1 decides
  cases same
  have three := here.length (by rw [shown]; rfl)
  refine ⟨shown, ?_, three⟩
  rw [here.position, three, Frame.target, Frame.pc]
  omega

theorem straight_of_prepares {pool : Pool} {className : String}
    (asks : instr.prepares? pool = some className) : instr.branching? = none := by
  cases instr with
  | goto offset => cases asks
  | branchZero comparison offset => cases asks
  | branchInts comparison offset => cases asks
  | _ => rfl

/-- An instruction that has been executed is behind its bytes or at the target of its branch. -/
theorem execute_moves {opcode : UInt8} {control : Control} (here : Located top opcode instr a)
    (inside : a.frame.start ≤ a.frame.code.size) (ran : execute instr a = .ok control b)
    (ready : ∀ className, instr.prepares? a.frame.classFile.pool = some className →
      prepare className a ≠ .ok (.pending control) b) :
    b.frame.code.bytes = top.code.bytes ∧ (b.frame.pc : Int) =
      if top.taken? opcode = some true then top.target else top.pc + Instr.length opcode := by
  have position := here.position
  have outcome := outcome_execute inside instr
  rw [ran] at outcome
  cases outcome with
  | trades _ straight _ frame =>
    obtain ⟨stack, locals, same⟩ := frame
    rw [same, here.undecided straight]
    exact ⟨here.bytes, by simp [Frame.pc, position]⟩
  | branches _ decides _ same moved =>
    obtain ⟨taken, target, _⟩ := here.decided decides
    refine ⟨same.trans here.bytes, ?_⟩
    rw [taken]
    show (Cursor.position _ : Int) = _
    rw [moved]
    split
    next yes => simp [yes, target]
    next no => simp [no, Frame.pc, position]
  | rewinds _ asks pending => exact absurd pending (ready _ asks)

end Exec

namespace Machine

variable {machine later : Machine} {top : Frame} {below : List Frame} {opcode : UInt8}

theorem step_moves (running : machine.frames = top :: below)
    (fetched : top.peekOpcode? = some opcode) (ran : step machine = .ok () later)
    (stays : machine.frames.length ≤ later.frames.length) :
    ∃ frame, (later.frames = frame :: below ∨ ∃ callee, later.frames = callee :: frame :: below) ∧
      frame.code.bytes = top.code.bytes ∧ (frame.pc : Int) =
        if top.taken? opcode = some true then top.target
        else if machine.scheduled?.isSome then top.pc
        else top.pc + Instr.length opcode := by
  obtain ⟨_, _, instr, a, control, b, frames, read, executed, applied⟩ := step_ok ran
  cases running.symm.trans frames
  have here := Exec.located fetched read
  rw [running] at stays
  refine ⟨b.frame, apply_stays applied stays, ?_⟩
  cases scheduled : machine.scheduled? with
  | none =>
    have ready : ∀ className, instr.prepares? a.frame.classFile.pool = some className →
        Exec.prepare className a ≠ .ok (.pending control) b := by
      intro className asks pending
      rw [scheduled?_of_pending running read executed asks pending] at scheduled
      cases scheduled
    exact Exec.execute_moves here (Exec.decoded_inside read) executed ready
  | some name =>
    obtain ⟨_, _, _, _, _, _, frames', read', executed', asks, pending⟩ := scheduled?_ok scheduled
    cases running.symm.trans frames'
    cases read.symm.trans read'
    cases executed.symm.trans executed'
    obtain ⟨_, _, _, _, _, _, _, _, restarted⟩ := Exec.prepare_pending_ok pending
    obtain ⟨code, sameBytes, sameFrame⟩ := Exec.decoded_frame read
    rw [sameFrame] at restarted
    have straight : instr.decides? a.frame.stack = none := by
      simp [Instr.decides?, Exec.straight_of_prepares asks]
    rw [Frame.restart_eq sameBytes restarted, here.undecided straight]
    exact ⟨rfl, rfl⟩

theorem apply_error {control : Control} {shared : Shared} {fault : Fault}
    (failed : apply control ⟨top :: below, shared⟩ = .error fault later) : fault.Ordinary := by
  cases control with
  | proceed => cases failed
  | leave value =>
    rw [apply_leave] at failed
    cases failed
  | call classFile methodIndex arguments =>
    rw [apply_call] at failed
    split at failed
    · cases failed
    next refused =>
      cases failed
      exact errsOnly_enter _ _ _ refused

/-- A step that fails because of a target has taken a branch to it. -/
theorem step_strays {target : Int} (running : machine.frames = top :: below)
    (fetched : top.peekOpcode? = some opcode)
    (failed : step machine = .error (.branchOutside target) later) :
    top.taken? opcode = some true ∧ top.pc + 3 ≤ top.code.size ∧ target = top.target ∧
      ¬ (0 ≤ target ∧ target ≤ top.code.size) := by
  obtain ⟨_, shared⟩ := machine
  cases running
  cases read : Exec.decoded ⟨top, shared⟩ with
  | error fault a =>
    rw [step_undecoded read] at failed
    cases failed
    exact (Exec.failsOnly_decoded read).elim
  | ok instr a =>
    have here := Exec.located fetched read
    have outcome := Exec.outcome_execute (Exec.decoded_inside read) instr
    rw [step_decoded read] at failed
    cases executed : Exec.execute instr a with
    | ok control b =>
      rw [executed] at failed
      exact (apply_error failed).elim
    | error fault b =>
      rw [executed] at failed outcome
      cases failed
      cases outcome with
      | fails _ _ direct => exact absurd trivial direct
      | strays decides outside =>
        obtain ⟨taken, target, three⟩ := here.decided decides
        have inside := a.frame.code.inside
        rw [here.position, here.bytes, three] at inside
        refine ⟨taken, inside, target, ?_⟩
        unfold Cursor.size at outside ⊢
        rw [here.bytes] at outside
        exact outside

/-- A branch that has its operands jumps, goes on behind its bytes, or leads out of the code. -/
theorem step_branches {taken : Bool} (running : machine.frames = top :: below)
    (fetched : top.peekOpcode? = some opcode) (decided : top.taken? opcode = some taken)
    (complete : top.pc + 3 ≤ top.code.size) :
    (∃ later, step machine = .ok () later ∧
      (taken = true → 0 ≤ top.target ∧ top.target ≤ top.code.size)) ∨
    (taken = true ∧ ∃ later, step machine = .error (.branchOutside top.target) later) := by
  obtain ⟨_, shared⟩ := machine
  cases running
  obtain ⟨condition, known, _⟩ := Option.bind_eq_some_iff.1 decided
  obtain ⟨instr, a, read⟩ := Exec.decoded_branch fetched known complete shared
  have here := Exec.located fetched read
  have outcome := Exec.outcome_execute (Exec.decoded_inside read) instr
  rw [step_decoded read]
  generalize Exec.execute instr a = result at outcome
  cases outcome with
  | trades _ straight => simp [here.undecided straight] at decided
  | rewinds straight => simp [here.undecided straight] at decided
  | fails straight => simp [here.undecided straight] at decided
  | strays decides outside =>
    obtain ⟨shown, target, _⟩ := here.decided decides
    cases decided.symm.trans shown
    rw [target]
    exact .inr ⟨rfl, _, rfl⟩
  | @branches code _ _ _ _ _ decides _ same moved =>
    obtain ⟨shown, target, _⟩ := here.decided decides
    cases decided.symm.trans shown
    refine .inl ⟨_, rfl, fun yes => ?_⟩
    have inside := code.inside
    rw [if_pos yes, target] at moved
    rw [same, here.bytes] at inside
    unfold Cursor.size
    omega

/-- Where the program counter goes in a step, at the instruction with this opcode. The frame is behind the
instruction if the step leaves it on the stack, unless a branch is taken or the instruction is started
over for an initializer. A step fails because of a target exactly when a branch is taken to an address
that is neither in the code nor at its end; a branch that is not taken does not care for its target. -/
theorem control_flow (machine : Machine) (top : Frame) (below : List Frame) (opcode : UInt8)
    (running : machine.frames = top :: below) (fetched : top.peekOpcode? = some opcode) :
    (∀ later, step machine = .ok () later → machine.frames.length ≤ later.frames.length →
      ∃ frame, (later.frames = frame :: below ∨ ∃ callee, later.frames = callee :: frame :: below) ∧
        frame.code.bytes = top.code.bytes ∧ (frame.pc : Int) =
          if top.taken? opcode = some true then top.pc + top.operand.toInt16.toInt
          else if machine.scheduled?.isSome then top.pc
          else top.pc + Instr.length opcode) ∧
    (∀ target, (∃ later, step machine = .error (.branchOutside target) later) ↔
      top.taken? opcode = some true ∧ top.pc + 3 ≤ top.code.size ∧
        target = top.pc + top.operand.toInt16.toInt ∧ ¬ (0 ≤ target ∧ target ≤ top.code.size)) ∧
    (top.taken? opcode = some false → top.pc + 3 ≤ top.code.size →
      ∃ later, step machine = .ok () later) := by
  refine ⟨fun later ran stays => step_moves running fetched ran stays, fun target => ⟨?_, ?_⟩, ?_⟩
  · rintro ⟨later, failed⟩
    exact step_strays running fetched failed
  · rintro ⟨taken, complete, rfl, outside⟩
    rcases step_branches running fetched taken complete with ⟨_, _, inside⟩ | ⟨_, failed⟩
    · exact absurd (inside rfl) outside
    · exact failed
  · intro untaken complete
    rcases step_branches running fetched untaken complete with ⟨later, ran, _⟩ | ⟨yes, _⟩
    · exact ⟨later, ran⟩
    · cases yes

/-- An entry point that pushes zero and branches back to its start if it is zero. -/
def backMain : ClassFile :=
  { arrayMain with
    methods :=
      [⟨mainFlags, 0, 0, mainName, mainDescriptor, [.code 0 2 1 #[3, 153, 255, 255, 177] [] []]⟩] }

def backMachine : Machine :=
  after [.enterMain backMain, .step] (fresh "" Disk.empty Sink.unbounded 0)

theorem back_branch_control_flow :
    backMachine.frames.map Frame.pc = [1] ∧
      ∃ later frame, step backMachine = .ok () later ∧ later.frames = [frame] ∧ frame.pc = 0 := by
  have facts :
      backMachine.frames.map Frame.pc = [1] ∧
      backMachine.frames.map Frame.peekOpcode? = [some 153] ∧
      backMachine.frames.map (Frame.taken? · 153) = [some true] ∧
      backMachine.frames.map (·.operand.toInt16.toInt) = [-1] ∧
      value? (step backMachine) = some () ∧ (final (step backMachine)).frames.length = 1 := by
    decide +kernel
  obtain ⟨counters, opcodes, taken, operands, succeeds, alone⟩ := facts
  refine ⟨counters, final (step backMachine), ?_⟩
  obtain ⟨top, running⟩ := List.length_eq_one_iff.1 (by simpa using congrArg List.length counters)
  simp only [running, List.map_cons, List.map_nil, List.cons.injEq, and_true]
    at counters opcodes taken operands
  have ran := eq_ok_of_value? succeeds
  obtain ⟨frame, kept, _, moved⟩ :=
    (control_flow backMachine top [] 153 running opcodes).1 _ ran (by simp [running, alone])
  rw [if_pos taken, counters, operands] at moved
  rcases kept with same | ⟨callee, same⟩
  · exact ⟨frame, ran, same, by omega⟩
  · simp [same] at alone

end Machine

end MiniJvm
