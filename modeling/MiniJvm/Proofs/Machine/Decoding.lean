import MiniJvm.Proofs.Machine.Preparation

/-!
Fetching and decoding move the program counter and note where the instruction starts. An instruction that
is started over finds the frame as it was, and the same instruction is decoded again.
-/

namespace MiniJvm

open Effect

theorem Cursor.jumpTo_ok {target : Nat} {c d : Cursor} {position : Nat}
    (jumped : jumpTo target c = .ok position d) : d.bytes = c.bytes ∧ d.position = target := by
  unfold jumpTo at jumped
  split at jumped
  · cases jumped
    exact ⟨rfl, Int.toNat_natCast target⟩
  · cases jumped

namespace Frame

variable {α β : Type}

/-- A successful action moves the program counter at most. -/
def Reads (action : Action α) : Prop :=
  ∀ ⦃frame later : Frame⦄ ⦃value : α⦄, action frame = .ok value later →
    ∃ code, code.bytes = frame.code.bytes ∧ later = { frame with code }

theorem reads_pure (value : α) : Reads (pure value : Action α) := by
  intro frame later result ran
  obtain ⟨_, rfl⟩ := pure_ok.1 ran
  exact ⟨frame.code, rfl, rfl⟩

theorem reads_bind {first : Action α} {next : α → Action β} (reads : Reads first)
    (readsNext : ∀ value, Reads (next value)) : Reads (first >>= next) := by
  intro frame later result ran
  obtain ⟨value, middle, ranFirst, ranNext⟩ := bind_ok.1 ran
  obtain ⟨code, sameBytes, rfl⟩ := reads ranFirst
  obtain ⟨last, stillSame, rfl⟩ := readsNext value ranNext
  exact ⟨last, stillSame.trans sameBytes, rfl⟩

theorem reads_reading {read : Decode α} (steers : Exec.Steers read) : Reads (reading read) := by
  intro frame later value ran
  have kept := steers.1 frame.code
  unfold reading at ran
  cases result : read frame.code with
  | ok found code =>
    rw [result] at ran kept
    cases ran
    exact ⟨code, kept, rfl⟩
  | error fault code =>
    rw [result] at ran
    cases ran

theorem reads_u1 : Reads u1 := reads_reading (Exec.steers_map _ (Exec.steers_number 1))

theorem reads_u2 : Reads u2 := reads_reading (Exec.steers_map _ (Exec.steers_number 2))

theorem reads_i1 : Reads i1 := reads_bind reads_u1 fun _ => reads_pure _

theorem reads_offset : Reads offset := reads_bind reads_u2 fun _ => reads_pure _

theorem reads_decode (opcode : UInt8) : Reads (Instr.decode opcode) := by
  unfold Instr.decode
  split
  · exact reads_pure _
  split
  · exact reads_bind reads_u1 fun _ => reads_pure _
  split
  · exact reads_bind reads_offset fun _ => reads_pure _
  split
  · exact reads_bind reads_u2 fun _ => reads_pure _
  split
  · exact reads_bind reads_u1 fun _ => reads_bind reads_i1 fun _ => reads_pure _
  split
  · exact reads_bind reads_u2 fun _ => reads_bind reads_u2 fun _ => reads_pure _
  · intro frame later value ran
    cases ran

theorem nextOpcode_ok {frame started : Frame} {opcode : UInt8}
    (ran : nextOpcode frame = .ok (some opcode) started) :
    frame.code.isExhausted = false ∧
      (some <$> reading Cursor.u1) { frame with start := frame.pc } = .ok (some opcode) started := by
  unfold nextOpcode at ran
  cases exhausted : frame.code.isExhausted with
  | true =>
    rw [if_pos exhausted] at ran
    cases ran
  | false =>
    rw [if_neg (by simp [exhausted])] at ran
    exact ⟨rfl, ran⟩

/-- Where the instruction before started does not matter to the next one. -/
theorem nextOpcode_start {frame started : Frame} {opcode : UInt8}
    (ran : nextOpcode frame = .ok (some opcode) started) (start : Nat) :
    nextOpcode { frame with start } = .ok (some opcode) started := by
  obtain ⟨more, read⟩ := nextOpcode_ok ran
  unfold nextOpcode
  rw [if_neg (by simp [more])]
  exact read

theorem nextOpcode_frame {frame started : Frame} {opcode : UInt8}
    (ran : nextOpcode frame = .ok (some opcode) started) :
    ∃ code, code.bytes = frame.code.bytes ∧ started = { frame with start := frame.pc, code } := by
  obtain ⟨value, read, _⟩ := map_ok.1 (nextOpcode_ok ran).2
  exact reads_u1 read

/-- Starting over undoes all that fetching and decoding did, except for the note of the start. -/
theorem restart_eq {frame later : Frame} {code : Cursor} (same : code.bytes = frame.code.bytes)
    (ran : restart { frame with start := frame.pc, code } = .ok () later) :
    later = { frame with start := frame.pc } := by
  obtain ⟨position, jumped, _⟩ := map_ok.1 (show (discard (reading (Cursor.jumpTo frame.pc)))
    { frame with start := frame.pc, code } = .ok () later from ran)
  unfold reading at jumped
  cases moved : Cursor.jumpTo frame.pc code with
  | error fault stuck =>
    rw [moved] at jumped
    cases jumped
  | ok target back =>
    rw [moved] at jumped
    cases jumped
    have returned : back = frame.code := by
      obtain ⟨sameBytes, samePosition⟩ := Cursor.jumpTo_ok moved
      exact Cursor.ext (sameBytes.trans same) samePosition
    rw [returned]

end Frame

namespace Exec

variable {top : Frame} {shared : Shared} {instr : Instr} {a : Activation}

theorem decoded_ok : decoded ⟨top, shared⟩ = .ok instr a ↔
    ∃ opcode started, Frame.nextOpcode top = .ok (some opcode) started ∧
      Instr.decode opcode started = .ok instr a.frame ∧
      a.shared = shared.reported (.instruction opcode started.start) := by
  constructor
  · intro ran
    obtain ⟨opcode, b, fetching, reporting⟩ := bind_ok.1 ran
    obtain ⟨found, c, opening, choosing⟩ := bind_ok.1 fetching
    obtain ⟨opened, sameShared⟩ := onFrame_ok opening
    cases found with
    | none => cases choosing
    | some first =>
      obtain ⟨rfl, rfl⟩ := pure_ok.1 choosing
      obtain ⟨_, d, reported, decoding⟩ := bind_ok.1 reporting
      cases reported
      obtain ⟨done, keptShared⟩ := onFrame_ok decoding
      refine ⟨first, c.frame, opened, done, ?_⟩
      rw [keptShared, sameShared]
      rfl
  · rintro ⟨opcode, started, opened, done, reported⟩
    have opening : onFrame Frame.nextOpcode ⟨top, shared⟩ = .ok (some opcode) ⟨started, shared⟩ := by
      unfold onFrame
      rw [opened]
    refine bind_ok.2 ⟨opcode, ⟨started, shared⟩, bind_ok.2 ⟨some opcode, _, opening, rfl⟩, ?_⟩
    refine bind_ok.2 ⟨(), ⟨started, shared.reported (.instruction opcode started.start)⟩, rfl, ?_⟩
    unfold onFrame
    rw [done, ← reported]

/-- Decoding leaves the frame as it is but for the program counter and the note of the start. -/
theorem decoded_frame (read : decoded ⟨top, shared⟩ = .ok instr a) :
    ∃ code, code.bytes = top.code.bytes ∧ a.frame = { top with start := top.pc, code } := by
  obtain ⟨opcode, started, opened, done, _⟩ := decoded_ok.1 read
  obtain ⟨first, sameBytes, rfl⟩ := Frame.nextOpcode_frame opened
  obtain ⟨last, stillSame, same⟩ := Frame.reads_decode opcode done
  exact ⟨last, stillSame.trans sameBytes, same⟩

theorem decoded_sameStore (read : decoded ⟨top, shared⟩ = .ok instr a) :
    Shared.SameStore shared a.shared := by
  obtain ⟨opcode, started, _, _, reported⟩ := decoded_ok.1 read
  rw [reported]
  exact ⟨rfl, rfl⟩

/-- A frame whose instruction is started over decodes the same instruction and comes to the same point,
whatever has happened to the shared state. -/
theorem decoded_again (read : decoded ⟨top, shared⟩ = .ok instr a) (later : Shared) :
    ∃ c, decoded ⟨{ top with start := top.pc }, later⟩ = .ok instr c ∧ c.frame = a.frame ∧
      Shared.SameStore later c.shared := by
  obtain ⟨opcode, started, opened, done, _⟩ := decoded_ok.1 read
  have again := Frame.nextOpcode_start opened top.pc
  refine ⟨⟨a.frame, later.reported (.instruction opcode started.start)⟩, ?_, rfl, ⟨rfl, rfl⟩⟩
  exact decoded_ok.2 ⟨opcode, started, again, done, rfl⟩

end Exec

namespace Machine

/-- The running frame has got as far as executing an instruction whose operands have been read. -/
def AboutTo (machine : Machine) (instr : Instr) (a : Activation) : Prop :=
  ∃ top below, machine.frames = top :: below ∧ Exec.decoded ⟨top, machine.shared⟩ = .ok instr a

theorem AboutTo.unique {machine : Machine} {instr instr' : Instr} {a a' : Activation}
    (about : machine.AboutTo instr a) (about' : machine.AboutTo instr' a') :
    instr = instr' ∧ a = a' := by
  obtain ⟨top, below, running, read⟩ := about
  obtain ⟨_, _, running', read'⟩ := about'
  cases running.symm.trans running'
  cases read.symm.trans read'
  exact ⟨rfl, rfl⟩

/-- A step whose instruction has been decoded executes it and applies its result. -/
theorem step_decoded {top : Frame} {below : List Frame} {shared : Shared} {instr : Instr}
    {a : Activation} (read : Exec.decoded ⟨top, shared⟩ = .ok instr a) :
    step ⟨top :: below, shared⟩ =
      match Exec.execute instr a with
      | .ok control b => apply control ⟨b.frame :: below, b.shared⟩
      | .error fault b => .error fault ⟨b.frame :: below, b.shared⟩ := by
  have whole : Exec.instruction ⟨top, shared⟩ = Exec.execute instr a := by
    rw [Exec.instruction_eq]
    show EStateM.bind Exec.decoded Exec.execute ⟨top, shared⟩ = _
    unfold EStateM.bind
    rw [read]
  cases ran : Exec.execute instr a with
  | ok control b => simp only [step_cons, whole, ran]
  | error fault b => simp only [step_cons, whole, ran]

end Machine

end MiniJvm
