import MiniJvm.Proofs.Machine.Outcome
import MiniJvm.Proofs.Machine.ReferenceSafety

/-!
The stack effects of the whole instruction set. Whatever an instruction does in between, it takes the
values that its opcode and its descriptor ask for, puts its results in their place and leaves the rest of
the operand stack alone. With too few values there it fails.
-/

namespace MiniJvm

open Effect

/-- How many values the instruction with this opcode takes and puts at the program counter of a frame. -/
def Frame.effect? (frame : Frame) (opcode : UInt8) : Option (Nat × Nat) :=
  (StackEffect.ofOpcode? opcode).bind (·.counts? frame.classFile.pool frame.operand)

namespace Exec

variable {top : Frame} {shared : Shared} {instr : Instr} {a b : Activation} {control : Control}

theorem execute_trades {opcode : UInt8} (fetched : top.peekOpcode? = some opcode)
    (read : decoded ⟨top, shared⟩ = .ok instr a) (ran : execute instr a = .ok control b)
    (ready : ∀ className, instr.prepares? a.frame.classFile.pool = some className →
      prepare className a ≠ .ok (.pending control) b) :
    ∃ pops pushes, top.effect? opcode = some (pops, pushes) ∧
      Trade pops pushes top.stack b.frame.stack := by
  obtain ⟨code, _, sameFrame⟩ := decoded_frame read
  obtain ⟨found, shown, _, encodes⟩ := decoded_encodes read
  cases fetched.symm.trans shown
  have sameStack : a.frame.stack = top.stack := by rw [sameFrame]
  have sameCounts : instr.counts? a.frame.classFile.pool = top.effect? opcode := by
    rw [sameFrame]
    exact encodes.counts top.classFile.pool
  have outcome := outcome_execute (decoded_inside read) instr
  rw [ran] at outcome
  cases outcome with
  | trades counts _ trade => exact ⟨_, _, sameCounts ▸ counts, sameStack ▸ trade⟩
  | branches counts _ trade => exact ⟨_, _, sameCounts ▸ counts, sameStack ▸ trade⟩
  | rewinds _ asks pending => exact absurd pending (ready _ asks)

end Exec

namespace Machine

theorem step_trades {machine later : Machine} {top : Frame} {below : List Frame} {opcode : UInt8}
    (running : machine.frames = top :: below) (fetched : top.peekOpcode? = some opcode)
    (direct : machine.scheduled? = none) (ran : step machine = .ok () later) :
    ∃ (control : Control) (b : Activation) (pops pushes : Nat),
      apply control ⟨b.frame :: below, b.shared⟩ = .ok () later ∧
      top.effect? opcode = some (pops, pushes) ∧ Trade pops pushes top.stack b.frame.stack := by
  obtain ⟨_, _, instr, a, control, b, frames, read, executed, applied⟩ := step_ok ran
  cases running.symm.trans frames
  have ready : ∀ className, instr.prepares? a.frame.classFile.pool = some className →
      Exec.prepare className a ≠ .ok (.pending control) b := by
    intro className asks pending
    rw [scheduled?_of_pending running read executed asks pending] at direct
    cases direct
  obtain ⟨pops, pushes, effect, trade⟩ := Exec.execute_trades fetched read executed ready
  exact ⟨control, b, pops, pushes, applied, effect, trade⟩

/-- A step that does not start its instruction over moves as many values on the operand stack of its frame
as its opcode says. Stacks have their top first: the step takes `taken`, puts `given` and keeps `base`.
With fewer values on the stack than the opcode takes, the step fails. -/
theorem stack_effects (machine : Machine) (top : Frame) (below : List Frame) (opcode : UInt8)
    (running : machine.frames = top :: below) (fetched : top.peekOpcode? = some opcode)
    (direct : machine.scheduled? = none) :
    (∀ later, step machine = .ok () later → machine.frames.length ≤ later.frames.length →
      ∃ frame taken given base, top.effect? opcode = some (taken.length, given.length) ∧
        top.stack = taken ++ base ∧ frame.stack = given ++ base ∧
        (later.frames = frame :: below ∨ ∃ callee, later.frames = callee :: frame :: below)) ∧
    ∀ pops pushes, top.effect? opcode = some (pops, pushes) → top.stack.length < pops →
      ∃ fault later, step machine = .error fault later := by
  constructor
  · intro later ran stays
    obtain ⟨control, b, pops, pushes, applied, effect, trade⟩ :=
      step_trades running fetched direct ran
    obtain ⟨taken, given, base, before, after, rfl, rfl⟩ := trade
    rw [running] at stays
    exact ⟨b.frame, taken, given, base, effect, before, after, apply_stays applied stays⟩
  · intro pops pushes effect short
    cases ran : step machine with
    | error fault later => exact ⟨fault, later, rfl⟩
    | ok _ later =>
      obtain ⟨_, _, _, _, _, sameEffect, trade⟩ := step_trades running fetched direct ran
      cases effect.symm.trans sameEffect
      exact absurd trade.le (by omega)

theorem array_load_stack_effect :
    arrayMachine.frames.map Frame.stack = [[.int 0, .reference 0 "[I"]] ∧
      ∃ later frame given, step arrayMachine = .ok () later ∧ later.frames = [frame] ∧
        frame.stack = [given] := by
  have facts :
      arrayMachine.frames.map Frame.stack = [[.int 0, .reference 0 "[I"]] ∧
      arrayMachine.frames.map Frame.peekOpcode? = [some 46] ∧
      arrayMachine.frames.map (Frame.effect? · 46) = [some (2, 1)] ∧
      arrayMachine.scheduled? = none ∧ value? (step arrayMachine) = some () ∧
      (final (step arrayMachine)).frames.length = 1 := by
    decide +kernel
  obtain ⟨operands, opcodes, effects, direct, succeeds, alone⟩ := facts
  refine ⟨operands, final (step arrayMachine), ?_⟩
  obtain ⟨top, running⟩ := List.length_eq_one_iff.1 (by simpa using congrArg List.length operands)
  simp only [running, List.map_cons, List.map_nil, List.cons.injEq, and_true] at operands opcodes effects
  have ran := eq_ok_of_value? succeeds
  obtain ⟨frame, taken, given, base, effect, before, after, kept⟩ :=
    (stack_effects arrayMachine top [] 46 running opcodes direct).1 _ ran (by simp [running, alone])
  rw [effects] at effect
  simp only [Option.some.injEq, Prod.mk.injEq] at effect
  have nothing : base = [] := by
    have lengths := congrArg List.length before
    rw [operands, List.length_append] at lengths
    exact List.eq_nil_of_length_eq_zero (by simp at lengths; omega)
  obtain ⟨value, rfl⟩ := List.length_eq_one_iff.1 effect.2.symm
  rcases kept with same | ⟨callee, same⟩
  · exact ⟨frame, value, ran, same, by rw [after, nothing]; rfl⟩
  · simp [same] at alone

end Machine

end MiniJvm
