import MiniJvm.Proofs.Machine.Decoding
import MiniJvm.Proofs.Machine.History

/-!
Classes are initialized at most once. Along a history, every step tells which static instances it
registers and whose initializer it asks to call; each class occurs at most once among both, and its
static instance stays the same from then on.
-/

namespace MiniJvm

open Effect

namespace Machine

def steppedBy : List Move → Machine → List Machine
  | [], _ => []
  | .step :: later, machine => machine :: steppedBy later (Move.make .step machine)
  | move :: later, machine => steppedBy later (move.make machine)

/-- The machines in which a history takes a step, inside of runs too. -/
def stepped (operations : List Operation) (machine : Machine) : List Machine :=
  steppedBy (historyMoves operations machine) machine

def prepared (machine : Machine) : List String :=
  machine.shared.statics.map Prod.fst

/-- The classes that a step registers static instances of, as often as it does. -/
def registered (machine : Machine) : List String :=
  (final (step machine)).prepared.drop machine.prepared.length

/-- The class whose initializer a step asks to call because it uses the class for the first time. -/
def scheduled? (machine : Machine) : Option String :=
  match machine.frames with
  | [] => none
  | top :: _ =>
    match Exec.decoded ⟨top, machine.shared⟩ with
    | .error _ _ => none
    | .ok instr a =>
      match Exec.execute instr a with
      | .ok (.call _ _ _) _ => instr.prepares? a.frame.classFile.pool
      | _ => none

theorem Extends.prepared {old new : Machine} (extended : old.Extends new) :
    new.prepared = old.prepared ++ new.prepared.drop old.prepared.length := by
  obtain ⟨added, same⟩ := extended.statics
  unfold Machine.prepared
  rw [← same, List.map_append, List.drop_left]

theorem prepared_apply_call (classFile : ClassFile) (methodIndex : Nat) (arguments : List Value)
    (machine : Machine) :
    (final (apply (.call classFile methodIndex arguments) machine)).prepared = machine.prepared := by
  rw [apply_call]
  cases Frame.enter classFile methodIndex arguments with
  | ok frame => rfl
  | error fault => rfl

/-- An initializer is asked for by an instruction that has prepared its class and done nothing else. -/
theorem scheduled?_ok {machine : Machine} {name : String} (asks : machine.scheduled? = some name) :
    ∃ top below instr a call b, machine.frames = top :: below ∧
      Exec.decoded ⟨top, machine.shared⟩ = .ok instr a ∧ Exec.execute instr a = .ok call b ∧
      instr.prepares? a.frame.classFile.pool = some name ∧
      Exec.prepare name a = .ok (.pending call) b := by
  obtain ⟨frames, shared⟩ := machine
  unfold scheduled? at asks
  cases frames with
  | nil => cases asks
  | cons top below =>
    dsimp only at asks
    cases read : Exec.decoded ⟨top, shared⟩ with
    | error fault a =>
      rw [read] at asks
      cases asks
    | ok instr a =>
      rw [read] at asks
      dsimp only at asks
      split at asks
      next b ran =>
        rcases Exec.execute_prepares asks ran with ⟨proceeds, _⟩ | pending
        · cases proceeds
        · exact ⟨top, below, instr, a, _, b, rfl, read, ran, asks, pending⟩
      next => cases asks

theorem scheduled?_registered {machine : Machine} {name : String}
    (asks : machine.scheduled? = some name) :
    machine.shared.statics? name = none ∧ registered machine = [name] := by
  obtain ⟨top, below, instr, a, call, b, frames, read, ran, _, pending⟩ := scheduled?_ok asks
  obtain ⟨_, shared⟩ := machine
  cases frames
  obtain ⟨_, _, _, rfl, _, _, _, registers, _⟩ := Exec.prepare_pending_ok pending
  have unknown := (Exec.prepare_pending pending).1
  have sameStatics := (Exec.decoded_sameStore read).statics
  constructor
  · unfold Shared.statics? at unknown ⊢
    rwa [sameStatics] at unknown
  · unfold registered
    rw [step_decoded read, ran]
    dsimp only
    rw [prepared_apply_call]
    unfold prepared
    rw [registers.statics, sameStatics, List.map_append, List.drop_left]
    rfl

end Machine

end MiniJvm
