import MiniJvm.Machine.Run
import MiniJvm.Proofs.Machine.Parallel.Instruction

/-!
Two machines side by side, with the same frames over related shared states. Steps and runs have the same
result on both when no instruction sees through the relation. A single step does so already when the one
class that its instruction looks for is found alike.
-/

namespace MiniJvm

open Effect

namespace Machine

open Shared

variable {α : Type} {R : Shared → Shared → Prop} {machine other : Machine}

/-- The same frames over related shared states. -/
structure Paired (R : Shared → Shared → Prop) (machine other : Machine) : Prop where
  frames : machine.frames = other.frames
  shared : R machine.shared other.shared

theorem respects_onShared {action : Shared.Action α} (respects : Respects R action) :
    Respects (Paired R) (onShared action) := by
  intro machine other paired
  have together := respects paired.shared
  unfold onShared
  generalize action machine.shared = left, action other.shared = right at together ⊢
  cases together with
  | ok still => exact .ok ⟨paired.frames, still⟩
  | error still => exact .error ⟨paired.frames, still⟩

theorem coincide_onActivation {exec : Exec α} (paired : Paired R machine other)
    (coincide : ∀ top below, machine.frames = top :: below →
      Coincide (Activation.Paired R) (exec ⟨top, machine.shared⟩) (exec ⟨top, other.shared⟩)) :
    Coincide (Paired R) (onActivation exec machine) (onActivation exec other) := by
  unfold onActivation
  rw [← paired.frames]
  cases running : machine.frames with
  | nil => exact .error paired
  | cons top below =>
    have together := coincide top below running
    dsimp only
    generalize exec ⟨top, machine.shared⟩ = left, exec ⟨top, other.shared⟩ = right at together ⊢
    cases together with
    | ok still => exact .ok ⟨by rw [still.frame], still.shared⟩
    | error still => exact .error ⟨by rw [still.frame], still.shared⟩

theorem respects_check (result : Except Fault α) : Respects (Paired R) (check result) := by
  intro machine other paired
  cases result with
  | ok value => exact .ok paired
  | error fault => exact .error paired

theorem respects_pushFrame (frame : Frame) : Respects (Paired R) (pushFrame frame) :=
  fun _ _ paired => .ok ⟨by rw [paired.frames], paired.shared⟩

theorem respects_popFrame : Respects (Paired R) popFrame := by
  intro machine other paired
  unfold popFrame
  rw [paired.frames]
  cases other.frames with
  | nil => exact .ok paired
  | cons top below => exact .ok ⟨rfl, paired.shared⟩

theorem respects_deliver (value : Value) : Respects (Paired R) (deliver value) := by
  intro machine other paired
  unfold deliver
  rw [paired.frames]
  cases other.frames with
  | nil => exact .ok paired
  | cons top below => exact .ok ⟨rfl, paired.shared⟩

section

variable (hidden : Hidden R)

include hidden

theorem respects_apply (control : Control) : Respects (Paired R) (apply control) := by
  cases control with
  | proceed => exact respects_pure ()
  | call classFile methodIndex arguments =>
    exact respects_bind (respects_check _) fun frame =>
      respects_bind (respects_onShared (hidden.report _)) fun _ => respects_pushFrame frame
  | leave value =>
    apply respects_bind respects_popFrame
    intro found
    cases found with
    | none => exact respects_throw _
    | some frame =>
      apply respects_bind (respects_onShared (hidden.report _))
      intro _
      cases value with
      | some value => exact respects_deliver value
      | none => exact respects_pure ()

/-- A step has the same result on both machines if the class that its instruction looks for is found
alike. -/
theorem coincide_step (paired : Paired R machine other)
    (finds : ∀ instr a, machine.AboutTo instr a →
      ∀ name, instr.seeks? a.frame.classFile.pool = some name → Finds R name) :
    Coincide (Paired R) (step machine) (step other) := by
  have together : Coincide (Paired R) (onActivation Exec.instruction machine)
      (onActivation Exec.instruction other) := by
    apply coincide_onActivation paired
    intro top below running
    have here : Activation.Paired R ⟨top, machine.shared⟩ ⟨top, other.shared⟩ :=
      ⟨rfl, paired.shared⟩
    apply Exec.coincide_instruction hidden here
    intro instr a read
    exact finds instr a ⟨top, below, running, read⟩
  exact coincide_bind together fun control _ _ _ still => respects_apply hidden control still

end

section

variable (unseen : Unseen R)

include unseen

theorem respects_step : Respects (Paired R) step :=
  fun _ _ paired => coincide_step unseen.toHidden paired fun _ _ _ name _ => unseen.load name

/-- Runs of related machines go the same way to related machines. -/
theorem advance_paired (limit done : Nat) (paired : Paired R machine other) :
    (advance limit done machine).fault = (advance limit done other).fault ∧
      Paired R (advance limit done machine).machine (advance limit done other).machine := by
  induction limit generalizing done machine other with
  | zero => exact ⟨rfl, paired⟩
  | succ limit ih =>
    unfold advance
    rw [paired.frames]
    split
    · exact ⟨rfl, paired⟩
    · have together := respects_step unseen paired
      generalize step machine = left, step other = right at together ⊢
      cases together with
      | ok still => exact ih (done + 1) still
      | error still => exact ⟨rfl, still⟩

theorem loop_paired (fuel : Nat) (paired : Paired R machine other) :
    (loop fuel machine).1 = (loop fuel other).1 ∧
      Paired R (loop fuel machine).2 (loop fuel other).2 := by
  obtain ⟨sameFault, still⟩ := advance_paired unseen fuel 0 paired
  unfold loop
  dsimp only
  rw [sameFault, still.frames]
  split
  · exact ⟨rfl, still⟩
  · split
    · exact ⟨rfl, still⟩
    · exact ⟨rfl, still⟩

theorem respects_discardFrames : Respects (Paired R) discardFrames := by
  intro machine other paired
  unfold discardFrames
  rw [paired.frames]
  split
  · exact .ok paired
  · exact respects_onShared (unseen.report _) ⟨rfl, paired.shared⟩

theorem respects_enterMain (classFile : ClassFile) : Respects (Paired R) (enterMain classFile) :=
  respects_bind (respects_check _) fun _ => respects_bind (respects_onShared (unseen.report _)) fun _ =>
    respects_bind (respects_check _) fun frame => respects_pushFrame frame

theorem respects_prepareStart {className : String} (user : Platform.isPlatform className = false) :
    Respects (Paired R) (prepareStart className) :=
  respects_bind (respects_discardFrames unseen) fun _ =>
    respects_bind (respects_onShared (unseen.load className user)) fun classFile =>
      respects_enterMain unseen classFile

theorem start_paired (fuel : Nat) {className : String} (user : Platform.isPlatform className = false)
    (paired : Paired R machine other) :
    (start fuel className machine).1 = (start fuel className other).1 ∧
      Paired R (start fuel className machine).2 (start fuel className other).2 := by
  have entered := respects_prepareStart unseen user paired
  unfold start
  generalize prepareStart className machine = left, prepareStart className other = right at entered ⊢
  cases entered with
  | error still => exact ⟨rfl, still⟩
  | @ok _ begun begun' still =>
    obtain ⟨sameEnding, ended⟩ := loop_paired unseen fuel still
    dsimp only
    generalize loop fuel begun = left, loop fuel begun' = right at sameEnding ended ⊢
    obtain ⟨ending, last⟩ := left
    obtain ⟨ending', last'⟩ := right
    cases sameEnding
    cases ending with
    | done =>
      have flushed := respects_onShared unseen.flush ended
      dsimp only
      unfold flush
      generalize onShared Shared.flush last = left, onShared Shared.flush last' = right at flushed ⊢
      cases flushed with
      | ok still => exact ⟨rfl, still⟩
      | error still => exact ⟨rfl, still⟩
    | failed fault => exact ⟨rfl, ended⟩
    | outOfFuel => exact ⟨rfl, ended⟩

end

end Machine

end MiniJvm
