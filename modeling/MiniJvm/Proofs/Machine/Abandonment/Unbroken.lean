import MiniJvm.Proofs.Machine.Abandonment.Ledger

/-!
No initializer is abandoned as long as every run comes to its end.
-/

namespace MiniJvm

open Effect

namespace Machine

variable {machine : Machine}

/-- The operation leaves the frames alone, or it starts a run that comes to its end. -/
def Operation.Ends (machine : Machine) : Operation → Prop
  | .start fuel className => (Machine.start fuel className machine).1 = .done
  | .define _ | .load _ | .flush | .files _ => True
  | .enterMain _ | .step | .loop _ => False

def Unbroken : List Operation → Machine → Prop
  | [], _ => True
  | operation :: later, machine =>
    operation.Ends machine ∧ Unbroken later (operation.perform machine)

theorem loop_done {fuel : Nat} {last : Machine} (done : loop fuel machine = (.done, last)) :
    (advance fuel 0 machine).fault = none ∧ last.frames = [] := by
  unfold loop at done
  dsimp only at done
  split at done
  · cases done
  next unfailed =>
    split at done
    next idle =>
      cases done
      exact ⟨unfailed, List.isEmpty_iff.1 idle⟩
    next => cases done

theorem start_done {fuel : Nat} {className : String}
    (done : (Machine.start fuel className machine).1 = .done) :
    ∃ classFile loaded entered last,
      Machine.load className (final (Machine.discardFrames machine)) = .ok classFile loaded ∧
      Machine.enterMain classFile loaded = .ok () entered ∧ loop fuel entered = (.done, last) ∧
      (Machine.start fuel className machine).2 = final (Machine.flush last) := by
  unfold Machine.start at done ⊢
  rw [prepareStart_eq] at done ⊢
  cases found : Machine.load className (final (Machine.discardFrames machine)) with
  | error fault failed =>
    rw [found] at done
    cases done
  | ok classFile loaded =>
    rw [found] at done
    dsimp only at done ⊢
    cases entering : Machine.enterMain classFile loaded with
    | error fault failed =>
      rw [entering] at done
      cases done
    | ok _ entered =>
      rw [entering] at done
      dsimp only at done ⊢
      rcases ran : loop fuel entered with ⟨ending, last⟩
      rw [ran] at done
      cases ending with
      | failed fault => cases done
      | outOfFuel => cases done
      | done =>
        refine ⟨classFile, loaded, entered, last, rfl, entering, ran, ?_⟩
        dsimp only
        cases Machine.flush last with
        | ok _ flushed => rfl
        | error fault flushed => rfl

theorem Operation.Ends.idle {operation : Operation} (ends : operation.Ends machine)
    (idle : machine.frames = []) : (operation.perform machine).frames = [] := by
  have sharedOnly {α : Type} (action : Shared.Action α) {early : Machine} (idle : early.frames = []) :
      (final (onShared action early)).frames = [] := by
    rw [final_onShared]
    exact idle
  cases operation with
  | define bytes => exact sharedOnly _ idle
  | load name => exact sharedOnly _ idle
  | flush => exact sharedOnly _ idle
  | files disk => exact idle
  | start fuel className =>
    obtain ⟨_, _, _, _, _, _, ran, finished⟩ := start_done ends
    dsimp only [Operation.perform]
    rw [finished]
    exact sharedOnly _ (loop_done ran).2
  | _ => exact ends.elim

end Machine

namespace Ledger

open Machine

variable {ledger : Ledger} {machine : Machine}

theorem recordAll_append (earlier later : List Move) :
    ledger.recordAll machine (earlier ++ later) =
      (ledger.recordAll machine earlier).recordAll (makeAll earlier machine) later := by
  induction earlier generalizing ledger machine with
  | nil => rfl
  | cons move others ih => exact ih

/-- An initializer is abandoned by a step that fails, or by discarding frames. -/
theorem abandoned_record {move : Move} (succeeds : move = .step → ∃ later, step machine = .ok () later)
    (idle : move = .discardFrames → ledger.running = []) :
    (ledger.record machine move).abandoned = ledger.abandoned := by
  cases move with
  | discardFrames => simp [record, idle rfl]
  | enterMain classFile =>
    unfold record
    dsimp only
    split
    · rfl
    · rfl
  | step =>
    obtain ⟨later, ran⟩ := succeeds rfl
    unfold record
    dsimp only
    rw [ran]
    dsimp only
    split
    · rfl
    · split
      · rfl
      · rfl
  | _ => rfl

theorem abandoned_loopMoves (fuel done : Nat) (unfailed : (advance fuel done machine).fault = none) :
    (ledger.recordAll machine (loopMoves fuel machine)).abandoned = ledger.abandoned := by
  induction fuel generalizing ledger done machine with
  | zero => rfl
  | succ fuel ih =>
    unfold advance at unfailed
    unfold loopMoves states
    by_cases idle : machine.frames.isEmpty
    · simp only [if_pos idle]
      rfl
    · simp only [if_neg idle] at unfailed ⊢
      cases ran : Machine.step machine with
      | error fault next =>
        rw [ran] at unfailed
        cases unfailed
      | ok _ next =>
        rw [ran] at unfailed
        have made : Move.make .step machine = next := by
          show final (Machine.step machine) = next
          rw [ran]
          rfl
        -- A run without a fault consists of steps that succeed.
        show (recordAll (ledger.record machine .step) (Move.make .step machine)
          (loopMoves fuel next)).abandoned = _
        rw [made, ih (done + 1) unfailed]
        refine abandoned_record (fun _ => ⟨next, ran⟩) fun other => ?_
        cases other

theorem abandoned_moves {operation : Operation} (ends : operation.Ends machine)
    (idle : ledger.running = []) :
    (ledger.recordAll machine (operation.moves machine)).abandoned = ledger.abandoned := by
  cases operation with
  | start fuel className =>
    obtain ⟨classFile, loaded, entered, last, found, entering, ran, _⟩ := start_done ends
    have loads : Move.make (.load className) (Move.make .discardFrames machine) = loaded := by
      show final (Machine.load className (final (Machine.discardFrames machine))) = loaded
      rw [found]
      rfl
    have enters : Move.make (.enterMain classFile) loaded = entered := by
      show final (Machine.enterMain classFile loaded) = entered
      rw [entering]
      rfl
    let discarded := ledger.record machine .discardFrames
    have flushed (ledger : Ledger) (last : Machine) (done : Prop) [Decidable done] :
        (ledger.recordAll last (if done then [.flush] else [])).abandoned = ledger.abandoned := by
      split
      · rfl
      · rfl
    dsimp only [Operation.moves]
    unfold startMoves
    rw [found]
    dsimp only
    rw [entering]
    show (recordAll (discarded.record (Move.make (.load className) (Move.make .discardFrames machine))
      (.enterMain classFile)) (Move.make (.enterMain classFile)
        (Move.make (.load className) (Move.make .discardFrames machine)))
      (loopMoves fuel entered ++ _)).abandoned = _
    rw [loads, enters, recordAll_append, flushed, abandoned_loopMoves fuel 0 (loop_done ran).1]
    calc (discarded.record loaded (.enterMain classFile)).abandoned
        = discarded.abandoned := abandoned_record nofun nofun
      _ = ledger.abandoned := abandoned_record nofun fun _ => idle
  | define bytes => rfl
  | load name => rfl
  | flush => rfl
  | files disk => rfl
  | _ => exact ends.elim

theorem abandoned_unbroken (operations : List Operation) (sound : machine.Sound)
    (accounts : ledger.Accounts machine) (idle : machine.frames = [])
    (unbroken : Unbroken operations machine) :
    (ledger.recordAll machine (historyMoves operations machine)).abandoned = ledger.abandoned := by
  induction operations generalizing ledger machine with
  | nil => rfl
  | cons operation others ih =>
    obtain ⟨ends, rest⟩ := unbroken
    have unmarked : ledger.running = [] := by
      have marked := accounts.frames
      rw [idle] at marked
      exact List.forall₂_nil_left_iff.1 marked
    have soundNext : (operation.perform machine).Sound := (after_sound [operation] sound).1
    have next := accounts_recordAll (operation.moves machine) sound accounts
    unfold historyMoves
    rw [recordAll_append]
    rw [← perform_eq] at next ⊢
    rw [ih soundNext next (ends.idle idle) rest]
    exact abandoned_moves ends unmarked

end Ledger

end MiniJvm
