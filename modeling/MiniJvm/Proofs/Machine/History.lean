import MiniJvm.Proofs.Machine.Step

/-!
Histories of a machine: operations in any order, whether they succeed or fail. An operation is a sequence
of moves that do not consist of others, so what every move keeps holds of every machine that a history
leads to.
-/

namespace MiniJvm

open Effect

namespace Machine

/-- What can be asked of a machine. The files on disk change independently of it. -/
inductive Operation where
  | define (bytes : Array UInt8)
  | load (name : String)
  | enterMain (classFile : ClassFile)
  | start (fuel : Nat) (className : String)
  | step
  | loop (fuel : Nat)
  | flush
  | files (disk : Disk)

def withDisk (disk : Disk) (machine : Machine) : Machine :=
  { machine with shared := { machine.shared with disk } }

/-- The machine after an operation, be it successful or not. -/
def Operation.perform : Operation → Machine → Machine
  | .define bytes, machine => final (Machine.define bytes machine)
  | .load name, machine => final (Machine.load name machine)
  | .enterMain classFile, machine => final (Machine.enterMain classFile machine)
  | .start fuel className, machine => (Machine.start fuel className machine).2
  | .step, machine => final (Machine.step machine)
  | .loop fuel, machine => (Machine.loop fuel machine).2
  | .flush, machine => final (Machine.flush machine)
  | .files disk, machine => machine.withDisk disk

def after : List Operation → Machine → Machine
  | [], machine => machine
  | operation :: later, machine => after later (operation.perform machine)

theorem after_append (earlier later : List Operation) (machine : Machine) :
    after (earlier ++ later) machine = after later (after earlier machine) := by
  induction earlier generalizing machine with
  | nil => rfl
  | cons operation others ih => exact ih (operation.perform machine)

def Reachable (machine : Machine) : Prop :=
  ∃ classpath disk output logLimit operations,
    machine = after operations (fresh classpath disk output logLimit)

inductive Move where
  | define (bytes : Array UInt8)
  | load (name : String)
  | enterMain (classFile : ClassFile)
  | discardFrames
  | step
  | flush
  | files (disk : Disk)

def Move.make : Move → Machine → Machine
  | .define bytes, machine => final (Machine.define bytes machine)
  | .load name, machine => final (Machine.load name machine)
  | .enterMain classFile, machine => final (Machine.enterMain classFile machine)
  | .discardFrames, machine => final (Machine.discardFrames machine)
  | .step, machine => final (Machine.step machine)
  | .flush, machine => final (Machine.flush machine)
  | .files disk, machine => machine.withDisk disk

def makeAll : List Move → Machine → Machine
  | [], machine => machine
  | move :: later, machine => makeAll later (move.make machine)

theorem makeAll_append (earlier later : List Move) (machine : Machine) :
    makeAll (earlier ++ later) machine = makeAll later (makeAll earlier machine) := by
  induction earlier generalizing machine with
  | nil => rfl
  | cons move others ih => exact ih (move.make machine)

/-- A step for each machine that a run comes through. -/
def loopMoves (fuel : Nat) (machine : Machine) : List Move :=
  (states fuel machine).map fun _ => .step

def startMoves (fuel : Nat) (className : String) (machine : Machine) : List Move :=
  .discardFrames :: .load className ::
    match Machine.load className (final (Machine.discardFrames machine)) with
    | .error _ _ => []
    | .ok classFile loaded =>
      .enterMain classFile ::
        match Machine.enterMain classFile loaded with
        | .error _ _ => []
        | .ok _ entered =>
          loopMoves fuel entered ++ if (Machine.loop fuel entered).1 = .done then [.flush] else []

/-- What an operation consists of. -/
def Operation.moves : Operation → Machine → List Move
  | .define bytes, _ => [.define bytes]
  | .load name, _ => [.load name]
  | .enterMain classFile, _ => [.enterMain classFile]
  | .start fuel className, machine => startMoves fuel className machine
  | .step, _ => [.step]
  | .loop fuel, machine => loopMoves fuel machine
  | .flush, _ => [.flush]
  | .files disk, _ => [.files disk]

theorem makeAll_loopMoves (fuel done : Nat) (machine : Machine) :
    makeAll (loopMoves fuel machine) machine = (advance fuel done machine).machine := by
  induction fuel generalizing done machine with
  | zero => rfl
  | succ fuel ih =>
    unfold loopMoves states advance
    by_cases idle : machine.frames.isEmpty
    · simp only [if_pos idle]
      rfl
    · simp only [if_neg idle]
      cases ran : Machine.step machine with
      | ok value next =>
        have made : Move.make .step machine = next := by
          show final (Machine.step machine) = next
          rw [ran]
          rfl
        show makeAll (loopMoves fuel next) (Move.make .step machine) = _
        rw [made]
        exact ih (done + 1) next
      | error fault next =>
        show final (Machine.step machine) = next
        rw [ran]
        rfl

theorem loop_machine (fuel : Nat) (machine : Machine) :
    (loop fuel machine).2 = (advance fuel 0 machine).machine := by
  unfold loop
  dsimp only
  split
  · rfl
  · split
    · rfl
    · rfl

theorem discardFrames_ok (machine : Machine) :
    ∃ empty, Machine.discardFrames machine = .ok () empty := by
  unfold Machine.discardFrames
  split
  · exact ⟨_, rfl⟩
  · exact ⟨_, rfl⟩

theorem prepareStart_eq (className : String) (machine : Machine) :
    prepareStart className machine =
      match Machine.load className (final (Machine.discardFrames machine)) with
      | .ok classFile loaded => Machine.enterMain classFile loaded
      | .error fault failed => .error fault failed := by
  show EStateM.bind Machine.discardFrames (fun _ => EStateM.bind (Machine.load className)
    Machine.enterMain) machine = _
  obtain ⟨empty, discarded⟩ := discardFrames_ok machine
  unfold EStateM.bind
  rw [discarded]
  dsimp only [final]
  cases Machine.load className empty with
  | ok classFile loaded => rfl
  | error fault failed => rfl

theorem makeAll_startMoves (fuel : Nat) (className : String) (machine : Machine) :
    makeAll (startMoves fuel className machine) machine = (start fuel className machine).2 := by
  unfold startMoves start
  rw [prepareStart_eq]
  show makeAll _ (final (Machine.load className (final (Machine.discardFrames machine)))) = _
  cases Machine.load className (final (Machine.discardFrames machine)) with
  | error fault failed => rfl
  | ok classFile loaded =>
    show makeAll _ (final (Machine.enterMain classFile loaded)) = _
    dsimp only
    cases Machine.enterMain classFile loaded with
    | error fault failed => rfl
    | ok _ entered =>
      show makeAll _ entered = _
      rw [makeAll_append, makeAll_loopMoves fuel 0 entered, ← loop_machine]
      dsimp only
      cases Machine.loop fuel entered with
      | mk ending last =>
        cases ending with
        | done =>
          show final (Machine.flush last) = _
          dsimp only
          cases Machine.flush last with
          | ok _ finished => rfl
          | error fault finished => rfl
        | failed fault => rfl
        | outOfFuel => rfl

theorem perform_eq (operation : Operation) (machine : Machine) :
    operation.perform machine = makeAll (operation.moves machine) machine := by
  cases operation with
  | start fuel className => exact (makeAll_startMoves fuel className machine).symm
  | loop fuel => exact (loop_machine fuel machine).trans (makeAll_loopMoves fuel 0 machine).symm
  | _ => rfl

def historyMoves : List Operation → Machine → List Move
  | [], _ => []
  | operation :: later, machine =>
    operation.moves machine ++ historyMoves later (operation.perform machine)

theorem after_eq (operations : List Operation) (machine : Machine) :
    after operations machine = makeAll (historyMoves operations machine) machine := by
  induction operations generalizing machine with
  | nil => rfl
  | cons operation others ih =>
    show after others (operation.perform machine) = makeAll (_ ++ _) machine
    rw [makeAll_append, ← perform_eq]
    exact ih _

/-- What every move keeps holds after every history. -/
theorem after_induction {P : Machine → Prop}
    (kept : ∀ (move : Move) machine, P machine → P (move.make machine))
    (operations : List Operation) (machine : Machine) (holds : P machine) :
    P (after operations machine) := by
  rw [after_eq]
  generalize historyMoves operations machine = moves
  induction moves generalizing machine with
  | nil => exact holds
  | cons move others ih => exact ih (move.make machine) (kept move machine holds)

/-! ### References along histories -/

theorem Sound.sameStore {machine later : Machine} (sound : machine.Sound)
    (same : Shared.SameStore machine.shared later.shared)
    (frames : ∀ frame ∈ later.frames, frame ∈ machine.frames ∨ frame.Sound machine.shared.heap) :
    later.Sound := by
  refine ⟨fun frame member => ?_, ⟨?_, ?_, ?_⟩⟩
  · rw [same.heap]
    rcases frames frame member with old | new
    · exact sound.frames frame old
    · exact new
  · rw [same.heap]
    exact sound.shared.fields
  · rw [same.heap, same.statics]
    exact sound.shared.statics
  · rw [same.statics]
    exact sound.shared.once

theorem extends_of_sameStore {machine later : Machine}
    (same : Shared.SameStore machine.shared later.shared) : machine.Extends later := by
  constructor
  · rw [same.heap]
    exact Heap.evolves_refl _
  · exact same.statics.symm ▸ List.prefix_refl _

theorem final_onShared {α : Type} (action : Shared.Action α) (machine : Machine) :
    final (onShared action machine) = ⟨machine.frames, final (action machine.shared)⟩ := by
  unfold onShared
  cases action machine.shared with
  | ok value shared => rfl
  | error fault shared => rfl

theorem enterMain_eq (classFile : ClassFile) (machine : Machine) :
    Machine.enterMain classFile machine =
      match entryPoint classFile with
      | .error fault => .error fault machine
      | .ok methodIndex =>
        match Frame.enter classFile methodIndex [] with
        | .error fault =>
          .error fault ⟨machine.frames, machine.shared.reported (.started classFile.name)⟩
        | .ok frame =>
          .ok () ⟨frame :: machine.frames, machine.shared.reported (.started classFile.name)⟩ := by
  show EStateM.bind (check (entryPoint classFile)) _ machine = _
  unfold EStateM.bind check
  cases entryPoint classFile with
  | error fault => rfl
  | ok methodIndex =>
    show EStateM.bind (check (Frame.enter classFile methodIndex [])) pushFrame
      ⟨machine.frames, machine.shared.reported (.started classFile.name)⟩ = _
    unfold EStateM.bind check
    dsimp only
    cases Frame.enter classFile methodIndex [] with
    | error fault => rfl
    | ok frame => rfl

/-- Only steps touch the heap and the static instances. Other moves may drop frames or enter a method
without arguments. -/
theorem make_sameStore {move : Move} (other : move ≠ .step) (machine : Machine) :
    Shared.SameStore machine.shared (move.make machine).shared ∧
      ∀ frame ∈ (move.make machine).frames,
        frame ∈ machine.frames ∨ frame.Sound machine.shared.heap := by
  have sharedOnly {α : Type} (action : Shared.Action α)
      (same : Shared.SameStore machine.shared (final (action machine.shared))) :
      Shared.SameStore machine.shared (final (onShared action machine)).shared ∧
        ∀ frame ∈ (final (onShared action machine)).frames,
          frame ∈ machine.frames ∨ frame.Sound machine.shared.heap := by
    rw [final_onShared]
    exact ⟨same, fun _ => .inl⟩
  cases move with
  | step => exact absurd rfl other
  | define bytes => exact sharedOnly _ (Shared.sameStore_define bytes _)
  | load name => exact sharedOnly _ (Shared.sameStore_load name _)
  | flush => exact sharedOnly _ (Shared.sameStore_flush _)
  | files disk => exact ⟨⟨rfl, rfl⟩, fun _ => .inl⟩
  | discardFrames =>
    dsimp only [Move.make]
    unfold Machine.discardFrames
    split
    · exact ⟨⟨rfl, rfl⟩, fun _ => .inl⟩
    · exact ⟨⟨rfl, rfl⟩, fun _ member => (List.not_mem_nil member).elim⟩
  | enterMain classFile =>
    dsimp only [Move.make]
    rw [enterMain_eq]
    cases entryPoint classFile with
    | error fault => exact ⟨⟨rfl, rfl⟩, fun _ => .inl⟩
    | ok methodIndex =>
      dsimp only
      cases entered : Frame.enter classFile methodIndex [] with
      | error fault => exact ⟨⟨rfl, rfl⟩, fun _ => .inl⟩
      | ok frame =>
        refine ⟨⟨rfl, rfl⟩, fun known member => ?_⟩
        rcases List.mem_cons.1 member with rfl | old
        · exact .inr (enter_sound entered fun _ argument => (List.not_mem_nil argument).elim)
        · exact .inl old

theorem make_sound (move : Move) (machine : Machine) (sound : machine.Sound) :
    (move.make machine).Sound ∧ machine.Extends (move.make machine) := by
  by_cases steps : move = .step
  · subst steps
    obtain ⟨soundNow, extended, _⟩ := safe_step sound
    exact ⟨soundNow, extended⟩
  · obtain ⟨same, frames⟩ := make_sameStore steps machine
    exact ⟨sound.sameStore same frames, extends_of_sameStore same⟩

theorem fresh_sound (classpath : String) (disk : Disk) (output : Sink) (logLimit : Nat) :
    (fresh classpath disk output logLimit).Sound where
  frames := fun _ member => (List.not_mem_nil member).elim
  shared :=
    { fields := fun address object found => by simp [fresh, Shared.fresh, Heap.empty] at found
      statics := fun _ _ member => (List.not_mem_nil member).elim
      once := List.nodup_nil }

theorem after_sound (operations : List Operation) {machine : Machine} (sound : machine.Sound) :
    (after operations machine).Sound ∧ machine.Extends (after operations machine) := by
  refine after_induction (P := fun later => later.Sound ∧ machine.Extends later) ?_ operations machine
    ⟨sound, extends_refl _⟩
  rintro move later ⟨soundLater, extended⟩
  obtain ⟨soundNext, extendedNext⟩ := make_sound move later soundLater
  exact ⟨soundNext, extended.trans extendedNext⟩

theorem Reachable.sound {machine : Machine} (reachable : machine.Reachable) : machine.Sound := by
  obtain ⟨classpath, disk, output, logLimit, operations, rfl⟩ := reachable
  exact (after_sound operations (fresh_sound classpath disk output logLimit)).1

end Machine

end MiniJvm
