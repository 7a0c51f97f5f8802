import Mathlib.Data.List.Forall2
import MiniJvm.Proofs.Machine.FrameStep
import MiniJvm.Proofs.Machine.LazyInitialization

/-!
A ledger kept along a history tells which initializers run, which have returned and which were abandoned:
those that could not be entered, and those whose frames were dropped by the start of another run.
-/

namespace MiniJvm

open Effect

/-- What has become of the initializers that were asked for. -/
structure Ledger where
  /-- For each frame, the class whose preparation has put it there, none if something else has. -/
  running : List (Option String)
  completed : List String
  /-- The classes whose initializers could not be entered, or were dropped before they returned. -/
  abandoned : List String

namespace Ledger

open Machine

def empty : Ledger := ⟨[], [], []⟩

def record (ledger : Ledger) (machine : Machine) : Move → Ledger
  | .discardFrames =>
    { ledger with running := [], abandoned := ledger.running.filterMap id ++ ledger.abandoned }
  | .enterMain classFile =>
    match Machine.enterMain classFile machine with
    | .ok _ _ => { ledger with running := none :: ledger.running }
    | .error _ _ => ledger
  | .step =>
    match Machine.step machine with
    | .error _ _ => { ledger with abandoned := machine.scheduled?.toList ++ ledger.abandoned }
    | .ok _ later =>
      if machine.frames.length < later.frames.length then
        { ledger with running := machine.scheduled? :: ledger.running }
      else if later.frames.length < machine.frames.length then
        { ledger with
          running := ledger.running.tail
          completed := ledger.running.head?.join.toList ++ ledger.completed }
      else ledger
  | _ => ledger

def recordAll (ledger : Ledger) (machine : Machine) : List Move → Ledger
  | [] => ledger
  | move :: later => recordAll (ledger.record machine move) (move.make machine) later

def along (operations : List Operation) (machine : Machine) : Ledger :=
  recordAll empty machine (historyMoves operations machine)

def names (ledger : Ledger) : List String :=
  ledger.running.filterMap id ++ (ledger.completed ++ ledger.abandoned)

/-- A frame that is marked with a class runs the initializer of the class. -/
def Marked (frame : Frame) (mark : Option String) : Prop :=
  ∀ name, mark = some name → frame.Initializes name

theorem Marked.of_sameMethod {old new : Frame} {mark : Option String} (marked : Marked old mark)
    (same : old.SameMethod new) : Marked new mark :=
  fun name marks => (marked name marks).of_sameMethod same

/-- The ledger tells the truth about a machine. -/
structure Accounts (ledger : Ledger) (machine : Machine) : Prop where
  frames : List.Forall₂ Marked machine.frames ledger.running
  /-- Every class that has a static instance needs no initializer, or its initializer was asked for. -/
  prepared : ∀ name ∈ machine.prepared, machine.shared.Settled name ∨ name ∈ ledger.names
  /-- An initializer is asked for when the static instance of its class is registered. -/
  asked : ∀ name ∈ ledger.names, name ∈ machine.prepared ∧ Platform.isPlatform name = false
  once : ledger.names.Nodup

variable {ledger : Ledger} {machine later : Machine} {name : String}

theorem Accounts.calm {next : Ledger} (accounts : ledger.Accounts machine)
    (calm : machine.shared.Calm later.shared) (order : next.names.Perm ledger.names)
    (frames : List.Forall₂ Marked later.frames next.running) : next.Accounts later := by
  have same : later.prepared = machine.prepared := by
    unfold Machine.prepared
    rw [calm.statics]
  refine ⟨frames, fun name member => ?_, fun name member => ?_, order.nodup_iff.2 accounts.once⟩
  · rw [same] at member
    rw [order.mem_iff]
    exact (accounts.prepared name member).imp_left fun settled => settled.of_grown calm.classes
  · rw [order.mem_iff] at member
    rw [same]
    exact accounts.asked name member

theorem accounts_make {move : Move} (other : move ≠ .step) (accounts : ledger.Accounts machine) :
    (ledger.record machine move).Accounts (move.make machine) := by
  have calm := calm_make other machine
  have sharedOnly {α : Type} {action : Shared.Action α}
      (calm : machine.shared.Calm (final (onShared action machine)).shared) :
      ledger.Accounts (final (onShared action machine)) := by
    apply accounts.calm calm .rfl
    rw [final_onShared]
    exact accounts.frames
  cases move with
  | step => exact absurd rfl other
  | define bytes => exact sharedOnly calm
  | load name => exact sharedOnly calm
  | flush => exact sharedOnly calm
  | files disk => exact accounts.calm calm .rfl accounts.frames
  | discardFrames =>
    apply accounts.calm calm
    · refine List.perm_iff_count.2 fun name => ?_
      simp only [names, record, List.filterMap_nil, List.nil_append, List.count_append]
      omega
    · rw [show (Move.make .discardFrames machine).frames = [] from (final_discardFrames machine).1]
      exact .nil
  | enterMain classFile =>
    dsimp only [record, Move.make]
    rw [enterMain_eq]
    cases entryPoint classFile with
    | error fault => exact accounts
    | ok methodIndex =>
      dsimp only
      cases Frame.enter classFile methodIndex [] with
      | error fault => exact accounts.calm ⟨rfl, List.prefix_refl _⟩ .rfl accounts.frames
      | ok frame =>
        exact accounts.calm ⟨rfl, List.prefix_refl _⟩ .rfl (.cons nofun accounts.frames)

theorem filterMap_id_cons (mark : Option String) (marks : List (Option String)) :
    (mark :: marks).filterMap id = mark.toList ++ marks.filterMap id := by
  cases mark with
  | none => rfl
  | some name => rfl

theorem marked_sameMethod {top frame : Frame} {below : List Frame} {marks : List (Option String)}
    (marked : List.Forall₂ Marked (top :: below) marks) (same : top.SameMethod frame) :
    List.Forall₂ Marked (frame :: below) marks := by
  cases marked with
  | cons first rest => exact .cons (first.of_sameMethod same) rest

theorem marked_delivered {frames : List Frame} {marks : List (Option String)}
    (marked : List.Forall₂ Marked frames marks) (value : Option Value) :
    List.Forall₂ Marked (delivered value frames) marks := by
  cases value with
  | none => exact marked
  | some value =>
    cases frames with
    | nil => exact marked
    | cons top below => exact marked_sameMethod marked ⟨rfl, rfl⟩

/-- A step adds the initializer that it asks for, if any, and keeps the marks in line with the frames. -/
theorem record_step (sound : machine.Sound)
    (marked : List.Forall₂ Marked machine.frames ledger.running) :
    (ledger.record machine .step).names.Perm (machine.scheduled?.toList ++ ledger.names) ∧
      List.Forall₂ Marked (final (step machine)).frames (ledger.record machine .step).running := by
  have view := frameStep sound
  have refused : names { ledger with abandoned := machine.scheduled?.toList ++ ledger.abandoned } |>.Perm
      (machine.scheduled?.toList ++ ledger.names) := by
    refine List.perm_iff_count.2 fun name => ?_
    simp only [names, List.count_append]
    omega
  unfold record
  dsimp only
  generalize step machine = result at view ⊢
  cases view with
  | idle idle => exact ⟨refused, marked⟩
  | fails running same => exact ⟨refused, marked_sameMethod (running ▸ marked) same⟩
  | proceeds running same direct =>
    rw [running] at marked
    simp only [running, direct, List.length_cons, Nat.lt_irrefl, if_false]
    exact ⟨.rfl, marked_sameMethod marked same⟩
  | calls running same initializes =>
    rw [running] at marked
    have longer : machine.frames.length < machine.frames.length + 1 := Nat.lt_succ_self _
    simp only [running, List.length_cons] at longer ⊢
    rw [if_pos longer]
    refine ⟨?_, .cons initializes (marked_sameMethod marked same)⟩
    simp only [names, filterMap_id_cons, List.append_assoc]
    exact .rfl
  | @leaves top below value shared running direct =>
    rw [running] at marked
    have shorter := length_delivered value below
    simp only [running, direct, List.length_cons, shorter]
    rw [if_neg (by omega), if_pos (by omega)]
    obtain ⟨marks, completed, abandoned⟩ := ledger
    cases marked with
    | cons first rest =>
      -- The mark of the frame that is left goes from one column to the next.
      refine ⟨List.perm_iff_count.2 fun name => ?_, marked_delivered rest value⟩
      simp only [names, filterMap_id_cons, List.count_append, List.tail_cons, List.head?_cons,
        Option.join_some, Option.toList_none, List.nil_append]
      omega

theorem accounts_step (sound : machine.Sound) (accounts : ledger.Accounts machine) :
    (ledger.record machine .step).Accounts (Move.make .step machine) := by
  obtain ⟨order, marked⟩ := record_step sound accounts.frames
  have prepared : (Move.make .step machine).prepared = machine.prepared ++ registered machine :=
    (make_sound .step machine sound).2.prepared
  refine ⟨marked, fun name member => ?_, fun name member => ?_, order.nodup_iff.2 ?_⟩
  · rw [order.mem_iff, List.mem_append]
    rw [prepared, List.mem_append] at member
    rcases member with old | new
    · exact (accounts.prepared name old).imp (·.of_grown (step_classes sound)) .inr
    · cases asks : machine.scheduled? with
      | none => exact .inl (settled_of_registered asks new)
      | some asked =>
        rw [(scheduled?_registered asks).2] at new
        exact .inr (.inl (by simpa using new))
  · rw [order.mem_iff, List.mem_append, Option.mem_toList] at member
    rw [prepared, List.mem_append]
    rcases member with asks | old
    · rw [(scheduled?_registered asks).2]
      exact ⟨.inr (List.mem_singleton_self name), scheduled?_user asks⟩
    · exact (accounts.asked name old).imp_left .inl
  · cases asks : machine.scheduled? with
    | none => exact accounts.once
    | some asked =>
      -- A class is registered by the step that asks for its initializer, so none was asked for before.
      refine List.nodup_cons.2 ⟨fun member => ?_, accounts.once⟩
      exact statics?_eq_none_iff.1 (scheduled?_registered asks).1 (accounts.asked asked member).1

theorem accounts_recordAll (moves : List Move) (sound : machine.Sound)
    (accounts : ledger.Accounts machine) :
    (ledger.recordAll machine moves).Accounts (makeAll moves machine) := by
  induction moves generalizing ledger machine with
  | nil => exact accounts
  | cons move others ih =>
    refine ih (make_sound move machine sound).1 ?_
    by_cases steps : move = .step
    · subst steps
      exact accounts_step sound accounts
    · exact accounts_make steps accounts

theorem accounts_empty {classpath : String} {disk : Disk} {output : Sink} {logLimit : Nat} :
    empty.Accounts (fresh classpath disk output logLimit) :=
  ⟨.nil, nofun, nofun, List.nodup_nil⟩

theorem accounts_along (classpath : String) (disk : Disk) (output : Sink) (logLimit : Nat)
    (operations : List Operation) :
    (along operations (fresh classpath disk output logLimit)).Accounts
      (after operations (fresh classpath disk output logLimit)) := by
  rw [after_eq]
  exact accounts_recordAll _ (fresh_sound classpath disk output logLimit) accounts_empty

/-- An initializer of the class that its preparation has called is on the stack of frames. -/
def Runs (ledger : Ledger) (machine : Machine) (name : String) : Prop :=
  ∃ (index : Nat) (frame : Frame), machine.frames[index]? = some frame ∧
    ledger.running[index]? = some (some name) ∧ frame.Initializes name

theorem Accounts.runs_iff (accounts : ledger.Accounts machine) :
    ledger.Runs machine name ↔ name ∈ ledger.running.filterMap id := by
  constructor
  · rintro ⟨index, frame, _, marks, _⟩
    exact List.mem_filterMap.2 ⟨some name, List.mem_of_getElem? marks, rfl⟩
  · intro member
    obtain ⟨mark, there, rfl⟩ := List.mem_filterMap.1 member
    obtain ⟨index, inside, marks⟩ := List.mem_iff_getElem.1 there
    obtain ⟨lengths, marked⟩ := List.forall₂_iff_get.1 accounts.frames
    have initializes := marked index (lengths ▸ inside) inside name marks
    exact ⟨index, _, List.getElem?_eq_getElem (lengths ▸ inside),
      List.getElem?_eq_some_iff.2 ⟨inside, marks⟩, initializes⟩

end Ledger

end MiniJvm
