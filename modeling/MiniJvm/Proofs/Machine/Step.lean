import MiniJvm.Proofs.Machine.Instruction

/-!
A step of the machine: one instruction of the running frame, then what the instruction asks of the stack
of frames. A step keeps all references backed. It only adds to the heap and to the static instances, and
it never fails because a reference points to nothing.
-/

namespace MiniJvm

open Effect Activation

namespace Shared

def reported (shared : Shared) (event : Event) : Shared :=
  { shared with log := shared.log.add event }

structure SameStore (old new : Shared) : Prop where
  heap : new.heap = old.heap
  statics : new.statics = old.statics

theorem sameStore_load (name : String) (shared : Shared) :
    SameStore shared (final (load name shared)) := by
  unfold load
  split
  · exact ⟨rfl, rfl⟩
  · dsimp only
    split
    · exact ⟨rfl, rfl⟩
    · exact ⟨rfl, rfl⟩

theorem sameStore_define (bytes : Array UInt8) (shared : Shared) :
    SameStore shared (final (define bytes shared)) := by
  unfold define
  dsimp only
  split
  · exact ⟨rfl, rfl⟩
  · split
    · exact ⟨rfl, rfl⟩
    · exact ⟨rfl, rfl⟩

theorem sameStore_flush (shared : Shared) : SameStore shared (final (flush shared)) := by
  unfold flush
  split
  · exact ⟨rfl, rfl⟩
  · exact ⟨rfl, rfl⟩

end Shared

theorem Frame.Sound.push {heap : Heap} {frame : Frame} {value : Value}
    (sound : frame.Sound heap) (backed : heap.Backs value) :
    Frame.Sound heap { frame with stack := value :: frame.stack } := by
  refine ⟨fun v member => ?_, sound.locals⟩
  rcases List.mem_cons.1 member with rfl | other
  · exact backed
  · exact sound.stack v other

namespace Machine

/-- The frames below one that is left. The first of them takes the value, if there is one. -/
def delivered (value : Option Value) (frames : List Frame) : List Frame :=
  match value, frames with
  | some value, top :: below => { top with stack := value :: top.stack } :: below
  | _, _ => frames

theorem length_delivered (value : Option Value) (frames : List Frame) :
    (delivered value frames).length = frames.length := by
  cases value with
  | none => rfl
  | some value =>
    cases frames with
    | nil => rfl
    | cons next others => rfl

variable {top : Frame} {below : List Frame} {shared : Shared} {machine : Machine}

theorem step_cons : step ⟨top :: below, shared⟩ =
    match Exec.instruction ⟨top, shared⟩ with
    | .ok control b => apply control ⟨b.frame :: below, b.shared⟩
    | .error fault b => .error fault ⟨b.frame :: below, b.shared⟩ := by
  show EStateM.bind (onActivation Exec.instruction) apply ⟨top :: below, shared⟩ = _
  unfold EStateM.bind onActivation
  dsimp only
  cases Exec.instruction ⟨top, shared⟩ with
  | ok control b => rfl
  | error fault b => rfl

theorem apply_proceed : apply .proceed machine = .ok () machine := rfl

theorem apply_call (classFile : ClassFile) (methodIndex : Nat) (arguments : List Value) :
    apply (.call classFile methodIndex arguments) machine =
      match Frame.enter classFile methodIndex arguments with
      | .ok frame => .ok () ⟨frame :: machine.frames,
          machine.shared.reported (.called classFile.name frame.method.name frame.locals)⟩
      | .error fault => .error fault machine := by
  show EStateM.bind (check (Frame.enter classFile methodIndex arguments)) _ machine = _
  unfold EStateM.bind check
  cases Frame.enter classFile methodIndex arguments with
  | ok frame => rfl
  | error fault => rfl

theorem apply_leave (value : Option Value) : apply (.leave value) ⟨top :: below, shared⟩ =
    .ok () ⟨delivered value below,
      shared.reported (.returned value top.classFile.name top.method.name)⟩ := by
  cases value with
  | none => rfl
  | some value =>
    cases below with
    | nil => rfl
    | cons next others => rfl

/-- What becomes of the frames when the request of an instruction is met. -/
theorem apply_frames {control : Control} {later : Machine}
    (applied : apply control ⟨top :: below, shared⟩ = .ok () later) :
    match control with
    | .proceed => later.frames = top :: below
    | .call .. => ∃ callee, later.frames = callee :: top :: below
    | .leave value => later.frames = delivered value below := by
  cases control with
  | proceed =>
    cases applied
    rfl
  | call classFile methodIndex arguments =>
    rw [apply_call] at applied
    split at applied
    next callee entered =>
      cases applied
      exact ⟨callee, rfl⟩
    next => cases applied
  | leave value =>
    rw [apply_leave] at applied
    cases applied
    rfl

/-- All that was on the heap is still in its place, and so is every static instance. -/
structure Extends (old new : Machine) : Prop where
  heap : old.shared.heap.Evolves new.shared.heap
  statics : old.shared.statics <+: new.shared.statics

theorem extends_refl (machine : Machine) : machine.Extends machine :=
  ⟨Heap.evolves_refl _, List.prefix_refl _⟩

theorem Extends.trans {first second third : Machine} (early : first.Extends second)
    (late : second.Extends third) : first.Extends third :=
  ⟨early.heap.trans late.heap, early.statics.trans late.statics⟩

theorem Extends.statics?_eq {old new : Machine} (extended : old.Extends new) {name : String}
    {address : Nat} (known : old.shared.statics? name = some address) :
    new.shared.statics? name = some address := by
  obtain ⟨added, same⟩ := extended.statics
  unfold Shared.statics? at known ⊢
  rw [← same, List.lookup_append, known]
  rfl

theorem extends_of_changes {a b : Activation} {delivers : Bool} (changes : Changes delivers a b)
    {frames frames' : List Frame} : Extends ⟨frames, a.shared⟩ ⟨frames', b.shared⟩ := by
  refine ⟨changes.evolves, ?_⟩
  induction changes with
  | refl => exact List.prefix_refl _
  | tail _ last ih =>
    rcases last.statics with same | ⟨name, address, _, added⟩
    · rw [same]
      exact ih
    · rw [added]
      exact ih.trans (List.prefix_append _ _)

theorem Sound.activation (sound : Sound ⟨top :: below, shared⟩) : Activation.Sound ⟨top, shared⟩ :=
  ⟨sound.frames top (List.mem_cons_self ..), sound.shared⟩

/-- The frames that an instruction does not touch stay sound along with the one it runs in. -/
theorem Sound.after {delivers : Bool} {b : Activation} (sound : Sound ⟨top :: below, shared⟩)
    (changes : Changes delivers ⟨top, shared⟩ b) : Sound ⟨b.frame :: below, b.shared⟩ := by
  have now := changes.sound sound.activation
  refine ⟨fun frame member => ?_, now.shared⟩
  rcases List.mem_cons.1 member with rfl | other
  · exact now.frame
  · exact (sound.frames frame (List.mem_cons_of_mem _ other)).evolves changes.evolves

theorem Sound.reported (sound : Sound machine) (event : Event) :
    Sound ⟨machine.frames, machine.shared.reported event⟩ :=
  ⟨sound.frames, ⟨sound.shared.fields, sound.shared.statics, sound.shared.once⟩⟩

theorem enter_sound {classFile : ClassFile} {methodIndex : Nat} {arguments : List Value}
    {frame : Frame} {heap : Heap} (entered : Frame.enter classFile methodIndex arguments = .ok frame)
    (backed : ∀ value ∈ arguments, heap.Backs value) : frame.Sound heap := by
  unfold Frame.enter at entered
  split at entered
  · cases entered
  split at entered
  · cases entered
  dsimp only at entered
  split at entered
  · cases entered
  cases entered
  refine ⟨fun _ member => (List.not_mem_nil member).elim, fun value member => ?_⟩
  rcases List.mem_append.1 member with given | unset
  · obtain ⟨argument, there, same⟩ := List.mem_map.1 given
    cases same
    exact backed _ there
  · cases (List.mem_replicate.1 unset).2

theorem delivered_sound {heap : Heap} {value : Option Value} {frames : List Frame}
    (sound : ∀ frame ∈ frames, frame.Sound heap) (backed : heap.BacksControl (.leave value)) :
    ∀ frame ∈ delivered value frames, frame.Sound heap := by
  cases value with
  | none => exact sound
  | some value =>
    cases frames with
    | nil => exact sound
    | cons next others =>
      intro frame member
      rcases List.mem_cons.1 member with rfl | other
      · exact (sound next (List.mem_cons_self ..)).push backed
      · exact sound frame (List.mem_cons_of_mem _ other)

theorem errsOnly_enter (classFile : ClassFile) (methodIndex : Nat) (arguments : List Value) :
    ErrsOnly Fault.Ordinary (Frame.enter classFile methodIndex arguments) := by
  unfold Frame.enter
  split
  · exact errsOnly_error trivial
  split
  · exact errsOnly_error trivial
  dsimp only
  exact errsOnly_ite (errsOnly_error trivial) (errsOnly_ok _)

/-- What may be said of an operation on a sound machine: the machine stays sound and keeps what it has,
and a failure is never that of a reference to nothing. -/
def Safe {α : Type} (action : Action α) (machine : Machine) : Prop :=
  (final (action machine)).Sound ∧ machine.Extends (final (action machine)) ∧
    ∀ fault later, action machine = .error fault later → fault.Grounded

theorem safe_apply {control : Control} (sound : Sound ⟨top :: below, shared⟩)
    (backed : shared.heap.BacksControl control) : Safe (apply control) ⟨top :: below, shared⟩ := by
  unfold Safe
  cases control with
  | proceed =>
    rw [apply_proceed]
    exact ⟨sound, extends_refl _, fun _ _ failed => nomatch failed⟩
  | call classFile methodIndex arguments =>
    rw [apply_call]
    cases entered : Frame.enter classFile methodIndex arguments with
    | error fault =>
      refine ⟨sound, extends_refl _, fun _ _ failed => ?_⟩
      cases failed
      exact (errsOnly_enter _ _ _ entered).grounded
    | ok frame =>
      have reported := sound.reported (.called classFile.name frame.method.name frame.locals)
      refine ⟨⟨fun other member => ?_, reported.shared⟩, ⟨Heap.evolves_refl _, List.prefix_refl _⟩,
        fun _ _ failed => nomatch failed⟩
      rcases List.mem_cons.1 member with rfl | old
      · exact enter_sound entered backed
      · exact reported.frames other old
  | leave value =>
    rw [apply_leave]
    have reported := sound.reported (.returned value top.classFile.name top.method.name)
    refine ⟨⟨?_, reported.shared⟩, ⟨Heap.evolves_refl _, List.prefix_refl _⟩,
      fun _ _ failed => nomatch failed⟩
    exact delivered_sound (fun frame member => sound.frames frame (List.mem_cons_of_mem _ member))
      backed

theorem safe_step (sound : machine.Sound) : Safe step machine := by
  obtain ⟨frames, shared⟩ := machine
  cases frames with
  | nil =>
    refine ⟨sound, extends_refl _, fun fault later failed => ?_⟩
    cases failed
    exact id
  | cons top below =>
    have conduct := Exec.conducts_instruction sound.activation
    unfold Safe
    rw [step_cons]
    cases ran : Exec.instruction ⟨top, shared⟩ with
    | error fault b =>
      rw [ran] at conduct
      refine ⟨sound.after conduct.1, extends_of_changes conduct.1, fun _ _ failed => ?_⟩
      cases failed
      exact conduct.2
    | ok control b =>
      rw [ran] at conduct
      obtain ⟨soundNow, extended, grounded⟩ := safe_apply (sound.after conduct.1) conduct.2
      exact ⟨soundNow, (extends_of_changes conduct.1).trans extended, grounded⟩

end Machine

end MiniJvm
