import MiniJvm.Proofs.Machine.Entry
import MiniJvm.Proofs.Machine.Outcome

/-!
What a step does to the stack of frames, to the classes and to the static instances. It changes the running
frame, takes it off or puts one on top, which runs the initializer of a class if the step has asked for it.
No class is forgotten, and a static instance without a call of an initializer is registered only for a class
that needs none.
-/

namespace MiniJvm

open Effect

structure Frame.Initializes (frame : Frame) (name : String) : Prop where
  owner : frame.classFile.name = name
  method : frame.method.name = Exec.initializerName
  descriptor : frame.method.descriptor = Exec.initializerDescriptor

structure Frame.SameMethod (old new : Frame) : Prop where
  classFile : new.classFile = old.classFile
  method : new.method = old.method

theorem Frame.Initializes.of_sameMethod {old new : Frame} {name : String}
    (initializes : old.Initializes name) (same : old.SameMethod new) : new.Initializes name := by
  constructor
  · rw [same.classFile]
    exact initializes.owner
  · rw [same.method]
    exact initializes.method
  · rw [same.method]
    exact initializes.descriptor

namespace Activation

variable {delivers : Bool} {a b : Activation}

theorem Change.keeps (change : Change delivers a b) :
    a.frame.SameMethod b.frame ∧ a.shared.classes <+: b.shared.classes := by
  cases change with
  | addClass found absent => exact ⟨⟨rfl, rfl⟩, List.prefix_append _ _⟩
  | _ => exact ⟨⟨rfl, rfl⟩, List.prefix_refl _⟩

/-- An instruction does not change the method that runs it, and it forgets no class. -/
theorem Changes.keeps (changes : Changes delivers a b) :
    a.frame.SameMethod b.frame ∧ a.shared.classes <+: b.shared.classes := by
  induction changes with
  | refl => exact ⟨⟨rfl, rfl⟩, List.prefix_refl _⟩
  | tail _ last ih =>
    obtain ⟨same, grown⟩ := last.keeps
    exact ⟨⟨same.classFile.trans ih.1.classFile, same.method.trans ih.1.method⟩, ih.2.trans grown⟩

end Activation

namespace Exec

variable {α : Type} {a b : Activation} {fault : Fault}

theorem onFrame_error {action : Frame.Action α} (failed : onFrame action a = .error fault b) :
    b.shared = a.shared := by
  unfold onFrame at failed
  cases result : action a.frame with
  | ok value frame =>
    rw [result] at failed
    cases failed
  | error found frame =>
    rw [result] at failed
    cases failed
    rfl

theorem calm_of_undecoded (unread : decoded a = .error fault b) : a.shared.Calm b.shared := by
  rcases bind_error.1 unread with unfetched | ⟨opcode, c, fetched, undecoded⟩
  · rcases bind_error.1 unfetched with unopened | ⟨found, d, opened, ended⟩
    · rw [onFrame_error unopened]
      exact a.shared.calm_refl
    · have same := (onFrame_ok opened).2
      cases found with
      | some opcode => cases ended
      | none =>
        cases ended
        rw [same]
        exact a.shared.calm_refl
  · obtain ⟨found, d, opened, chosen⟩ := bind_ok.1 fetched
    have same := (onFrame_ok opened).2
    cases found with
    | none => cases chosen
    | some first =>
      obtain ⟨rfl, rfl⟩ := pure_ok.1 chosen
      rcases bind_error.1 undecoded with unreported | ⟨_, e, reported, unread⟩
      · cases unreported
      · cases reported
        rw [onFrame_error unread, ← same]
        exact ⟨rfl, List.prefix_refl _⟩

end Exec

namespace Machine

variable {machine later : Machine} {top : Frame} {below : List Frame} {name : String}

/-- Meeting the request of an instruction does nothing to the shared state but report. -/
theorem calm_apply (control : Control) (shared : Shared) :
    shared.Calm (final (apply control ⟨top :: below, shared⟩)).shared := by
  cases control with
  | proceed => exact shared.calm_refl
  | call classFile methodIndex arguments =>
    rw [apply_call]
    cases Frame.enter classFile methodIndex arguments with
    | ok frame => exact ⟨rfl, List.prefix_refl _⟩
    | error fault => exact shared.calm_refl
  | leave value =>
    rw [apply_leave]
    exact ⟨rfl, List.prefix_refl _⟩

/-- A step that asks for no initializer registers static instances for classes only that need none. -/
theorem settles_of_direct (direct : machine.scheduled? = none) :
    machine.shared.Settles (final (step machine)).shared := by
  obtain ⟨frames, shared⟩ := machine
  cases frames with
  | nil => exact Shared.settles_of_calm shared.calm_refl
  | cons top below =>
    cases read : Exec.decoded ⟨top, shared⟩ with
    | error fault a =>
      rw [step_undecoded read]
      exact Shared.settles_of_calm (Exec.calm_of_undecoded read)
    | ok instr a =>
      have sameStatics : a.shared.statics = shared.statics := (Exec.decoded_sameStore read).statics
      have settles {b : Activation} (since : a.shared.Settles b.shared) : shared.Settles b.shared := by
        unfold Shared.Settles at since ⊢
        rwa [sameStatics] at since
      have outcome := Exec.outcome_execute (Exec.decoded_inside read) instr
      rw [step_decoded read]
      cases executed : Exec.execute instr a with
      | error fault b =>
        rw [executed] at outcome
        cases outcome with
        | strays _ _ same => exact settles (Shared.settles_of_calm (same ▸ a.shared.calm_refl))
        | fails _ since _ => exact settles since
      | ok control b =>
        rw [executed] at outcome
        refine Shared.Settles.calm (settles ?_) (calm_apply control b.shared)
        cases outcome with
        | trades _ _ _ _ since => exact since
        | branches => exact Shared.settles_of_calm a.shared.calm_refl
        | rewinds _ asks pending =>
          rw [scheduled?_of_pending rfl read executed asks pending] at direct
          cases direct

/-- The frame of an initializer that a step asks for and enters. -/
theorem scheduled?_enters (asks : machine.scheduled? = some name)
    (ran : step machine = .ok () later) :
    ∃ callee rest, later.frames = callee :: rest ∧ callee.Initializes name := by
  obtain ⟨top, below, instr, a, call, b, frames, read, executed, _, pending⟩ := scheduled?_ok asks
  obtain ⟨_, shared⟩ := machine
  cases frames
  obtain ⟨classFile, methodIndex, _, rfl, _, known, found, _⟩ := Exec.prepare_pending_ok pending
  rw [step_decoded read, executed] at ran
  dsimp only at ran
  rw [apply_call] at ran
  cases entered : Frame.enter classFile methodIndex [] with
  | error fault =>
    rw [entered] at ran
    cases ran
  | ok callee =>
    rw [entered] at ran
    cases ran
    obtain ⟨rfl, _, declared, _⟩ := Frame.begins_of_enter entered
    obtain ⟨named, described⟩ := ClassFile.findMethod?_some found declared
    exact ⟨callee, _, rfl, by simpa using List.find?_some known, named, described⟩

theorem scheduled?_of_control {instr : Instr} {a b : Activation} {control : Control}
    (running : machine.frames = top :: below)
    (read : Exec.decoded ⟨top, machine.shared⟩ = .ok instr a)
    (executed : Exec.execute instr a = .ok control b)
    (other : ∀ classFile methodIndex arguments, control ≠ .call classFile methodIndex arguments) :
    machine.scheduled? = none := by
  unfold scheduled?
  simp only [running, read, executed]
  cases control with
  | call classFile methodIndex arguments => exact absurd rfl (other _ _ _)
  | _ => rfl

inductive FrameStep (machine : Machine) : EStateM.Result Fault Machine Unit → Prop
  | idle {fault : Fault} (idle : machine.frames = []) : FrameStep machine (.error fault machine)
  | fails {fault : Fault} {top frame : Frame} {below : List Frame} {shared : Shared}
      (running : machine.frames = top :: below) (same : top.SameMethod frame) :
      FrameStep machine (.error fault ⟨frame :: below, shared⟩)
  | proceeds {top frame : Frame} {below : List Frame} {shared : Shared}
      (running : machine.frames = top :: below) (same : top.SameMethod frame)
      (direct : machine.scheduled? = none) : FrameStep machine (.ok () ⟨frame :: below, shared⟩)
  | calls {top frame callee : Frame} {below : List Frame} {shared : Shared}
      (running : machine.frames = top :: below) (same : top.SameMethod frame)
      (initializes : ∀ name, machine.scheduled? = some name → callee.Initializes name) :
      FrameStep machine (.ok () ⟨callee :: frame :: below, shared⟩)
  | leaves {top : Frame} {below : List Frame} {value : Option Value} {shared : Shared}
      (running : machine.frames = top :: below) (direct : machine.scheduled? = none) :
      FrameStep machine (.ok () ⟨delivered value below, shared⟩)

theorem frameStep (sound : machine.Sound) : FrameStep machine (step machine) := by
  cases ran : step machine with
  | error fault later =>
    rcases step_error ran with ⟨idle, rfl⟩ | ⟨top, below, b, running, rfl, cause⟩
    · exact .idle idle
    · obtain ⟨_, shared⟩ := machine
      cases running
      have conduct := Exec.conducts_instruction sound.activation
      refine .fails rfl ?_
      rcases cause with refused | ⟨classFile, methodIndex, arguments, called⟩
      · rw [refused] at conduct
        exact conduct.1.keeps.1
      · rw [called] at conduct
        exact conduct.1.keeps.1
  | ok _ later =>
    obtain ⟨top, below, instr, a, control, b, running, read, executed, applied⟩ := step_ok ran
    have asks := scheduled?_of_control running read executed
    have enters (name) (asked : machine.scheduled? = some name) := scheduled?_enters asked ran
    obtain ⟨_, shared⟩ := machine
    cases running
    have same : top.SameMethod b.frame := by
      have conduct := Exec.conducts_instruction sound.activation
      rw [Exec.instruction_eq, bind_of_ok read, executed] at conduct
      exact conduct.1.keeps.1
    cases control with
    | proceed =>
      cases applied
      exact .proceeds rfl same (asks nofun)
    | leave value =>
      rw [apply_leave] at applied
      cases applied
      exact .leaves rfl (asks nofun)
    | call classFile methodIndex arguments =>
      rw [apply_call] at applied
      split at applied
      next callee entered =>
        cases applied
        refine .calls rfl same fun name asked => ?_
        obtain ⟨_, _, shape, initializes⟩ := enters name asked
        cases shape
        exact initializes
      next => cases applied

theorem step_classes (sound : machine.Sound) :
    machine.shared.classes <+: (final (step machine)).shared.classes := by
  obtain ⟨frames, shared⟩ := machine
  cases frames with
  | nil => exact List.prefix_refl _
  | cons top below =>
    have conduct := Exec.conducts_instruction sound.activation
    rw [step_cons]
    cases ran : Exec.instruction ⟨top, shared⟩ with
    | error fault b =>
      rw [ran] at conduct
      exact conduct.1.keeps.2
    | ok control b =>
      rw [ran] at conduct
      exact conduct.1.keeps.2.trans (calm_apply control b.shared).classes

theorem define_classes (bytes : Array UInt8) (shared : Shared) :
    shared.classes <+: (final (Shared.define bytes shared)).classes := by
  unfold Shared.define
  dsimp only
  split
  · exact List.prefix_refl _
  · split
    · exact List.prefix_refl _
    · exact List.prefix_append _ _

theorem flush_classes (shared : Shared) :
    shared.classes <+: (final (Shared.flush shared)).classes := by
  unfold Shared.flush
  split
  · exact List.prefix_refl _
  · exact List.prefix_refl _

theorem final_discardFrames (machine : Machine) :
    (final (Machine.discardFrames machine)).frames = [] ∧
      machine.shared.Calm (final (Machine.discardFrames machine)).shared := by
  unfold Machine.discardFrames
  by_cases idle : machine.frames.isEmpty
  · rw [if_pos idle]
    exact ⟨List.isEmpty_iff.1 idle, machine.shared.calm_refl⟩
  · rw [if_neg idle]
    exact ⟨rfl, rfl, List.prefix_refl _⟩

/-- Moves other than steps register nothing and forget no class. -/
theorem calm_make {move : Move} (other : move ≠ .step) (machine : Machine) :
    machine.shared.Calm (move.make machine).shared := by
  have sharedOnly {α : Type} {action : Shared.Action α}
      (classes : machine.shared.classes <+: (final (action machine.shared)).classes) :
      machine.shared.classes <+: (final (onShared action machine)).shared.classes := by
    rw [final_onShared]
    exact classes
  refine ⟨(make_sameStore other machine).1.statics, ?_⟩
  cases move with
  | step => exact absurd rfl other
  | define bytes => exact sharedOnly (define_classes bytes machine.shared)
  | load name => exact sharedOnly (Shared.calm_load name machine.shared).classes
  | flush => exact sharedOnly (flush_classes machine.shared)
  | files disk => exact List.prefix_refl _
  | discardFrames => exact (final_discardFrames machine).2.classes
  | enterMain classFile =>
    dsimp only [Move.make]
    rw [enterMain_eq]
    cases entryPoint classFile with
    | error fault => exact List.prefix_refl _
    | ok methodIndex =>
      dsimp only
      cases Frame.enter classFile methodIndex [] with
      | error fault => exact List.prefix_refl _
      | ok frame => exact List.prefix_refl _

theorem statics?_eq_none_iff : machine.shared.statics? name = none ↔ name ∉ machine.prepared := by
  unfold Shared.statics? Machine.prepared
  rw [List.lookup_eq_none_iff, List.mem_map]
  constructor
  · rintro absent ⟨entry, member, rfl⟩
    simpa using absent entry member
  · intro absent entry member
    exact bne_iff_ne.2 fun same => absent ⟨entry, member, same.symm⟩

theorem scheduled?_user (asks : machine.scheduled? = some name) :
    Platform.isPlatform name = false := by
  obtain ⟨_, _, _, _, _, _, _, _, _, _, pending⟩ := scheduled?_ok asks
  exact (Exec.prepare_pending pending).2.1

theorem settled_of_registered (direct : machine.scheduled? = none)
    (member : name ∈ registered machine) : (final (step machine)).shared.Settled name := by
  obtain ⟨added, statics, settled⟩ := settles_of_direct direct
  unfold registered Machine.prepared at member
  rw [statics, List.map_append, List.drop_left] at member
  obtain ⟨entry, there, rfl⟩ := List.mem_map.1 member
  exact settled entry there

end Machine

end MiniJvm
