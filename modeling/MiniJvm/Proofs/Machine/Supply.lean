import MiniJvm.Proofs.Machine.Execution.Step
import MiniJvm.Proofs.Machine.FrameStep

/-!
Where the classes of a machine come from. A history brings classes with it, and it finds others on disk; no
machine that it leads to knows a class or runs a method of a class that is not among these. What holds of every
frame that is entered in such a class, and is kept by every elementary change, holds of all frames.
-/

namespace MiniJvm

open Effect Activation

namespace Shared

/-- The classes of a later state are those of an earlier one and others from its disk. -/
structure Fetches (old new : Shared) : Prop where
  classpath : new.classpath = old.classpath
  disk : new.disk = old.disk
  classes : ∀ classFile ∈ new.classes, classFile ∈ old.classes ∨
    ∃ name, classOnDisk old.classpath old.disk name = .ok classFile

variable {old new : Shared}

theorem fetches_refl (shared : Shared) : shared.Fetches shared :=
  ⟨rfl, rfl, fun _ => .inl⟩

theorem Fetches.trans {last : Shared} (early : old.Fetches new) (late : new.Fetches last) :
    old.Fetches last := by
  refine ⟨late.classpath.trans early.classpath, late.disk.trans early.disk, fun classFile member => ?_⟩
  rcases late.classes classFile member with known | ⟨name, read⟩
  · exact early.classes classFile known
  · rw [early.classpath, early.disk] at read
    exact .inr ⟨name, read⟩

theorem Same.fetches (same : old.Same new) : old.Fetches new := by
  obtain ⟨log, rfl⟩ := same
  exact ⟨rfl, rfl, fun _ => .inl⟩

theorem Same.fetched {middle : Shared} (same : middle.Same new) (fetches : old.Fetches middle) :
    old.Fetches new :=
  fetches.trans same.fetches

theorem Deed.fetches {registers : Bool} (deed : Deed registers old new) : old.Fetches new := by
  cases deed with
  | @load _ _ name found absent read =>
    refine ⟨rfl, rfl, fun classFile member => ?_⟩
    rcases List.mem_append.1 member with known | added
    · exact .inl known
    · rw [List.mem_singleton.1 added]
      exact .inr ⟨name, read⟩
  | _ => exact ⟨rfl, rfl, fun _ => .inl⟩

theorem Deeds.fetches {registers : Bool} (deeds : Deeds registers old new) : old.Fetches new := by
  induction deeds with
  | refl => exact fetches_refl old
  | tail _ last ih => exact ih.trans last.fetches

theorem fetches_load (name : String) (shared : Shared) :
    shared.Fetches (final (load name shared)) := by
  have spec := deeds_load false name shared
  cases loaded : load name shared with
  | ok found later =>
    rw [loaded] at spec
    exact spec.1.fetches
  | error fault later =>
    rw [loaded] at spec
    exact spec.fetches

theorem defined_classes (bytes : Array UInt8) (shared : Shared) :
    ∃ classes log, final (define bytes shared) = { shared with classes, log } ∧
      ∀ classFile ∈ classes, classFile ∈ shared.classes ∨ ClassFile.parse bytes = .ok classFile := by
  unfold define
  dsimp only
  cases read : ClassFile.parse bytes with
  | error fault => exact ⟨shared.classes, _, rfl, fun _ => .inl⟩
  | ok parsed =>
    dsimp only
    cases shared.findClass? parsed.name with
    | some known => exact ⟨shared.classes, _, rfl, fun _ => .inl⟩
    | none =>
      refine ⟨shared.classes ++ [parsed], _, rfl, fun classFile member => ?_⟩
      rcases List.mem_append.1 member with known | added
      · exact .inl known
      · rw [List.mem_singleton.1 added]
        exact .inr rfl

theorem fetches_flush (shared : Shared) : shared.Fetches (final (flush shared)) := by
  unfold flush
  split
  · exact fetches_refl shared
  · exact fetches_refl shared

end Shared

theorem Instr.Touches.fetches {instr : Instr} {old new : Shared} (touches : instr.Touches old new) :
    old.Fetches new := by
  cases instr with
  | getstatic index => exact Shared.Deeds.fetches touches
  | putstatic index => exact Shared.Deeds.fetches touches
  | new index => exact Shared.Deeds.fetches touches
  | invokestatic index => exact Shared.Deeds.fetches touches
  | invokevirtual index => exact Shared.Deeds.fetches touches
  | invokespecial index => exact Shared.Deeds.fetches touches
  | _ => exact Shared.Same.fetches touches

namespace Exec

open Shared

theorem Executes.fetches {a b : Activation} {instr : Instr} {control : Control}
    (executes : Executes a instr control b) : a.shared.Fetches b.shared := by
  cases executes with
  | works _ _ same => exact same.fetches
  | makes _ _ _ same => exact same.fetched ⟨rfl, rfl, fun _ => .inl⟩
  | iastore _ _ same => exact same.fetched ⟨rfl, rfl, fun _ => .inl⟩
  | castore _ _ same => exact same.fetched ⟨rfl, rfl, fun _ => .inl⟩
  | getfield _ _ _ same => exact same.fetches
  | putfield _ _ _ _ _ same => exact same.fetched ⟨rfl, rfl, fun _ => .inl⟩
  | getstatic _ deeds _ _ _ => exact deeds.fetches
  | putstatic _ deeds _ _ _ _ stores =>
    rw [stores]
    exact deeds.fetches.trans ⟨rfl, rfl, fun _ => .inl⟩
  | pending _ deeds _ _ => exact deeds.fetches
  | newPlatform _ _ same => exact same.fetched ⟨rfl, rfl, fun _ => .inl⟩
  | new _ deeds _ _ _ same =>
    exact same.fetched (deeds.fetches.trans ⟨rfl, rfl, fun _ => .inl⟩)
  | call _ deeds _ _ _ => exact deeds.fetches
  | prints _ _ _ _ same =>
    rcases same with onOutput | onErrors
    · exact onOutput.fetched ⟨rfl, rfl, fun _ => .inl⟩
    · exact onErrors.fetched ⟨rfl, rfl, fun _ => .inl⟩

theorem Executes.known {a b : Activation} {instr : Instr} {classFile : ClassFile} {methodIndex : Nat}
    {arguments : List Value} (executes : Executes a instr (.call classFile methodIndex arguments) b) :
    classFile ∈ b.shared.classes := by
  cases executes with
  | works _ yields _ => exact yields.elim
  | pending _ _ known _ => exact List.mem_of_find?_eq_some known
  | call _ _ known _ _ => exact List.mem_of_find?_eq_some known

end Exec

namespace Machine

open Exec Shared

/-- The classes that an operation brings with it. -/
def Operation.Offers (classpath : String) : Operation → ClassFile → Prop
  | .define bytes, classFile => ClassFile.parse bytes = .ok classFile
  | .enterMain entered, classFile => entered = classFile
  | .files disk, classFile => ∃ name, classOnDisk classpath disk name = .ok classFile
  | _, _ => False

/-- The classes that a history can come to: those on disk and those that it brings with it. -/
def Available (classpath : String) (disk : Disk) (operations : List Operation) (classFile : ClassFile) :
    Prop :=
  (∃ name, classOnDisk classpath disk name = .ok classFile) ∨
    ∃ operation ∈ operations, operation.Offers classpath classFile

/-- A property of frames that holds whenever a method of an available class is entered, and that no
instruction and no return takes away. -/
structure Carried (available : ClassFile → Prop) (P : Frame → Prop) : Prop where
  entered : ∀ {classFile : ClassFile} {methodIndex : Nat} {arguments : List Value} {frame : Frame},
    available classFile → Frame.enter classFile methodIndex arguments = .ok frame → P frame
  changed : ∀ {delivers : Bool} {a b : Activation}, Change delivers a b → P a.frame → P b.frame
  received : ∀ (frame : Frame) (value : Value), P frame → P { frame with stack := value :: frame.stack }

/-- All classes that a machine knows or can find are available, and all its frames have a property. -/
structure Supplied (available : ClassFile → Prop) (classpath : String) (P : Frame → Prop)
    (machine : Machine) : Prop where
  sound : machine.Sound
  path : machine.shared.classpath = classpath
  disk : ∀ name classFile, classOnDisk classpath machine.shared.disk name = .ok classFile →
    available classFile
  classes : ∀ classFile ∈ machine.shared.classes, available classFile
  frames : ∀ frame ∈ machine.frames, P frame

variable {available : ClassFile → Prop} {P : Frame → Prop} {classpath : String} {machine : Machine}
  {top : Frame} {below : List Frame} {shared : Shared} {instr : Instr} {a b : Activation}

theorem Carried.changes (carried : Carried available P) {delivers : Bool} (changes : Changes delivers a b)
    (holds : P a.frame) : P b.frame := by
  induction changes with
  | refl => exact holds
  | tail _ last ih => exact carried.changed last ih

theorem changes_of_undecoded {fault : Fault} (sound : Sound ⟨top :: below, shared⟩)
    (unread : decoded ⟨top, shared⟩ = .error fault a) : Changes false ⟨top, shared⟩ a := by
  have conducts : Conducts false decoded ⟨top, shared⟩ fun _ _ => True := conducts_decoded
  have conduct := conducts sound.activation
  rw [unread] at conduct
  exact conduct.1

theorem changes_of_failed {fault : Fault} (sound : Sound ⟨top :: below, shared⟩)
    (read : decoded ⟨top, shared⟩ = .ok instr a) (failed : execute instr a = .error fault b) :
    Changes false ⟨top, shared⟩ b := by
  have conduct := conducts_instruction sound.activation
  rw [instruction_eq, bind_of_ok read, failed] at conduct
  exact conduct.1

theorem changes_of_executed {control : Control} (sound : Sound ⟨top :: below, shared⟩)
    (read : decoded ⟨top, shared⟩ = .ok instr a) (executed : execute instr a = .ok control b) :
    Changes true ⟨top, shared⟩ b := by
  have conduct := conducts_instruction sound.activation
  rw [instruction_eq, bind_of_ok read, executed] at conduct
  exact conduct.1

theorem Supplied.fetched (supplied : Supplied available classpath P machine)
    (fetches : machine.shared.Fetches shared) : ∀ classFile ∈ shared.classes, available classFile := by
  intro classFile member
  rcases fetches.classes classFile member with known | ⟨name, read⟩
  · exact supplied.classes classFile known
  · rw [supplied.path] at read
    exact supplied.disk name classFile read

theorem Supplied.fetches {later : Machine} (supplied : Supplied available classpath P machine)
    (sound : later.Sound) (fetches : machine.shared.Fetches later.shared)
    (frames : ∀ frame ∈ later.frames, P frame) : Supplied available classpath P later where
  sound := sound
  path := fetches.classpath.trans supplied.path
  disk := by
    rw [fetches.disk]
    exact supplied.disk
  classes := supplied.fetched fetches
  frames := frames

theorem Supplied.running (supplied : Supplied available classpath P ⟨top :: below, shared⟩)
    (carried : Carried available P) {delivers : Bool} (changes : Changes delivers ⟨top, shared⟩ b) :
    ∀ frame ∈ b.frame :: below, P frame := by
  intro frame member
  rcases List.mem_cons.1 member with same | other
  · rw [same]
    exact carried.changes changes (supplied.frames top (List.mem_cons_self ..))
  · exact supplied.frames frame (List.mem_cons_of_mem _ other)

theorem discarded_frames (machine : Machine) :
    (final (Machine.discardFrames machine)).frames = [] ∧
      machine.shared.Fetches (final (Machine.discardFrames machine)).shared := by
  refine ⟨(final_discardFrames machine).1, ?_⟩
  unfold Machine.discardFrames
  split
  · exact fetches_refl machine.shared
  · exact (same_reported machine.shared _).fetches

theorem supplied_step (carried : Carried available P)
    (supplied : Supplied available classpath P machine) :
    Supplied available classpath P (final (step machine)) := by
  have sound : (final (step machine)).Sound := (safe_step supplied.sound).1
  have steps := stepsTo machine
  generalize step machine = result at steps sound ⊢
  obtain ⟨frames, shared⟩ := machine
  cases steps with
  | idle _ => exact supplied
  | undecoded running unread same =>
    cases running
    exact supplied.fetches sound same.fetches
      (supplied.running carried (changes_of_undecoded supplied.sound unread))
  | fails running read same failed touches =>
    cases running
    exact supplied.fetches sound (same.fetches.trans touches.fetches)
      (supplied.running carried (changes_of_failed supplied.sound read failed))
  | @executes instr control top below a b running read same executed executes =>
    cases running
    have fetched : shared.Fetches b.shared := same.fetches.trans executes.fetches
    have running := supplied.running carried (changes_of_executed supplied.sound read executed)
    refine supplied.fetches sound
      (fetched.trans (same_apply control b.frame below b.shared).fetches) fun frame member => ?_
    cases comes_apply member with
    | kept there => exact running frame there
    | received there => exact carried.received _ _ (running _ there)
    | entered entered =>
      exact carried.entered (supplied.fetched fetched _ executes.known) entered

def Move.Allowed (available : ClassFile → Prop) (classpath : String) : Move → Prop
  | .define bytes => ∀ classFile, ClassFile.parse bytes = .ok classFile → available classFile
  | .enterMain classFile => available classFile
  | .files disk => ∀ name classFile, classOnDisk classpath disk name = .ok classFile → available classFile
  | _ => True

theorem supplied_define {bytes : Array UInt8}
    (allowed : ∀ classFile, ClassFile.parse bytes = .ok classFile → available classFile)
    (supplied : Supplied available classpath P machine) :
    Supplied available classpath P (Move.make (.define bytes) machine) := by
  have sound := (make_sound (.define bytes) machine supplied.sound).1
  have made : Move.make (.define bytes) machine =
      ⟨machine.frames, final (Shared.define bytes machine.shared)⟩ := final_onShared _ machine
  obtain ⟨classes, log, defined, brought⟩ := defined_classes bytes machine.shared
  rw [made, defined] at sound ⊢
  refine ⟨sound, supplied.path, supplied.disk, fun classFile member => ?_, supplied.frames⟩
  rcases brought classFile member with known | parsed
  · exact supplied.classes classFile known
  · exact allowed classFile parsed

theorem supplied_enterMain {classFile : ClassFile} (carried : Carried available P)
    (allowed : available classFile) (supplied : Supplied available classpath P machine) :
    Supplied available classpath P (Move.make (.enterMain classFile) machine) := by
  have sound := (make_sound (.enterMain classFile) machine supplied.sound).1
  dsimp only [Move.make] at sound ⊢
  rw [enterMain_eq] at sound ⊢
  cases entry : entryPoint classFile with
  | error fault => exact supplied
  | ok methodIndex =>
    rw [entry] at sound
    dsimp only at sound ⊢
    cases entered : Frame.enter classFile methodIndex [] with
    | error fault =>
      rw [entered] at sound
      exact supplied.fetches sound (same_reported _ _).fetches supplied.frames
    | ok frame =>
      rw [entered] at sound
      refine supplied.fetches sound (same_reported _ _).fetches fun other member => ?_
      rcases List.mem_cons.1 member with same | kept
      · rw [same]
        exact carried.entered allowed entered
      · exact supplied.frames other kept

/-- A move that does something to the shared state only, without bringing a class. -/
theorem supplied_onShared {α : Type} {action : Shared.Action α}
    (supplied : Supplied available classpath P machine)
    (sound : (final (onShared action machine)).Sound)
    (fetches : machine.shared.Fetches (final (action machine.shared))) :
    Supplied available classpath P (final (onShared action machine)) := by
  rw [final_onShared] at sound ⊢
  exact supplied.fetches sound fetches supplied.frames

theorem supplied_make (move : Move) (carried : Carried available P)
    (allowed : move.Allowed available classpath) (supplied : Supplied available classpath P machine) :
    Supplied available classpath P (move.make machine) := by
  have sound := (make_sound move machine supplied.sound).1
  cases move with
  | define bytes => exact supplied_define allowed supplied
  | load name => exact supplied_onShared supplied sound (fetches_load name machine.shared)
  | enterMain classFile => exact supplied_enterMain carried allowed supplied
  | discardFrames =>
    obtain ⟨idle, fetches⟩ := discarded_frames machine
    refine supplied.fetches sound fetches fun frame member => ?_
    rw [show (Move.make .discardFrames machine).frames = [] from idle] at member
    cases member
  | step => exact supplied_step carried supplied
  | flush => exact supplied_onShared supplied sound (fetches_flush machine.shared)
  | files disk => exact ⟨sound, supplied.path, allowed, supplied.classes, supplied.frames⟩

/-- What all moves keep in machines that are supplied holds in the end. -/
theorem supplied_makeAll {Q : Machine → Prop} {moves : List Move} (carried : Carried available P)
    (kept : ∀ (move : Move) machine, Supplied available classpath P machine → Q machine →
      Q (move.make machine))
    (allowed : ∀ move ∈ moves, move.Allowed available classpath)
    (supplied : Supplied available classpath P machine) (holds : Q machine) :
    Supplied available classpath P (makeAll moves machine) ∧ Q (makeAll moves machine) := by
  induction moves generalizing machine with
  | nil => exact ⟨supplied, holds⟩
  | cons move later ih =>
    have next := supplied_make move carried (allowed move (List.mem_cons_self ..)) supplied
    exact ih (fun other member => allowed other (List.mem_cons_of_mem _ member)) next
      (kept move machine supplied holds)

theorem allowed_loopMoves (fuel : Nat) (machine : Machine) :
    ∀ move ∈ loopMoves fuel machine, move.Allowed available classpath := by
  intro move member
  obtain ⟨_, _, rfl⟩ := List.mem_map.1 member
  trivial

theorem load_known {name : String} {classFile : ClassFile} {later : Machine}
    (loaded : Machine.load name machine = .ok classFile later) : classFile ∈ later.shared.classes := by
  unfold Machine.load onShared at loaded
  cases ran : Shared.load name machine.shared with
  | error fault found =>
    rw [ran] at loaded
    cases loaded
  | ok known found =>
    rw [ran] at loaded
    cases loaded
    exact List.mem_of_find?_eq_some (Shared.load_ok ran).2.1

theorem allowed_startMoves (fuel : Nat) (className : String) (carried : Carried available P)
    (supplied : Supplied available classpath P machine) :
    ∀ move ∈ startMoves fuel className machine, move.Allowed available classpath := by
  have cleared : Supplied available classpath P (final (Machine.discardFrames machine)) :=
    supplied_make .discardFrames carried trivial supplied
  have found : Supplied available classpath P
      (final (Machine.load className (final (Machine.discardFrames machine)))) :=
    supplied_make (.load className) carried trivial cleared
  unfold startMoves
  intro move member
  rcases List.mem_cons.1 member with rfl | member
  · trivial
  rcases List.mem_cons.1 member with rfl | member
  · trivial
  cases loaded : Machine.load className (final (Machine.discardFrames machine)) with
  | error fault failed =>
    rw [loaded] at member
    cases member
  | ok classFile ready =>
    rw [loaded] at member found
    rcases List.mem_cons.1 member with rfl | member
    · exact found.classes classFile (load_known loaded)
    · split at member
      · cases member
      · rcases List.mem_append.1 member with steps | flushes
        · exact allowed_loopMoves fuel _ move steps
        · split at flushes
          · rw [List.mem_singleton.1 flushes]
            trivial
          · cases flushes

theorem allowed_moves {operation : Operation} (carried : Carried available P)
    (offered : ∀ classFile, operation.Offers classpath classFile → available classFile)
    (supplied : Supplied available classpath P machine) :
    ∀ move ∈ operation.moves machine, move.Allowed available classpath := by
  intro move member
  cases operation with
  | start fuel className => exact allowed_startMoves fuel className carried supplied move member
  | loop fuel => exact allowed_loopMoves fuel machine move member
  | define bytes =>
    cases List.mem_singleton.1 member
    exact offered
  | enterMain classFile =>
    cases List.mem_singleton.1 member
    exact offered classFile rfl
  | files disk =>
    cases List.mem_singleton.1 member
    exact fun name classFile read => offered classFile ⟨name, read⟩
  | _ =>
    cases List.mem_singleton.1 member
    trivial

theorem supplied_after {Q : Machine → Prop} {operations : List Operation} (carried : Carried available P)
    (kept : ∀ (move : Move) machine, Supplied available classpath P machine → Q machine →
      Q (move.make machine))
    (offered : ∀ operation ∈ operations, ∀ classFile,
      operation.Offers classpath classFile → available classFile)
    (supplied : Supplied available classpath P machine) (holds : Q machine) :
    Supplied available classpath P (after operations machine) ∧ Q (after operations machine) := by
  induction operations generalizing machine with
  | nil => exact ⟨supplied, holds⟩
  | cons operation later ih =>
    have allowed := allowed_moves carried (offered operation (List.mem_cons_self ..)) supplied
    have next := supplied_makeAll carried kept allowed supplied holds
    rw [← perform_eq] at next
    exact ih (fun other member => offered other (List.mem_cons_of_mem _ member)) next.1 next.2

/-- Along every history, what is known, found on disk and running comes from the available classes, and what
all moves keep under this condition holds. -/
theorem supplied_along {classpath : String} {disk : Disk} {output : Sink} {logLimit : Nat}
    {operations : List Operation} {P : Frame → Prop} {Q : Machine → Prop}
    (carried : Carried (Available classpath disk operations) P)
    (kept : ∀ (move : Move) machine,
      Supplied (Available classpath disk operations) classpath P machine → Q machine →
        Q (move.make machine))
    (holds : Q (fresh classpath disk output logLimit)) :
    Supplied (Available classpath disk operations) classpath P
        (after operations (fresh classpath disk output logLimit)) ∧
      Q (after operations (fresh classpath disk output logLimit)) := by
  refine supplied_after carried kept (fun operation member classFile offers => ?_) ?_ holds
  · exact .inr ⟨operation, member, offers⟩
  · exact {
      sound := fresh_sound classpath disk output logLimit
      path := rfl
      disk := fun name classFile read => .inl ⟨name, read⟩
      classes := fun _ member => (List.not_mem_nil member).elim
      frames := fun _ member => (List.not_mem_nil member).elim }

end Machine

end MiniJvm
