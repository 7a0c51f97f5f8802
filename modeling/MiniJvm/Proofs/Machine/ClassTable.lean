import MiniJvm.Proofs.Machine.ClassOrigin
import MiniJvm.Proofs.Machine.Supply

/-!
The table of the classes that a machine knows. It only grows, at its end and under names that are not in it,
whether a class comes from memory, is asked for by name or is read in the course of an instruction. So every
name has one entry at most, and the entry that a name has once it keeps.
-/

namespace MiniJvm

open Effect Activation

namespace Shared

variable {shared old new : Shared} {name : String} {found known : ClassFile} {fault : Fault}

def Distinct (shared : Shared) : Prop :=
  (shared.classes.map (·.name)).Nodup

/-- Classes have been added to the table, each under a name that was not there. -/
structure Adds (old new : Shared) : Prop where
  kept : old.classes <+: new.classes
  distinct : old.Distinct → new.Distinct

theorem adds_of_eq (same : new.classes = old.classes) : old.Adds new := by
  constructor
  · exact same ▸ List.prefix_refl _
  · unfold Distinct
    rw [same]
    exact id

theorem Adds.trans {last : Shared} (early : old.Adds new) (late : new.Adds last) : old.Adds last :=
  ⟨early.kept.trans late.kept, fun distinct => late.distinct (early.distinct distinct)⟩

theorem Same.adds (same : old.Same new) : old.Adds new := by
  obtain ⟨log, rfl⟩ := same
  exact adds_of_eq rfl

theorem findClass?_eq_none :
    shared.findClass? name = none ↔ ∀ known ∈ shared.classes, known.name ≠ name := by
  simp [findClass?]

theorem adds_one (absent : old.findClass? found.name = none)
    (added : new.classes = old.classes ++ [found]) : old.Adds new := by
  constructor
  · rw [added]
    exact List.prefix_append _ _
  · intro distinct
    have fresh : found.name ∉ old.classes.map (·.name) := by
      simpa using findClass?_eq_none.1 absent
    unfold Distinct
    rw [added, List.map_append]
    exact List.nodup_append.2 ⟨distinct, by simp, by simpa using fresh⟩

/-- A class of the table is all that its name stands for. -/
theorem Distinct.entry (distinct : shared.Distinct) (member : known ∈ shared.classes) :
    shared.classes.filter (·.name = known.name) = [known] := by
  obtain ⟨front, back, split⟩ := List.append_of_mem member
  unfold Distinct at distinct
  rw [split, List.map_append, List.map_cons] at distinct
  obtain ⟨_, rest, apart⟩ := List.nodup_append.1 distinct
  have before : front.filter (·.name = known.name) = [] := by
    simp only [List.filter_eq_nil_iff, decide_eq_true_eq]
    intro other there
    exact apart _ (List.mem_map_of_mem there) _ (List.mem_cons_self ..)
  have behind : back.filter (·.name = known.name) = [] := by
    simp only [List.filter_eq_nil_iff, decide_eq_true_eq]
    intro other there same
    exact (List.nodup_cons.1 rest).1 (same ▸ List.mem_map_of_mem there)
  rw [split, List.filter_append, List.filter_cons_of_pos (by simp), before, behind]
  rfl

theorem Distinct.findClass? (distinct : shared.Distinct) (member : known ∈ shared.classes) :
    shared.findClass? known.name = some known := by
  cases searched : shared.findClass? known.name with
  | none => exact absurd rfl (findClass?_eq_none.1 searched known member)
  | some first =>
    obtain ⟨listed, named⟩ := findClass?_some searched
    have there : first ∈ shared.classes.filter (·.name = known.name) :=
      List.mem_filter.2 ⟨listed, by simpa using named⟩
    rw [distinct.entry member] at there
    rw [List.mem_singleton.1 there]

/-! ### Asking for classes -/

theorem load_of_known (there : shared.findClass? name = some known) :
    load name shared = .ok known shared := by
  unfold load
  rw [there]

theorem load_error_iff :
    (∃ later, load name shared = .error fault later) ↔
      shared.findClass? name = none ∧ classOnDisk shared.classpath shared.disk name = .error fault := by
  rw [load_eq]
  unfold lookup
  cases shared.findClass? name with
  | some known => simp
  | none =>
    dsimp only
    cases classOnDisk shared.classpath shared.disk name with
    | ok found => simp
    | error cause => simp

theorem load_adds (name : String) (shared : Shared) : shared.Adds (final (load name shared)) := by
  unfold load
  cases absent : shared.findClass? name with
  | some known => exact adds_of_eq rfl
  | none =>
    dsimp only
    cases read : classOnDisk shared.classpath shared.disk name with
    | ok found => exact adds_one (Exec.classOnDisk_name read ▸ absent) rfl
    | error fault => exact adds_of_eq rfl

theorem load_failed {later : Shared} (failed : load name shared = .error fault later) :
    later.classes = shared.classes := by
  obtain ⟨absent, refused⟩ := load_error_iff.1 ⟨later, failed⟩
  unfold load at failed
  rw [absent, refused] at failed
  cases failed
  rfl

theorem define_error_iff {bytes : Array UInt8} :
    (∃ later, define bytes shared = .error fault later) ↔ ClassFile.parse bytes = .error fault := by
  unfold define
  dsimp only
  cases ClassFile.parse bytes with
  | error cause => simp
  | ok parsed =>
    dsimp only
    cases shared.findClass? parsed.name with
    | some known => simp
    | none => simp

theorem define_ok {bytes : Array UInt8} {later : Shared} (defined : define bytes shared = .ok found later) :
    ∃ parsed, ClassFile.parse bytes = .ok parsed ∧
      (shared.findClass? parsed.name = some found ∧ later.classes = shared.classes ∨
        shared.findClass? parsed.name = none ∧ found = parsed ∧
          later.classes = shared.classes ++ [parsed]) := by
  unfold define at defined
  dsimp only at defined
  cases read : ClassFile.parse bytes with
  | error cause =>
    rw [read] at defined
    cases defined
  | ok parsed =>
    rw [read] at defined
    dsimp only at defined
    refine ⟨parsed, rfl, ?_⟩
    cases there : shared.findClass? parsed.name with
    | some known =>
      rw [there] at defined
      cases defined
      exact .inl ⟨rfl, rfl⟩
    | none =>
      rw [there] at defined
      cases defined
      exact .inr ⟨rfl, rfl, rfl⟩

theorem define_failed {bytes : Array UInt8} {later : Shared}
    (failed : define bytes shared = .error fault later) : later.classes = shared.classes := by
  have refused := define_error_iff.1 ⟨later, failed⟩
  unfold define at failed
  simp only [refused] at failed
  cases failed
  rfl

theorem define_adds (bytes : Array UInt8) (shared : Shared) :
    shared.Adds (final (define bytes shared)) := by
  cases defined : define bytes shared with
  | error fault later => exact adds_of_eq (define_failed defined)
  | ok found later =>
    obtain ⟨parsed, _, ⟨_, same⟩ | ⟨absent, rfl, added⟩⟩ := define_ok defined
    · exact adds_of_eq same
    · exact adds_one absent added

theorem flush_adds (shared : Shared) : shared.Adds (final (flush shared)) := by
  unfold flush
  split
  · exact adds_of_eq rfl
  · exact adds_of_eq rfl

end Shared

/-! ### Histories -/

theorem Activation.Change.adds {delivers : Bool} {a b : Activation} (change : Change delivers a b) :
    a.shared.Adds b.shared := by
  cases change with
  | addClass found absent => exact Shared.adds_one absent rfl
  | _ => exact Shared.adds_of_eq rfl

theorem Activation.Changes.adds {delivers : Bool} {a b : Activation} (changes : Changes delivers a b) :
    a.shared.Adds b.shared := by
  induction changes with
  | refl => exact Shared.adds_of_eq rfl
  | tail _ last ih => exact ih.trans last.adds

namespace Machine

open Exec Shared

variable {machine : Machine}

theorem step_adds (sound : machine.Sound) : machine.shared.Adds (final (step machine)).shared := by
  obtain ⟨frames, shared⟩ := machine
  cases frames with
  | nil => exact adds_of_eq rfl
  | cons top below =>
    have conduct := conducts_instruction sound.activation
    rw [step_cons]
    cases ran : instruction ⟨top, shared⟩ with
    | error fault b =>
      rw [ran] at conduct
      exact Changes.adds conduct.1
    | ok control b =>
      rw [ran] at conduct
      exact (Changes.adds conduct.1).trans (same_apply control b.frame below b.shared).adds

theorem make_adds (move : Move) (sound : machine.Sound) :
    machine.shared.Adds (move.make machine).shared := by
  have sharedOnly {α : Type} {action : Shared.Action α}
      (adds : machine.shared.Adds (final (action machine.shared))) :
      machine.shared.Adds (final (onShared action machine)).shared := by
    rw [final_onShared]
    exact adds
  cases move with
  | define bytes => exact sharedOnly (define_adds bytes machine.shared)
  | load name => exact sharedOnly (load_adds name machine.shared)
  | flush => exact sharedOnly (flush_adds machine.shared)
  | step => exact step_adds sound
  | files disk => exact adds_of_eq rfl
  | discardFrames =>
    dsimp only [Move.make]
    unfold Machine.discardFrames
    split
    · exact adds_of_eq rfl
    · exact adds_of_eq rfl
  | enterMain classFile =>
    dsimp only [Move.make]
    rw [enterMain_eq]
    cases entryPoint classFile with
    | error fault => exact adds_of_eq rfl
    | ok methodIndex =>
      dsimp only
      cases Frame.enter classFile methodIndex [] with
      | error fault => exact adds_of_eq rfl
      | ok frame => exact adds_of_eq rfl

/-- The machines that some moves lead through, the first and the last among them. -/
def moments : List Move → Machine → List Machine
  | [], machine => [machine]
  | move :: later, machine => machine :: moments later (move.make machine)

theorem getLast?_moments (moves : List Move) (machine : Machine) :
    (moments moves machine).getLast? = some (makeAll moves machine) := by
  induction moves generalizing machine with
  | nil => rfl
  | cons move later ih => rw [moments, List.getLast?_cons, ih, Option.getD_some, makeAll]

theorem moments_add (moves : List Move) (sound : machine.Sound) :
    ∀ moment ∈ moments moves machine, machine.shared.Adds moment.shared := by
  induction moves generalizing machine with
  | nil =>
    intro moment member
    rw [List.mem_singleton.1 member]
    exact adds_of_eq rfl
  | cons move later ih =>
    intro moment member
    rcases List.mem_cons.1 member with same | member
    · rw [same]
      exact adds_of_eq rfl
    · exact (make_adds move sound).trans (ih (make_sound move machine sound).1 moment member)

/-- Of two moments the later one knows all classes of the earlier one, in the same places. -/
theorem moments_pairwise (moves : List Move) (sound : machine.Sound) :
    (moments moves machine).Pairwise fun earlier later =>
      earlier.shared.classes <+: later.shared.classes := by
  induction moves generalizing machine with
  | nil => exact List.pairwise_singleton _ _
  | cons move later ih =>
    have soundNext := (make_sound move machine sound).1
    refine List.pairwise_cons.2 ⟨?_, ih soundNext⟩
    intro moment member
    exact ((make_adds move sound).trans (moments_add later soundNext moment member)).kept

theorem after_adds (operations : List Operation) (sound : machine.Sound) :
    machine.shared.Adds (after operations machine).shared := by
  rw [after_eq]
  exact moments_add _ sound _ (List.mem_of_getLast? (getLast?_moments _ machine))

theorem fresh_distinct (classpath : String) (disk : Disk) (output : Sink) (logLimit : Nat) :
    (fresh classpath disk output logLimit).shared.Distinct :=
  List.nodup_nil

theorem Reachable.distinct (reachable : machine.Reachable) : machine.shared.Distinct := by
  obtain ⟨classpath, disk, output, logLimit, operations, rfl⟩ := reachable
  exact (after_adds operations (fresh_sound classpath disk output logLimit)).distinct
    (fresh_distinct classpath disk output logLimit)

theorem onShared_ok_iff {α : Type} {action : Shared.Action α} {value : α} {later : Machine} :
    onShared action machine = .ok value later ↔
      action machine.shared = .ok value later.shared ∧ later.frames = machine.frames := by
  obtain ⟨frames, shared⟩ := later
  unfold onShared
  cases action machine.shared with
  | ok found reached => simp [eq_comm, and_comm, and_assoc]
  | error fault reached => simp

theorem onShared_error_iff {α : Type} {action : Shared.Action α} {fault : Fault} {later : Machine} :
    onShared action machine = .error fault later ↔
      action machine.shared = .error fault later.shared ∧ later.frames = machine.frames := by
  obtain ⟨frames, shared⟩ := later
  unfold onShared
  cases action machine.shared with
  | ok found reached => simp
  | error cause reached => simp [eq_comm, and_comm, and_assoc]

theorem onShared_fails {α : Type} {action : Shared.Action α} {fault : Fault} :
    (∃ later, onShared action machine = .error fault later) ↔
      ∃ shared, action machine.shared = .error fault shared := by
  constructor
  · rintro ⟨later, failed⟩
    exact ⟨later.shared, (onShared_error_iff.1 failed).1⟩
  · rintro ⟨shared, failed⟩
    exact ⟨⟨machine.frames, shared⟩, onShared_error_iff.2 ⟨failed, rfl⟩⟩

/-- A class that is found by its name is found again, and then without any change. -/
theorem load_again {name : String} {found : ClassFile} {later : Machine} (sound : later.Sound)
    (there : later.shared.findClass? name = some found) (operations : List Operation) :
    load name (after operations later) = .ok found (after operations later) := by
  have still := findClass?_of_grown (after_adds operations sound).kept there
  exact onShared_ok_iff.2 ⟨load_of_known still, rfl⟩

/-- The class that is found has the name that was asked for, and no other class of the table has it. -/
theorem load_entry {name : String} {found : ClassFile} {later : Machine}
    (distinct : machine.shared.Distinct) (loaded : load name machine = .ok found later) :
    found.name = name ∧ later.shared.classes.filter (·.name = name) = [found] := by
  obtain ⟨ran, _⟩ := onShared_ok_iff.1 loaded
  obtain ⟨listed, named⟩ := findClass?_some (Shared.load_ok ran).2.1
  have adds := load_adds name machine.shared
  rw [ran] at adds
  refine ⟨named, ?_⟩
  rw [← named]
  exact (adds.distinct distinct).entry listed

theorem define_entry {bytes : Array UInt8} {found : ClassFile} {later : Machine}
    (distinct : machine.shared.Distinct) (defined : define bytes machine = .ok found later) :
    ∃ parsed, ClassFile.parse bytes = .ok parsed ∧
      later.shared.classes.filter (·.name = parsed.name) = [found] ∧
      (∀ known ∈ machine.shared.classes, known.name = parsed.name →
        found = known ∧ later.shared.classes = machine.shared.classes) ∧
      ((∀ known ∈ machine.shared.classes, known.name ≠ parsed.name) →
        found = parsed ∧ later.shared.classes = machine.shared.classes ++ [parsed]) := by
  obtain ⟨ran, _⟩ := onShared_ok_iff.1 defined
  obtain ⟨parsed, read, ⟨there, same⟩ | ⟨absent, rfl, added⟩⟩ := define_ok ran
  · obtain ⟨member, named⟩ := findClass?_some there
    refine ⟨parsed, read, ?_, ?_, ?_⟩
    · rw [same, ← named]
      exact distinct.entry member
    · intro known taken sameName
      have first := distinct.findClass? taken
      rw [sameName, there] at first
      exact ⟨Option.some.inj first, same⟩
    · intro free
      exact absurd named (free found member)
  · have adds := adds_one absent added
    refine ⟨found, read, ?_, ?_, fun _ => ⟨rfl, added⟩⟩
    · exact (adds.distinct distinct).entry (by simp [added])
    · intro known taken sameName
      exact absurd sameName (findClass?_eq_none.1 absent known taken)

/-- At all moments of a history the names in the table are distinct, and the table of an earlier moment is
the front of that of a later one. What is found by its name has that name, is its only entry and is found
from then on without any change; it is not found exactly when its name has no entry and its file is
refused. What is defined from memory comes into the table unless its name has an entry, which then is the
result. Whatever fails leaves the table as it was. -/
theorem class_table_kept :
    (∀ classpath disk output logLimit operations,
      (∀ moment ∈ moments (historyMoves operations (fresh classpath disk output logLimit))
        (fresh classpath disk output logLimit), (moment.shared.classes.map (·.name)).Nodup) ∧
      (moments (historyMoves operations (fresh classpath disk output logLimit))
        (fresh classpath disk output logLimit)).Pairwise
        (fun earlier later => earlier.shared.classes <+: later.shared.classes) ∧
      (moments (historyMoves operations (fresh classpath disk output logLimit))
        (fresh classpath disk output logLimit)).getLast? =
        some (after operations (fresh classpath disk output logLimit))) ∧
    ∀ machine : Machine, machine.Reachable →
      (∀ name found later, load name machine = .ok found later →
        found.name = name ∧ later.shared.classes.filter (·.name = name) = [found] ∧
        ∀ operations, load name (after operations later) = .ok found (after operations later)) ∧
      (∀ bytes found later, define bytes machine = .ok found later →
        ∃ parsed, ClassFile.parse bytes = .ok parsed ∧
          later.shared.classes.filter (·.name = parsed.name) = [found] ∧
          (∀ known ∈ machine.shared.classes, known.name = parsed.name →
            found = known ∧ later.shared.classes = machine.shared.classes) ∧
          ((∀ known ∈ machine.shared.classes, known.name ≠ parsed.name) →
            found = parsed ∧ later.shared.classes = machine.shared.classes ++ [parsed])) ∧
      (∀ name fault, (∃ later, load name machine = .error fault later) ↔
        (∀ known ∈ machine.shared.classes, known.name ≠ name) ∧
          classOnDisk machine.shared.classpath machine.shared.disk name = .error fault) ∧
      (∀ bytes fault, (∃ later, define bytes machine = .error fault later) ↔
        ClassFile.parse bytes = .error fault) ∧
      (∀ name fault later, load name machine = .error fault later →
        later.shared.classes = machine.shared.classes) ∧
      ∀ bytes fault later, define bytes machine = .error fault later →
        later.shared.classes = machine.shared.classes := by
  constructor
  · intro classpath disk output logLimit operations
    have sound := fresh_sound classpath disk output logLimit
    refine ⟨?_, moments_pairwise _ sound, ?_⟩
    · intro moment member
      exact (moments_add _ sound moment member).distinct (fresh_distinct ..)
    · rw [getLast?_moments, ← after_eq]
  · intro machine reachable
    have distinct := reachable.distinct
    refine ⟨?_, ?_, ?_, ?_, ?_, ?_⟩
    · intro name found later loaded
      obtain ⟨named, entry⟩ := load_entry distinct loaded
      have sound : later.Sound := by
        have made := (make_sound (.load name) machine reachable.sound).1
        rwa [Move.make, loaded] at made
      have there := (Shared.load_ok (onShared_ok_iff.1 loaded).1).2.1
      exact ⟨named, entry, load_again sound there⟩
    · intro bytes found later defined
      exact define_entry distinct defined
    · intro name fault
      rw [← findClass?_eq_none, ← load_error_iff]
      exact onShared_fails
    · intro bytes fault
      exact onShared_fails.trans define_error_iff
    · intro name fault later failed
      exact load_failed (onShared_error_iff.1 failed).1
    · intro bytes fault later failed
      exact define_failed (onShared_error_iff.1 failed).1

/-- A class is read from disk, then defined again from memory and run, and a class without a file is asked
for. -/
theorem counter_table_kept :
    ∃ found later fault failed,
      load "Counter" (fresh "" counterDisk Sink.unbounded 0) = .ok found later ∧
      later.shared.classes.filter (·.name = "Counter") = [found] ∧
      load "Counter" (after [.define counterBytes, .start 9 "Counter"] later) =
        .ok found (after [.define counterBytes, .start 9 "Counter"] later) ∧
      load "Other" (fresh "" counterDisk Sink.unbounded 0) = .error fault failed ∧
      failed.shared.classes = [] := by
  have facts : (value? (load "Counter" (fresh "" counterDisk Sink.unbounded 0))).isSome = true ∧
      (value? (load "Other" (fresh "" counterDisk Sink.unbounded 0))).isSome = false := by
    decide +kernel
  have reachable : (fresh "" counterDisk Sink.unbounded 0).Reachable := ⟨_, _, _, _, [], rfl⟩
  obtain ⟨loads, _, _, _, fails, _⟩ := class_table_kept.2 _ reachable
  cases loaded : load "Counter" (fresh "" counterDisk Sink.unbounded 0) with
  | error fault failed => simp [loaded, value?] at facts
  | ok found later =>
    obtain ⟨_, entry, again⟩ := loads _ _ _ loaded
    cases refused : load "Other" (fresh "" counterDisk Sink.unbounded 0) with
    | ok other known => simp [refused, value?] at facts
    | error fault failed =>
      exact ⟨found, later, fault, failed, rfl, entry, again _, rfl, fails _ _ _ refused⟩

end Machine

end MiniJvm
