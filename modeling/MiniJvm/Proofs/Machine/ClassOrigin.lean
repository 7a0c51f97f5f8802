import MiniJvm.Proofs.Machine.LazyInitialization
import MiniJvm.Proofs.Machine.Parallel

/-!
Where a class comes from does not matter. All that a run sees of the classes is what their names stand
for. Two machines on which the names that programs may give to classes stand for the same classes behave
in the same way, even if one has the classes from memory and the other still has to read them, and what
the names of platform classes stand for plays no part at all.
-/

namespace MiniJvm

open Effect

namespace Shared

/-! ### What names stand for -/

theorem final_load (name : String) (shared : Shared) :
    ∃ classes log, final (load name shared) = { shared with classes, log } := by
  unfold load
  split
  · exact ⟨shared.classes, shared.log, rfl⟩
  · dsimp only
    split
    · exact ⟨_, _, rfl⟩
    · exact ⟨shared.classes, _, rfl⟩

theorem load_eq (name : String) (shared : Shared) :
    load name shared =
      match shared.lookup name with
      | .ok found => .ok found (final (load name shared))
      | .error fault => .error fault (final (load name shared)) := by
  unfold load lookup
  cases shared.findClass? name with
  | some known => rfl
  | none =>
    dsimp only
    cases classOnDisk shared.classpath shared.disk name with
    | ok found => rfl
    | error fault => rfl

theorem lookup_load (name other : String) (shared : Shared) :
    (final (load name shared)).lookup other = shared.lookup other := by
  unfold load
  split
  · rfl
  next unknown =>
    dsimp only
    cases read : classOnDisk shared.classpath shared.disk name with
    | error fault => rfl
    | ok found =>
      have named := Exec.classOnDisk_name read
      simp only [final, lookup, findClass?, List.find?_append]
      cases shared.classes.find? (·.name == other) with
      | some known => rfl
      | none =>
        by_cases same : name = other
        · subst same
          simp [named, read]
        · simp [named, same]

/-- Nothing in which the two states may differ shows in a run: the heap, the static instances and the
output are the same, and so is what the names stand for that are not those of platform classes. -/
structure Alike (s t : Shared) : Prop where
  heap : s.heap = t.heap
  statics : s.statics = t.statics
  output : s.output = t.output
  classpath : s.classpath = t.classpath
  lookup : ∀ name, Platform.isPlatform name = false → s.lookup name = t.lookup name

/-- Two states that are alike, and the same text has come to their error streams. -/
structure Alongside (errors errors' : String) (s t : Shared) : Prop extends Alike s t where
  errors : ∃ text, s.errors = errors ++ text ∧ t.errors = errors' ++ text

theorem Alike.alongside {s t : Shared} (alike : Alike s t) : Alongside s.errors t.errors s t :=
  { alike with errors := ⟨"", by simp, by simp⟩ }

theorem Alongside.load {errors errors' : String} {s t : Shared}
    (alongside : Alongside errors errors' s t) (name : String) :
    Alongside errors errors' (final (Shared.load name s)) (final (Shared.load name t)) := by
  obtain ⟨classes, log, left⟩ := final_load name s
  obtain ⟨classes', log', right⟩ := final_load name t
  have names (other : String) (user : Platform.isPlatform other = false) :
      (final (Shared.load name s)).lookup other = (final (Shared.load name t)).lookup other := by
    rw [lookup_load, lookup_load]
    exact alongside.lookup other user
  rw [left, right] at names ⊢
  exact { alongside with lookup := names }

theorem unseen_alongside (errors errors' : String) : Unseen (Alongside errors errors') where
  heap s t related := related.heap
  statics s t related := related.statics
  report event s t related := .ok { related with }
  changeHeap change s t related := .ok { related with heap := congrArg change related.heap }
  register name address s t related :=
    .ok { related with statics := congrArg (· ++ [(name, address)]) related.statics }
  write text s t related := by
    unfold Shared.write
    rw [related.output]
    split
    · exact .ok { related with output := rfl }
    · exact .error related
  writeError text s t related := by
    obtain ⟨before, left, right⟩ := related.errors
    refine .ok { related with errors := ⟨before ++ text, ?_, ?_⟩ }
    · rw [left, String.append_assoc]
    · rw [right, String.append_assoc]
  flush s t related := by
    unfold Shared.flush
    rw [related.output]
    split
    · exact .error related
    · exact .ok related
  load name user s t related := by
    -- One of the states may have the class in its table and the other not; both come to the same class.
    have after := related.load name
    rw [load_eq name s, load_eq name t, related.lookup name user]
    cases t.lookup name with
    | ok found => exact .ok after
    | error fault => exact .error after

/-! ### Platform classes -/

theorem classOnDisk_congr {classpath name : String} {disk disk' : Disk}
    (same : disk.read? (Path.ofClass classpath name) = disk'.read? (Path.ofClass classpath name)) :
    classOnDisk classpath disk name = classOnDisk classpath disk' name := by
  unfold classOnDisk
  dsimp only
  rw [same]

/-- The shared state on another disk and with more classes, which are found before the others. -/
def behind (disk : Disk) (planted : List ClassFile) (shared : Shared) : Shared :=
  { shared with disk, classes := planted ++ shared.classes }

/-- The disks hold the same files for all names that are not those of platform classes. -/
def ReadsAlike (classpath : String) (disk disk' : Disk) : Prop :=
  ∀ name, Platform.isPlatform name = false →
    disk.read? (Path.ofClass classpath name) = disk'.read? (Path.ofClass classpath name)

/-- The second state is the first behind some classes, and no platform class has been added to the table
since it held `old`. -/
structure Behind (disk : Disk) (planted old : List ClassFile) (s t : Shared) : Prop where
  same : t = s.behind disk planted
  reads : ReadsAlike s.classpath s.disk disk
  added : ∃ added, s.classes = old ++ added ∧
    ∀ classFile ∈ added, Platform.isPlatform classFile.name = false

theorem findClass?_behind {planted : List ClassFile} {name : String}
    (platform : ∀ classFile ∈ planted, Platform.isPlatform classFile.name = true)
    (user : Platform.isPlatform name = false) (disk : Disk) (shared : Shared) :
    (shared.behind disk planted).findClass? name = shared.findClass? name := by
  have passed : planted.find? (·.name == name) = none := by
    rw [List.find?_eq_none]
    intro classFile member same
    have known := platform classFile member
    rw [eq_of_beq same, user] at known
    cases known
  unfold findClass? behind
  rw [List.find?_append, passed]
  rfl

theorem Behind.load {disk : Disk} {planted old : List ClassFile} {name : String} {s t : Shared}
    (platform : ∀ classFile ∈ planted, Platform.isPlatform classFile.name = true)
    (user : Platform.isPlatform name = false) (related : Behind disk planted old s t) :
    Coincide (Behind disk planted old) (Shared.load name s) (Shared.load name t) := by
  obtain ⟨rfl, reads, added, before, users⟩ := related
  have sameClass : classOnDisk (s.behind disk planted).classpath (s.behind disk planted).disk name =
      classOnDisk s.classpath s.disk name := classOnDisk_congr (reads name user).symm
  have sameLog : (s.behind disk planted).logAfterRead
      (Path.ofClass (s.behind disk planted).classpath name) =
        s.logAfterRead (Path.ofClass s.classpath name) := by
    unfold logAfterRead behind
    dsimp only
    rw [reads name user]
  unfold Shared.load
  rw [findClass?_behind platform user]
  dsimp only
  rw [sameClass, sameLog]
  cases s.findClass? name with
  | some known => exact .ok ⟨rfl, reads, added, before, users⟩
  | none =>
    cases read : classOnDisk s.classpath s.disk name with
    | error fault => exact .error ⟨rfl, reads, added, before, users⟩
    | ok found =>
      have usersNow : ∀ classFile ∈ added ++ [found], Platform.isPlatform classFile.name = false := by
        intro classFile member
        rcases List.mem_append.1 member with earlier | last
        · exact users classFile earlier
        · rw [List.mem_singleton.1 last, Exec.classOnDisk_name read]
          exact user
      exact .ok ⟨by simp [behind], reads, added ++ [found], by simp [before], usersNow⟩

theorem unseen_behind {planted : List ClassFile} (disk : Disk) (old : List ClassFile)
    (platform : ∀ classFile ∈ planted, Platform.isPlatform classFile.name = true) :
    Unseen (Behind disk planted old) where
  heap s t related := by rw [related.same]; rfl
  statics s t related := by rw [related.same]; rfl
  report event s t related := by
    obtain ⟨rfl, reads, added⟩ := related
    exact .ok ⟨rfl, reads, added⟩
  changeHeap change s t related := by
    obtain ⟨rfl, reads, added⟩ := related
    exact .ok ⟨rfl, reads, added⟩
  register name address s t related := by
    obtain ⟨rfl, reads, added⟩ := related
    exact .ok ⟨rfl, reads, added⟩
  write text s t related := by
    obtain ⟨rfl, reads, added⟩ := related
    unfold Shared.write behind
    dsimp only
    split
    · exact .ok ⟨rfl, reads, added⟩
    · exact .error ⟨rfl, reads, added⟩
  writeError text s t related := by
    obtain ⟨rfl, reads, added⟩ := related
    exact .ok ⟨rfl, reads, added⟩
  flush s t related := by
    obtain ⟨rfl, reads, added⟩ := related
    unfold Shared.flush behind
    dsimp only
    split
    · exact .error ⟨rfl, reads, added⟩
    · exact .ok ⟨rfl, reads, added⟩
  load name user s t related := related.load platform user

/-! ### Classes from memory -/

def parsed (definitions : List (Array UInt8)) : List ClassFile :=
  definitions.filterMap fun bytes => (ClassFile.parse bytes).toOption

theorem mem_parsed {definitions : List (Array UInt8)} {classFile : ClassFile} :
    classFile ∈ parsed definitions ↔ ∃ bytes ∈ definitions, ClassFile.parse bytes = .ok classFile := by
  unfold parsed
  rw [List.mem_filterMap]
  apply exists_congr
  intro bytes
  cases ClassFile.parse bytes with
  | ok found => simp [Except.toOption]
  | error fault => simp [Except.toOption]

theorem parsed_ok {bytes : Array UInt8} {classFile : ClassFile}
    (read : ClassFile.parse bytes = .ok classFile) : parsed [bytes] = [classFile] := by
  simp [parsed, read, Except.toOption]

theorem parsed_error {bytes : Array UInt8} {fault : Fault}
    (refused : ClassFile.parse bytes = .error fault) : parsed [bytes] = [] := by
  simp [parsed, refused, Except.toOption]

/-- A definition is found after all that were there before. -/
theorem final_define (bytes : Array UInt8) (shared : Shared) :
    ∃ classes log, final (define bytes shared) = { shared with classes, log } ∧
      ∀ name, classes.find? (·.name == name) =
        (shared.classes ++ parsed [bytes]).find? (·.name == name) := by
  unfold define
  dsimp only
  cases read : ClassFile.parse bytes with
  | error fault =>
    rw [parsed_error read]
    exact ⟨shared.classes, _, rfl, by simp⟩
  | ok found =>
    rw [parsed_ok read]
    dsimp only
    cases known : shared.findClass? found.name with
    | none => exact ⟨shared.classes ++ [found], _, rfl, fun name => rfl⟩
    | some first =>
      refine ⟨shared.classes, _, rfl, fun name => ?_⟩
      unfold findClass? at known
      rw [List.find?_append]
      by_cases same : found.name = name
      · simp [← same, known]
      · simp [same]

end Shared

namespace Machine

open Shared

theorem after_define (definitions : List (Array UInt8)) (machine : Machine) :
    ∃ classes log, after (definitions.map .define) machine =
        ⟨machine.frames, { machine.shared with classes, log }⟩ ∧
      ∀ name, classes.find? (·.name == name) =
        (machine.shared.classes ++ parsed definitions).find? (·.name == name) := by
  induction definitions generalizing machine with
  | nil => exact ⟨machine.shared.classes, machine.shared.log, rfl, by simp [parsed]⟩
  | cons bytes others ih =>
    obtain ⟨classes, log, first, found⟩ := final_define bytes machine.shared
    have performed : Operation.perform (.define bytes) machine =
        ⟨machine.frames, { machine.shared with classes, log }⟩ := by
      show final (onShared (Shared.define bytes) machine) = _
      rw [final_onShared, first]
    obtain ⟨last, log', rest, foundLast⟩ := ih ⟨machine.frames, { machine.shared with classes, log }⟩
    refine ⟨last, log', ?_, fun name => ?_⟩
    · show after (others.map .define) (Operation.perform (.define bytes) machine) = _
      rw [performed, rest]
    · have split : parsed (bytes :: others) = parsed [bytes] ++ parsed others := by
        unfold parsed
        rw [← List.filterMap_append]
        rfl
      rw [foundLast, List.find?_append, found, split, ← List.append_assoc, ← List.find?_append]

/-- Names stand for the classes that were there, or else for those that have been defined. -/
theorem lookup_after_define (definitions : List (Array UInt8)) (machine : Machine) (name : String) :
    (after (definitions.map .define) machine).shared.lookup name =
      lookup { machine.shared with classes := machine.shared.classes ++ parsed definitions } name := by
  obtain ⟨classes, log, same, found⟩ := after_define definitions machine
  rw [same]
  unfold lookup findClass?
  dsimp only
  rw [found]

variable {machine other : Machine} {definitions : List (Array UInt8)} {disk : Disk}

/-- A disk that holds what has been defined from memory and agrees with the one of the machine for all
other names. -/
structure Stores (disk : Disk) (definitions : List (Array UInt8)) (shared : Shared) : Prop where
  defined : ∀ bytes ∈ definitions, ∀ classFile, ClassFile.parse bytes = .ok classFile →
    Platform.isPlatform classFile.name = false →
      disk.read? (Path.ofClass shared.classpath classFile.name) = some bytes
  others : ∀ name, Platform.isPlatform name = false →
    (∀ classFile ∈ parsed definitions, classFile.name ≠ name) →
      disk.read? (Path.ofClass shared.classpath name) =
        shared.disk.read? (Path.ofClass shared.classpath name)

theorem classOnDisk_stored {classpath : String} {bytes : Array UInt8} {classFile : ClassFile}
    (stored : disk.read? (Path.ofClass classpath classFile.name) = some bytes)
    (read : ClassFile.parse bytes = .ok classFile) :
    classOnDisk classpath disk classFile.name = .ok classFile := by
  unfold classOnDisk
  simp only [stored, read, if_true]

theorem lookup_stored (stores : Stores disk definitions machine.shared) (name : String)
    (user : Platform.isPlatform name = false) :
    (after (definitions.map .define) machine).shared.lookup name =
      (machine.withDisk disk).shared.lookup name := by
  rw [lookup_after_define]
  unfold lookup findClass? withDisk
  dsimp only
  rw [List.find?_append]
  cases machine.shared.classes.find? (·.name == name) with
  | some known => rfl
  | none =>
    cases found : (parsed definitions).find? (·.name == name) with
    | some classFile =>
      obtain ⟨bytes, member, read⟩ := mem_parsed.1 (List.mem_of_find?_eq_some found)
      have named : classFile.name = name := by simpa using List.find?_some found
      subst named
      exact (classOnDisk_stored (stores.defined bytes member classFile read user) read).symm
    | none =>
      have undefined : ∀ classFile ∈ parsed definitions, classFile.name ≠ name := by
        simpa using List.find?_eq_none.1 found
      exact classOnDisk_congr (stores.others name user undefined).symm

theorem alike_stored (stores : Stores disk definitions machine.shared) :
    Paired Alike (after (definitions.map .define) machine) (machine.withDisk disk) := by
  have names := lookup_stored stores
  obtain ⟨classes, log, same, _⟩ := after_define definitions machine
  rw [same] at names ⊢
  exact ⟨rfl, rfl, rfl, rfl, rfl, names⟩

/-- Where no two classes have the same name, it does not matter in which order they are searched. -/
theorem find?_reordered {classes reordered : List ClassFile} (order : classes.Perm reordered)
    (unique : ∀ first ∈ classes, ∀ second ∈ classes, first.name = second.name → first = second)
    (name : String) :
    classes.find? (·.name == name) = reordered.find? (·.name == name) := by
  cases found : reordered.find? (·.name == name) with
  | none =>
    rw [List.find?_eq_none] at found ⊢
    intro classFile member
    exact found classFile (order.mem_iff.1 member)
  | some second =>
    have inside := order.mem_iff.2 (List.mem_of_find?_eq_some found)
    have named : second.name = name := by simpa using List.find?_some found
    cases first : classes.find? (·.name == name) with
    | none => simpa [named] using List.find?_eq_none.1 first second inside
    | some classFile =>
      have alsoNamed : classFile.name = name := by simpa using List.find?_some first
      rw [unique classFile (List.mem_of_find?_eq_some first) second inside
        (alsoNamed.trans named.symm)]

theorem alike_reordered {reordered : List (Array UInt8)} (order : definitions.Perm reordered)
    (unique : ∀ first ∈ parsed definitions, ∀ second ∈ parsed definitions,
      first.name = second.name → first = second) :
    Paired Alike (after (definitions.map .define) machine)
      (after (reordered.map .define) machine) := by
  have sameParsed : (parsed definitions).Perm (parsed reordered) := order.filterMap _
  have names (name : String) : (after (definitions.map .define) machine).shared.lookup name =
      (after (reordered.map .define) machine).shared.lookup name := by
    rw [lookup_after_define, lookup_after_define]
    unfold lookup findClass?
    dsimp only
    rw [List.find?_append, List.find?_append, find?_reordered sameParsed unique]
  obtain ⟨classes, log, same, _⟩ := after_define definitions machine
  obtain ⟨classes', log', same', _⟩ := after_define reordered machine
  rw [same, same'] at names ⊢
  exact ⟨rfl, rfl, rfl, rfl, rfl, fun name _ => names name⟩

/-- Runs from the entry point of a class end in the same way, alike in all that a run can see, and have
printed the same text to the error stream. -/
def StartsAlike (fuel : Nat) (className : String) (machine other : Machine) : Prop :=
  (start fuel className machine).1 = (start fuel className other).1 ∧
    Paired (Alongside machine.shared.errors other.shared.errors)
      (start fuel className machine).2 (start fuel className other).2

theorem startsAlike (fuel : Nat) {className : String} (user : Platform.isPlatform className = false)
    (alike : Paired Alike machine other) : StartsAlike fuel className machine other :=
  start_paired (unseen_alongside _ _) fuel user ⟨alike.frames, alike.shared.alongside⟩

/-- The machine on another disk and with more classes, which are found before the others. -/
def behind (disk : Disk) (planted : List ClassFile) (machine : Machine) : Machine :=
  ⟨machine.frames, machine.shared.behind disk planted⟩

theorem step_paired_behind {planted : List ClassFile}
    (reads : ReadsAlike machine.shared.classpath machine.shared.disk disk)
    (platform : ∀ classFile ∈ planted, Platform.isPlatform classFile.name = true) :
    Coincide (Paired (Behind disk planted machine.shared.classes)) (step machine)
      (step (machine.behind disk planted)) :=
  respects_step (unseen_behind disk _ platform) ⟨rfl, rfl, reads, [], by simp, by simp⟩

theorem step_behind {planted : List ClassFile}
    (reads : ReadsAlike machine.shared.classpath machine.shared.disk disk)
    (platform : ∀ classFile ∈ planted, Platform.isPlatform classFile.name = true) :
    Coincide (fun later hidden => hidden = later.behind disk planted) (step machine)
      (step (machine.behind disk planted)) := by
  apply (step_paired_behind reads platform).mono
  intro later hidden still
  obtain ⟨frames, shared⟩ := hidden
  rw [show shared = _ from still.shared.same, show frames = _ from still.frames.symm]
  rfl

theorem step_adds_user_classes (machine : Machine) :
    ∃ added, (final (step machine)).shared.classes = machine.shared.classes ++ added ∧
      ∀ classFile ∈ added, Platform.isPlatform classFile.name = false := by
  have still : Coincide (Paired (Behind machine.shared.disk [] machine.shared.classes)) (step machine)
      (step (machine.behind machine.shared.disk [])) := step_paired_behind (fun _ _ => rfl) (by simp)
  exact still.final.shared.added

/-- Machines that are alike but for the origin of their classes take the same steps, with the same results
and the same faults, and stay alike. Whole runs end in the same way, whether classes were defined from
memory, in any order, or are read from disk. No step looks at a platform class on disk: neither other files
for such classes nor other classes of their names make a difference, and none is ever added. -/
theorem class_origin_irrelevant :
    (∀ machine other, Paired Alike machine other →
      Coincide (Paired (Alongside machine.shared.errors other.shared.errors)) (step machine)
        (step other)) ∧
    (∀ fuel className machine other, Platform.isPlatform className = false →
      Paired Alike machine other → StartsAlike fuel className machine other) ∧
    (∀ fuel className machine definitions disk, Platform.isPlatform className = false →
      Stores disk definitions machine.shared →
        StartsAlike fuel className (after (definitions.map .define) machine) (machine.withDisk disk)) ∧
    (∀ fuel className machine definitions reordered, Platform.isPlatform className = false →
      List.Perm definitions reordered →
      (∀ first ∈ parsed definitions, ∀ second ∈ parsed definitions,
        first.name = second.name → first = second) →
        StartsAlike fuel className (after (definitions.map .define) machine)
          (after (reordered.map .define) machine)) ∧
    (∀ machine disk planted, ReadsAlike machine.shared.classpath machine.shared.disk disk →
      (∀ classFile ∈ planted, Platform.isPlatform classFile.name = true) →
        Coincide (fun later hidden => hidden = later.behind disk planted) (step machine)
          (step (machine.behind disk planted))) ∧
    ∀ machine, ∃ added, (final (step machine)).shared.classes = machine.shared.classes ++ added ∧
      ∀ classFile ∈ added, Platform.isPlatform classFile.name = false := by
  refine ⟨?_, ?_, ?_, ?_, ?_, step_adds_user_classes⟩
  · intro machine other alike
    exact respects_step (unseen_alongside _ _) ⟨alike.frames, alike.shared.alongside⟩
  · intro fuel className machine other user alike
    exact startsAlike fuel user alike
  · intro fuel className machine definitions disk user stores
    exact startsAlike fuel user (alike_stored stores)
  · intro fuel className machine definitions reordered user order unique
    exact startsAlike fuel user (alike_reordered order unique)
  · intro machine disk planted reads platform
    exact step_behind reads platform

def counterDisk : Disk := Disk.empty.insert "Counter.class" counterBytes

theorem ofClass_here (name : String) : Path.ofClass "" name = name ++ ".class" := by
  unfold Path.ofClass Path.join
  split
  · rfl
  · simp [Path.classSuffix]

theorem counterDisk_stores (output : Sink) (logLimit : Nat) :
    Stores counterDisk [counterBytes] (Shared.fresh "" Disk.empty output logLimit) := by
  have named : (parsed [counterBytes]).map (·.name) = ["Counter"] := by decide +kernel
  constructor
  · intro bytes member classFile read _
    cases List.mem_singleton.1 member
    rw [parsed_ok read] at named
    show counterDisk.read? (Path.ofClass "" classFile.name) = some counterBytes
    rw [show classFile.name = "Counter" from (List.cons.inj named).1]
    rfl
  · intro name _ undefined
    have apart : name ++ ".class" ≠ "Counter" ++ ".class" := by
      intro same
      have here := List.mem_map.1 (named ▸ List.mem_singleton_self "Counter")
      obtain ⟨classFile, member, called⟩ := here
      exact undefined classFile member (called.trans ((String.append_left_inj _).1 same).symm)
    show counterDisk.read? (Path.ofClass "" name) = none
    rw [ofClass_here]
    exact if_neg apart

theorem counter_origin_irrelevant :
    (start 9 "Counter" (after [.define counterBytes] (fresh "" Disk.empty Sink.unbounded 0))).1 = .done ∧
      (start 9 "Counter" ((fresh "" Disk.empty Sink.unbounded 0).withDisk counterDisk)).1 = .done := by
  have done : (start 9 "Counter"
      (after [.define counterBytes] (fresh "" Disk.empty Sink.unbounded 0))).1 = .done := by
    decide +kernel
  have same := class_origin_irrelevant.2.2.1 9 "Counter" (fresh "" Disk.empty Sink.unbounded 0)
    [counterBytes] counterDisk (by decide) (counterDisk_stores _ _)
  exact ⟨done, same.1.symm.trans done⟩

end Machine

end MiniJvm
