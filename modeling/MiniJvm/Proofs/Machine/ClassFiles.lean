import MiniJvm.Proofs.Machine.ClassOrigin
import MiniJvm.Proofs.Path.Confinement

/-!
The files that steps read. A step looks for one class at most, the one that its instruction names, and reads
no file but that of this class, and that only if the class is not known yet. Where the file lies depends on
the name alone, which no check stands in the way of: a relative name that goes downwards stays below the
class path, but `..` leads out of it, and an absolute name disregards it.
-/

namespace MiniJvm

open Effect Disk

namespace Shared

/-- The second state is the first on another disk, which has the same files for those of the sought classes
that still have to be read. -/
structure Relocated (disk : Disk) (sought : String → Prop) (s t : Shared) : Prop where
  same : t = { s with disk }
  reads : ∀ name, sought name → s.findClass? name = none →
    disk.read? (Path.ofClass s.classpath name) = s.disk.read? (Path.ofClass s.classpath name)

variable {disk : Disk} {sought : String → Prop}

theorem hidden_relocated (disk : Disk) (sought : String → Prop) : Hidden (Relocated disk sought) where
  heap s t related := by rw [related.same]
  statics s t related := by rw [related.same]
  report event s t related := by
    obtain ⟨rfl, reads⟩ := related
    exact .ok ⟨rfl, reads⟩
  changeHeap change s t related := by
    obtain ⟨rfl, reads⟩ := related
    exact .ok ⟨rfl, reads⟩
  register name address s t related := by
    obtain ⟨rfl, reads⟩ := related
    exact .ok ⟨rfl, reads⟩
  write text s t related := by
    obtain ⟨rfl, reads⟩ := related
    unfold Shared.write
    dsimp only
    split
    · exact .ok ⟨rfl, reads⟩
    · exact .error ⟨rfl, reads⟩
  writeError text s t related := by
    obtain ⟨rfl, reads⟩ := related
    exact .ok ⟨rfl, reads⟩
  flush s t related := by
    obtain ⟨rfl, reads⟩ := related
    unfold Shared.flush
    dsimp only
    split
    · exact .error ⟨rfl, reads⟩
    · exact .ok ⟨rfl, reads⟩

theorem respects_load {name : String} (asked : sought name) :
    Respects (Relocated disk sought) (load name) := by
  rintro s t ⟨rfl, reads⟩
  unfold load
  dsimp only [findClass?]
  cases known : s.classes.find? (·.name == name) with
  | some stored => exact .ok ⟨rfl, reads⟩
  | none =>
    have here := reads name asked known
    have sameLog : logAfterRead { s with disk } (Path.ofClass s.classpath name) =
        s.logAfterRead (Path.ofClass s.classpath name) := by
      unfold logAfterRead
      dsimp only
      rw [here]
    dsimp only
    rw [classOnDisk_congr here, sameLog]
    cases classOnDisk s.classpath s.disk name with
    | error fault => exact .error ⟨rfl, reads⟩
    | ok found =>
      -- A class that is still unknown was unknown before.
      refine .ok ⟨rfl, fun other sought unknown => reads other sought ?_⟩
      unfold findClass? at unknown ⊢
      rw [List.find?_append] at unknown
      exact (Option.or_eq_none_iff.1 unknown).1

end Shared

namespace Machine

open Shared MiniJvm.Path

variable {machine : Machine} {disk : Disk}

/-- The next step has to read the file of this class, if it gets that far. -/
def Seeks (machine : Machine) (name : String) : Prop :=
  ∃ instr a, machine.AboutTo instr a ∧ instr.seeks? a.frame.classFile.pool = some name ∧
    Platform.isPlatform name = false ∧ machine.shared.findClass? name = none

theorem Seeks.unique {name other : String} (seeks : machine.Seeks name)
    (alsoSeeks : machine.Seeks other) : name = other := by
  obtain ⟨instr, a, about, named, _⟩ := seeks
  obtain ⟨instr', a', about', named', _⟩ := alsoSeeks
  obtain ⟨rfl, rfl⟩ := about.unique about'
  exact Option.some.inj (named.symm.trans named')

/-- A step reads no other file than that of the class it seeks. -/
theorem step_relocated
    (reads : ∀ name, machine.Seeks name →
      disk.read? (ofClass machine.shared.classpath name) =
        machine.shared.disk.read? (ofClass machine.shared.classpath name)) :
    Coincide (fun later other => other = later.withDisk disk) (step machine)
      (step (machine.withDisk disk)) := by
  let sought (name : String) : Prop := ∃ instr a, machine.AboutTo instr a ∧
    instr.seeks? a.frame.classFile.pool = some name ∧ Platform.isPlatform name = false
  have start : Paired (Relocated disk sought) machine (machine.withDisk disk) := by
    refine ⟨rfl, rfl, fun name ⟨instr, a, about, named, user⟩ unknown => ?_⟩
    exact reads name ⟨instr, a, about, named, user, unknown⟩
  have together := coincide_step (hidden_relocated disk sought) start
    fun instr a about name named user => respects_load ⟨instr, a, about, named, user⟩
  apply together.mono
  rintro later ⟨frames, shared⟩ ⟨sameFrames, sameShared⟩
  rw [show shared = _ from sameShared.same, show frames = _ from sameFrames.symm]
  rfl

/-- A step reads no file but that of the one class which it seeks, if there is one. The file of a relative
name is the class path and then the name; an absolute name is a path of its own. The file lies below every
class path exactly when the name is relative and never climbs out of where it starts. -/
theorem class_file_below_iff_contained (machine : Machine) :
    (∀ disk, (∀ name, machine.Seeks name →
      disk.read? (ofClass machine.shared.classpath name) =
        machine.shared.disk.read? (ofClass machine.shared.classpath name)) →
      Coincide (fun later other => other = later.withDisk disk) (step machine)
        (step (machine.withDisk disk))) ∧
    ∀ name, machine.Seeks name →
      (∀ other, machine.Seeks other → other = name) ∧
      (isAbsolute name = false → ∀ classpath,
        isAbsolute (ofClass classpath name) = isAbsolute classpath ∧
          names (ofClass classpath name) = names classpath ++ names (name ++ classSuffix)) ∧
      (isAbsolute name = true → ∀ classpath, ofClass classpath name = name ++ classSuffix) ∧
      ((∀ classpath, Below classpath (ofClass classpath name)) ↔ Contained name) := by
  refine ⟨fun _ reads => step_relocated reads, fun name seeks => ⟨fun _ also => also.unique seeks, ?_,
    ofClass_absolute, contained_of_below, Contained.below⟩⟩
  intro relative classpath
  have relativeFile := (isAbsolute_classFile name).trans relative
  exact ⟨isAbsolute_join relativeFile, names_join relativeFile⟩

theorem seeks_of {instr : Instr} {name : String}
    (decodes : machine.frames.map (fun top => value? (Exec.decoded ⟨top, machine.shared⟩)) = [some instr])
    (names : machine.frames.map (fun top => instr.seeks? top.classFile.pool) = [some name])
    (user : Platform.isPlatform name = false)
    (unknown : machine.shared.classes.any (·.name == name) = false) : machine.Seeks name := by
  obtain ⟨top, running⟩ := List.length_eq_one_iff.1 (by simpa using congrArg List.length decodes)
  simp only [running, List.map_cons, List.map_nil, List.cons.injEq, and_true] at decodes names
  have read := eq_ok_of_value? decodes
  obtain ⟨code, _, same⟩ := Exec.decoded_frame read
  refine ⟨instr, _, ⟨top, [], running, read⟩, by rw [same]; exact names, user, ?_⟩
  simpa [findClass?] using unknown

def makerBytes (name other : String) : Array UInt8 :=
  (Layout.u4 ClassFile.magic ++ Layout.u2 0 ++ Layout.u2 52 ++
    Entry.encodePool [.utf8 name, .classRef 1, .utf8 other, .classRef 3, .utf8 mainName,
      .utf8 mainDescriptor, .utf8 "Code"] ++
    Layout.u2 0 ++ Layout.u2 2 ++ Layout.u2 0 ++ Layout.u2 0 ++
    Layout.counted Member.layout [] ++
    Layout.counted Member.layout
      [⟨mainFlags, 5, 6, mainName, mainDescriptor, [.code 7 1 1 #[187, 0, 4, 87, 177] [] []]⟩] ++
    Attribute.layoutAll []).toArray

/-- The entry point of the class has been entered, and the other class comes next, which is in a file. -/
def makerMachine (other file : String) : Machine :=
  after [.start 0 "Main"] (fresh "classes"
    (Disk.ofFiles [("classes/Main.class", makerBytes "Main" other), (file, makerBytes other "Main")])
    Sink.unbounded 0)

def nestedMachine : Machine := makerMachine "demo/Secret" "classes/demo/Secret.class"

theorem nested_class_file_read :
    nestedMachine.Seeks "demo/Secret" ∧ Below "classes" (ofClass "classes" "demo/Secret") ∧
      value? (step (nestedMachine.withDisk
        (Disk.empty.insert "classes/demo/Secret.class" (makerBytes "demo/Secret" "Main")))) = some () := by
  have facts :
      nestedMachine.frames.map (fun top => value? (Exec.decoded ⟨top, nestedMachine.shared⟩)) =
        [some (.new 4)] ∧
      nestedMachine.frames.map (fun top => Instr.seeks? top.classFile.pool (.new 4)) =
        [some "demo/Secret"] ∧
      nestedMachine.shared.classes.any (·.name == "demo/Secret") = false ∧
      nestedMachine.shared.classpath = "classes" ∧
      nestedMachine.shared.disk.read? "classes/demo/Secret.class" =
        some (makerBytes "demo/Secret" "Main") ∧
      value? (step nestedMachine) = some () := by
    decide +kernel
  obtain ⟨decodes, named, unknown, classpath, stored, succeeds⟩ := facts
  have path : ofClass "classes" "demo/Secret" = "classes/demo/Secret.class" := by decide +kernel
  have seeks := seeks_of decodes named (by decide) unknown
  obtain ⟨reads, sought⟩ := class_file_below_iff_contained nestedMachine
  obtain ⟨only, _, _, below⟩ := sought "demo/Secret" seeks
  refine ⟨seeks, below.2 (by decide +kernel) "classes", ?_⟩
  have together := reads
    (Disk.empty.insert "classes/demo/Secret.class" (makerBytes "demo/Secret" "Main")) ?_
  · exact together.value?_eq.symm.trans succeeds
  · intro name alsoSeeks
    rw [only name alsoSeeks, classpath, path, stored]
    rfl

/-- The other class is in a file next to the class path, and its name leads there. -/
def besideMachine : Machine := makerMachine "../Secret" "Secret.class"

/-- The other class is in a file below the class path, and its name starts with a slash. -/
def rootedMachine : Machine := makerMachine "/Secret" "classes/Secret.class"

/-- A class is read from a file next to the class path, and another, whose file is below the class path, is
not found because its name is taken for a path of its own. -/
theorem secret_read_outside :
    (besideMachine.Seeks "../Secret" ∧
      (final (step besideMachine)).shared.classes.map (·.name) = ["Main", "../Secret"] ∧
      ¬ Below "classes" (ofClass "classes" "../Secret")) ∧
    (rootedMachine.Seeks "/Secret" ∧
      fault? (step rootedMachine) = some (.classNotFound "/Secret" "/Secret.class") ∧
      ¬ Below "classes" (ofClass "classes" "/Secret")) := by
  have beside :
      besideMachine.frames.map (fun top => value? (Exec.decoded ⟨top, besideMachine.shared⟩)) =
        [some (.new 4)] ∧
      besideMachine.frames.map (fun top => Instr.seeks? top.classFile.pool (.new 4)) =
        [some "../Secret"] ∧
      besideMachine.shared.classes.any (·.name == "../Secret") = false ∧
      (final (step besideMachine)).shared.classes.map (·.name) = ["Main", "../Secret"] := by
    decide +kernel
  have rooted :
      rootedMachine.frames.map (fun top => value? (Exec.decoded ⟨top, rootedMachine.shared⟩)) =
        [some (.new 4)] ∧
      rootedMachine.frames.map (fun top => Instr.seeks? top.classFile.pool (.new 4)) =
        [some "/Secret"] ∧
      rootedMachine.shared.classes.any (·.name == "/Secret") = false ∧
      fault? (step rootedMachine) = some (.classNotFound "/Secret" "/Secret.class") := by
    decide +kernel
  have apart : ¬ lexical "classes" <+: lexical (ofClass "classes" "../Secret") ∧
      ¬ lexical "classes" <+: lexical (ofClass "classes" "/Secret") := by
    decide +kernel
  obtain ⟨decodes, named, unknown, found⟩ := beside
  refine ⟨⟨seeks_of decodes named (by decide) unknown, found, fun below => apart.1 below.starts⟩, ?_⟩
  obtain ⟨decodes, named, unknown, missing⟩ := rooted
  exact ⟨seeks_of decodes named (by decide) unknown, missing, fun below => apart.2 below.starts⟩

end Machine

end MiniJvm
