import MiniJvm.Proofs.Machine.Conduct.Frame

/-!
The elementary actions on the shared state, run on sound references.
-/

namespace MiniJvm

open Effect

namespace Exec

open Activation

variable {α β : Type} {delivers : Bool} {a : Activation}

theorem onShared_bind (first : Shared.Action α) (next : α → Shared.Action β) :
    onShared (first >>= next) = onShared first >>= fun value => onShared (next value) := by
  funext a
  show onShared (EStateM.bind first next) a =
    EStateM.bind (onShared first) (fun value => onShared (next value)) a
  simp only [onShared, EStateM.bind]
  cases first a.shared with
  | ok value shared => rfl
  | error fault shared => rfl

theorem conducts_report (event : Event) :
    Conducts delivers (onShared (Shared.report event)) a fun _ _ => True :=
  fun _ => ⟨.single (.report _), trivial⟩

theorem conducts_asking {question : Heap → Except Fault α}
    (only : ErrsOnly Fault.Grounded (question a.shared.heap)) :
    Conducts delivers (onShared (Shared.asking question)) a fun answer b =>
      question a.shared.heap = .ok answer ∧ b = a := by
  intro _
  unfold onShared Shared.asking
  cases asked : question a.shared.heap with
  | ok answer => exact ⟨.refl, rfl, rfl⟩
  | error fault => exact ⟨.refl, only asked⟩

theorem conducts_allocate {object : HeapObject} (backed : a.shared.heap.FieldsBacked object) :
    Conducts delivers (onShared (Shared.allocate object)) a fun address b =>
      b.shared.heap.objects[address]? = some object ∧ b.shared.statics = a.shared.statics :=
  fun _ => ⟨.single (.allocate object backed), Heap.getElem?_push_size _ object, rfl⟩

theorem conducts_register {name : String} {address : Nat}
    (absent : a.shared.statics? name = none) (holds : a.shared.heap.HoldsInstance address name) :
    Conducts delivers (onShared (Shared.register name address)) a fun _ b =>
      b.shared.heap = a.shared.heap :=
  fun _ => ⟨.single (.register name address absent holds), rfl⟩

theorem classOnDisk_name {classpath name : String} {disk : Disk} {found : ClassFile}
    (read : Shared.classOnDisk classpath disk name = .ok found) : found.name = name := by
  unfold Shared.classOnDisk at read
  dsimp only at read
  split at read
  · cases read
  · split at read
    · cases read
    · split at read
      · rename_i same
        cases read
        exact same
      · cases read

theorem errsOnly_classOnDisk (classpath name : String) (disk : Disk) :
    ErrsOnly Fault.Ordinary (Shared.classOnDisk classpath disk name) := by
  unfold Shared.classOnDisk
  dsimp only
  split
  · exact errsOnly_error trivial
  · split
    · rename_i fault refused
      exact errsOnly_error (ClassFile.errsOnly_parse _ refused).ordinary
    · exact errsOnly_ite (errsOnly_ok _) (errsOnly_error trivial)

/-- Finding a class changes at most the table of classes and the log. -/
theorem conducts_load (name : String) :
    Conducts delivers (onShared (Shared.load name)) a fun _ b =>
      b.shared.statics = a.shared.statics ∧ b.shared.heap = a.shared.heap := by
  intro _
  unfold onShared Shared.load
  cases known : a.shared.findClass? name with
  | some found => exact ⟨.refl, rfl, rfl⟩
  | none =>
    dsimp only
    cases read : Shared.classOnDisk a.shared.classpath a.shared.disk name with
    | error fault => exact ⟨.single (.report _), (errsOnly_classOnDisk _ _ _ read).grounded⟩
    | ok found =>
      rw [← classOnDisk_name read] at known
      exact ⟨.head (.addClass found known) (.single (.report _)), rfl, rfl⟩

theorem conducts_setInt (address : Nat) (index value : Int32)
    (only : ErrsOnly Fault.Grounded (a.shared.heap.intSlot address index)) :
    Conducts true (onShared (Shared.setInt address index value)) a fun _ _ => True := by
  unfold Shared.setInt
  rw [onShared_bind]
  refine conducts_bind (conducts_asking only) ?_
  rintro slot b _ ⟨_, rfl⟩
  exact fun _ => ⟨.single (.setInt address slot value), trivial⟩

theorem conducts_setChar (address : Nat) (index : Int32) (unit : UInt16)
    (only : ErrsOnly Fault.Grounded (a.shared.heap.charSlot address index)) :
    Conducts true (onShared (Shared.setChar address index unit)) a fun _ _ => True := by
  unfold Shared.setChar
  rw [onShared_bind]
  refine conducts_bind (conducts_asking only) ?_
  rintro slot b _ ⟨_, rfl⟩
  exact fun _ => ⟨.single (.setChar address slot unit), trivial⟩

theorem conducts_setField (address : Nat) (name : String) {value : Value}
    (backed : a.shared.heap.Backs value)
    (only : ErrsOnly Fault.Grounded (a.shared.heap.fields address)) :
    Conducts true (onShared (Shared.setField address name value)) a fun _ _ => True := by
  unfold Shared.setField
  rw [onShared_bind]
  refine conducts_bind (conducts_asking only) ?_
  rintro fields b _ ⟨_, rfl⟩
  exact fun _ => ⟨.single (.setField address name value backed), trivial⟩

theorem conducts_write (text : String) :
    Conducts true (onShared (Shared.write text)) a fun _ _ => True := by
  intro _
  unfold onShared Shared.write
  by_cases room : a.shared.output.hasRoom text
  · simp only [if_pos room]
    exact ⟨.single (.print text), trivial⟩
  · simp only [if_neg room]
    exact ⟨.refl, id⟩

theorem conducts_writeError (text : String) :
    Conducts true (onShared (Shared.writeError text)) a fun _ _ => True :=
  fun _ => ⟨.single (.printError text), trivial⟩

end Exec

end MiniJvm
