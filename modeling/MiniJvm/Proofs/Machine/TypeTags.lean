import MiniJvm.ClassFile.Layout
import MiniJvm.Proofs.Machine.Operands
import MiniJvm.Proofs.Machine.ReferenceSafety

/-!
Checks of types at run time. They compare texts, and they decide what they stand for: a reference passes for a
type exactly if it has been made for that type. In a reachable machine the type is that of the object that
the reference points to.
-/

namespace MiniJvm

open Effect

namespace Exec

open Shared

variable {a : Activation} {stuck : Shared → Prop}

/-- A new instance of the class that an index names lies on top of the operands, under the tag of its class. -/
def MakesInstance (a : Activation) (index : UInt16) (b : Activation) : Prop :=
  ∃ className address fields, a.frame.classFile.pool.className index = .ok className ∧
    b.frame.stack = .reference address (FieldType.objectTag className) :: a.frame.stack ∧
    b.shared.heap.objects[address]? = some (.instanceOf className fields)

theorem ends_makeInstance (className : String) (fields : Fields) :
    Ends (makeInstance className fields) a (fun _ b => ∃ address,
      b.frame.stack = .reference address (FieldType.objectTag className) :: a.frame.stack ∧
      b.shared.heap.objects[address]? = some (.instanceOf className fields)) stuck := by
  refine ends_bind (ends_allocate _) ?_
  rintro address _ ⟨rfl, rfl⟩
  exact ⟨_, rfl, Heap.getElem?_push_size _ _⟩

theorem ends_new_makes (index : UInt16) :
    Ends (execute (.new index)) a (fun control b => control = .proceed ∧ MakesInstance a index b ∨
      ∃ classFile methodIndex, control = .call classFile methodIndex []) (Deeds true a.shared) := by
  refine ends_bind (ends_pooled .refl) ?_
  rintro className b ⟨named, rfl⟩
  refine ends_ite (fun _ => ?_) fun _ => ?_
  · refine ends_bind (ends_makeInstance className []) ?_
    rintro _ c ⟨address, stack, there⟩
    exact ends_pure (.inl ⟨rfl, className, address, [], named, stack, there⟩)
  · refine ends_bind (ends_prepare className) ?_
    rintro preparation c ⟨deeds, reached, code, prepared⟩
    cases preparation with
    | pending call =>
      obtain ⟨classFile, methodIndex, rfl, _⟩ := reached
      exact ends_pure (.inr ⟨classFile, methodIndex, rfl⟩)
    | ready _ =>
      refine ends_bind (ends_load true className fun _ same => deeds.same same) ?_
      rintro classFile d ⟨loads, _, _, sameFrame⟩
      refine ends_bind (ends_check (deeds.trans loads)) ?_
      rintro fields _ ⟨_, rfl⟩
      refine ends_bind (ends_makeInstance className fields) ?_
      rintro _ e ⟨address, stack, there⟩
      rw [sameFrame, prepared] at stack
      exact ends_pure (.inl ⟨rfl, className, address, fields, named, stack, there⟩)

end Exec

namespace Machine

open Exec

variable {machine made : Machine} {top : Frame} {below : List Frame} {index : UInt16} {a : Activation}

theorem step_new (running : machine.frames = top :: below) (about : machine.AboutTo (.new index) a)
    (ran : step machine = .ok () made) (level : made.frames.length = machine.frames.length) :
    ∃ className address fields frame, top.classFile.pool.className index = .ok className ∧
      made.frames = frame :: below ∧
      frame.stack = .reference address (FieldType.objectTag className) :: top.stack ∧
      made.shared.heap.objects[address]? = some (.instanceOf className fields) := by
  obtain ⟨frames, shared⟩ := machine
  cases running
  obtain ⟨_, _, same, read⟩ := about
  cases same
  obtain ⟨code, _, decoded⟩ := decoded_frame read
  obtain ⟨_, _, _, _, control, b, same, read', executed, applied⟩ := step_ok ran
  cases same
  cases read.symm.trans read'
  rcases (ends_new_makes index).done executed with ⟨rfl, makes⟩ | ⟨classFile, methodIndex, rfl⟩
  · obtain ⟨className, address, fields, named, stack, there⟩ := makes
    cases applied
    rw [decoded] at named stack
    exact ⟨className, address, fields, b.frame, named, rfl, stack, there⟩
  · -- A frame that has been entered makes the stack of frames longer.
    rw [apply_call] at applied
    split at applied
    next =>
      cases applied
      simp at level
    next => cases applied

/-- What a reference that the machine keeps fits is the type of the object that it points to. -/
theorem Sound.conforms (sound : machine.Sound) {address : Nat} {tag : String}
    (held : machine.Holds (.reference address tag)) :
    ∃ object, machine.shared.heap.objects[address]? = some object ∧
      ∀ type, (Value.reference address tag).conformsTo type = true ↔ type = object.type := by
  obtain ⟨object, there, kind⟩ := sound.backs held
  refine ⟨object, there, fun type => ?_⟩
  rw [Value.conformsTo_reference, ← kind, HeapObject.kind_eq_tag_iff, eq_comm]

/-- Types are equal if their tags are, however deep arrays nest and whatever classes are named by. So a check of a
reference at run time, be it of a value for a field or of a receiver for a class, passes exactly if the type
that the tag of the reference is from is the one asked for. The tag that is made from the name of a class,
for its instances or for the references that `new` pushes, is that of the object type of this name and of
no other type, and the tag of strings is that of the type of strings. A reference that a reachable machine
keeps fits the type of the object that it points to and no other type. -/
theorem tags_identify_types :
    (∀ left right : FieldType, left.tag = right.tag → left = right) ∧
    (∀ (address : Nat) (tag : String) (type : FieldType),
      (Value.reference address tag).conformsTo type = true ↔
        (Value.reference address tag).tag = type.tag) ∧
    (∀ (address : Nat) (source type : FieldType),
      (Value.reference address source.tag).conformsTo type = true ↔ source = type) ∧
    (∀ (a : Activation) (address : Nat) (source : FieldType) (className : String) (rest : List Value),
      (∃ b, popReference (FieldType.objectTag className)
          (a.withStack (.reference address source.tag :: rest)) = .ok address b) ↔
        source = .object className) ∧
    (∀ (className : String) (type : FieldType),
      FieldType.objectTag className = type.tag ↔ type = .object className) ∧
    (∀ (className : String) (fields : Fields) (type : FieldType),
      (HeapObject.instanceOf className fields).kind = type.tag ↔ type = .object className) ∧
    (∀ (machine made : Machine) (top : Frame) (below : List Frame) (index : UInt16) (a : Activation),
      machine.frames = top :: below → machine.AboutTo (.new index) a → step machine = .ok () made →
        made.frames.length = machine.frames.length →
          ∃ className address tag fields frame, top.classFile.pool.className index = .ok className ∧
            made.frames = frame :: below ∧ frame.stack = .reference address tag :: top.stack ∧
            made.shared.heap.objects[address]? = some (.instanceOf className fields) ∧
            ∀ type : FieldType, tag = type.tag ↔ type = .object className) ∧
    (∀ type : FieldType, type.tag = Value.stringTag ↔ type.isString = true) ∧
    ∀ (machine : Machine), machine.Reachable → ∀ address tag, machine.Holds (.reference address tag) →
      ∃ object, machine.shared.heap.objects[address]? = some object ∧
        ∀ type, (Value.reference address tag).conformsTo type = true ↔ type = object.type := by
  refine ⟨fun _ _ => FieldType.tag_inj.1, fun _ _ _ => Value.conformsTo_reference, ?_, ?_,
    fun _ _ => FieldType.objectTag_eq_tag, fun _ _ _ => FieldType.objectTag_eq_tag, ?_,
    fun _ => FieldType.tag_eq_stringTag, fun _ reachable _ _ => reachable.sound.conforms⟩
  · intro address source type
    rw [Value.conformsTo_reference, FieldType.tag_inj]
  · intro a address source className rest
    rw [← FieldType.objectTag_eq_tag]
    constructor
    · rintro ⟨b, popped⟩
      obtain ⟨left, shape, _⟩ := popReference_iff.1 popped
      exact (Value.reference.inj (List.cons.inj shape).1).2.symm
    · intro same
      exact ⟨_, popReference_iff.2 ⟨rest, by rw [same]; rfl, rfl⟩⟩
  · intro machine made top below index a running about ran level
    obtain ⟨className, address, fields, frame, named, frames, stack, there⟩ :=
      step_new running about ran level
    exact ⟨className, address, _, fields, frame, named, frames, stack, there,
      fun _ => FieldType.objectTag_eq_tag⟩

/-- A class that is named like the tag of the arrays of ints. Its entry point makes an instance of it and then
an array of ints. -/
def bracketBytes : Array UInt8 :=
  (Layout.u4 ClassFile.magic ++ Layout.u2 0 ++ Layout.u2 52 ++
    Entry.encodePool [.utf8 "[I", .classRef 1, .utf8 mainName, .utf8 mainDescriptor, .utf8 "Code"] ++
    Layout.u2 0 ++ Layout.u2 2 ++ Layout.u2 0 ++ Layout.u2 0 ++
    Layout.counted Member.layout [] ++
    Layout.counted Member.layout
      [⟨mainFlags, 3, 4, mainName, mainDescriptor,
        [.code 5 2 1 #[187, 0, 2, 6, 188, 10, 177] [] []]⟩] ++
    Attribute.layoutAll []).toArray

def bracketMachine : Machine :=
  after [.define bracketBytes, .start 0 "[I"] (fresh "" Disk.empty Sink.unbounded 0)

def bracketLast : Machine :=
  after [.step, .step, .step] bracketMachine

theorem bracket_class_told_apart :
    bracketLast.frames.map Frame.stack = [[.reference 2 "[I", .reference 1 "L[I"]] ∧
      (∀ type : FieldType, "L[I" = type.tag ↔ type = .object "[I") ∧
      (∀ type, (Value.reference 1 "L[I").conformsTo type = true ↔ type = .object "[I") ∧
      ∀ type, (Value.reference 2 "[I").conformsTo type = true ↔ type = .array .int := by
  have facts : bracketMachine.frames.length = 1 ∧
      bracketMachine.frames.map (fun top => value? (decoded ⟨top, bracketMachine.shared⟩)) =
        [some (.new 2)] ∧
      bracketMachine.frames.map (fun top => (top.classFile.pool.className 2).toOption) =
        [some "[I"] ∧
      value? (step bracketMachine) = some () ∧
      (final (step bracketMachine)).frames.map Frame.stack = [[.reference 1 "L[I"]] ∧
      bracketLast.frames.map Frame.stack = [[.reference 2 "[I", .reference 1 "L[I"]] ∧
      bracketLast.shared.heap.objects.map HeapObject.type =
        #[.object "[I", .object "[I", .array .int] := by
    decide +kernel
  obtain ⟨one, decodes, names, makes, stacked, stackedLast, typed⟩ := facts
  obtain ⟨_, _, _, _, _, _, news, _, held⟩ := tags_identify_types
  obtain ⟨top, running⟩ := List.length_eq_one_iff.1 one
  rw [running] at decodes names
  have about : bracketMachine.AboutTo (.new 2) _ :=
    ⟨top, [], running, eq_ok_of_value? (List.cons.inj decodes).1⟩
  have level : (final (step bracketMachine)).frames.length = bracketMachine.frames.length := by
    rw [one]
    simpa using congrArg List.length stacked
  obtain ⟨className, address, tag, fields, frame, named, frames, stack, _, identified⟩ :=
    news bracketMachine _ top [] 2 _ running about (eq_ok_of_value? makes) level
  have sameClass : className = "[I" := by simpa [named, Except.toOption] using names
  have sameTag : tag = "L[I" := by
    rw [frames, List.map_cons, stack] at stacked
    exact (Value.reference.inj (List.cons.inj (List.cons.inj stacked).1).1).2
  have reachable : bracketLast.Reachable :=
    ⟨_, _, _, _, _, (after_append [.define bracketBytes, .start 0 "[I"] [.step, .step, .step] _).symm⟩
  obtain ⟨last, runningLast, stackLast⟩ := List.mem_map.1 (stackedLast ▸ List.mem_singleton_self _)
  have fits (address : Nat) (tag : String) (type : FieldType)
      (onStack : .reference address tag ∈ last.stack)
      (there : (bracketLast.shared.heap.objects.map HeapObject.type)[address]? = some type) :
      ∀ other, (Value.reference address tag).conformsTo other = true ↔ other = type := by
    obtain ⟨object, found, conforms⟩ :=
      held bracketLast reachable address tag (.inl ⟨last, runningLast, .inl onStack⟩)
    rw [Array.getElem?_map, found] at there
    cases there
    exact conforms
  subst sameClass sameTag
  refine ⟨stackedLast, identified, fits 1 _ _ ?_ ?_, fits 2 _ _ ?_ ?_⟩
  · simp [stackLast]
  · simp [typed]
  · simp [stackLast]
  · simp [typed]

end Machine

end MiniJvm
