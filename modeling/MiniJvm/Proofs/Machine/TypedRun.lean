import Mathlib.Data.List.Nodup
import MiniJvm.Proofs.Machine.FailedStep
import MiniJvm.Proofs.Machine.Supply
import MiniJvm.Proofs.Machine.TypedStore

/-!
Typed runs. Where all classes agree on the fields that they share, whatever is written to a field is what its
class declares, so instances stay as their classes call for. Frames hold no references to static instances: what
they get from fields and from each other is free, and so is every new object.
-/

namespace MiniJvm

open Effect Activation

/-- In every class that is not built in, the fields have different names. A reference to a field of such a class
names one that it declares, and has its descriptor. -/
structure Coherent (available : ClassFile → Prop) : Prop where
  distinct : ∀ owner, available owner → Platform.isPlatform owner.name = false →
    (owner.fields.map Member.name).Nodup
  declared : ∀ user owner index field, available user → available owner →
    Platform.isPlatform owner.name = false → user.pool.fieldRef index = .ok field →
    field.className = owner.name →
      ∃ member ∈ owner.fields, member.name = field.name ∧ member.descriptor = field.descriptor

namespace Coherent

variable {available : ClassFile → Prop} {a : Activation} {index : UInt16} {field : MemberRef}
  {type : FieldType} {shared : Shared} {owner : ClassFile} {value : Value}

theorem resolved (coherent : Coherent available) (user : available a.frame.classFile)
    (classes : ∀ classFile ∈ shared.classes, available classFile)
    (resolves : Exec.Resolves a index field type)
    (ordinary : Platform.isPlatform field.className = false)
    (known : shared.findClass? field.className = some owner) :
    ∃ member ∈ owner.fields, member.name = field.name ∧ member.fieldType = .ok type := by
  obtain ⟨listed, named⟩ := Shared.findClass?_some known
  obtain ⟨member, inside, same, descriptor⟩ := coherent.declared a.frame.classFile owner index field user
    (classes owner listed) (named ▸ ordinary) resolves.named named.symm
  refine ⟨member, inside, same, ?_⟩
  unfold Member.fieldType
  rw [descriptor]
  exact resolves.typed

theorem declares (coherent : Coherent available) (user : available a.frame.classFile)
    (classes : ∀ classFile ∈ shared.classes, available classFile)
    (resolves : Exec.Resolves a index field type) (fits : value.conformsTo type = true)
    (ordinary : Platform.isPlatform field.className = false) (owner : ClassFile)
    (known : shared.findClass? field.className = some owner) : owner.Declares field.name value := by
  obtain ⟨member, inside, named, typed⟩ := coherent.resolved user classes resolves ordinary known
  exact ⟨member, inside, named, type, typed, fits⟩

theorem unique (coherent : Coherent available)
    (classes : ∀ classFile ∈ shared.classes, available classFile) {className : String}
    (ordinary : Platform.isPlatform className = false) (known : shared.findClass? className = some owner)
    {member other : Member} (inside : member ∈ owner.fields) (otherInside : other ∈ owner.fields)
    (named : member.name = other.name) : member = other := by
  obtain ⟨listed, rfl⟩ := Shared.findClass?_some known
  have distinct := coherent.distinct owner (classes owner listed) ordinary
  exact List.inj_on_of_nodup_map distinct inside otherInside named

end Coherent

namespace Frame

/-- All references of the frame are to objects that are no static instances. -/
def Avoids (frame : Frame) (shared : Shared) : Prop :=
  ∀ address tag, frame.Has address tag → shared.Free address

variable {frame old new : Frame} {before after : Shared}

theorem Avoids.expands (avoids : frame.Avoids before) (expands : before.Expands after) :
    frame.Avoids after :=
  fun address tag has => expands.free address (avoids address tag has)

theorem Avoids.draws {others : List Value} (avoids : old.Avoids before) (expands : before.Expands after)
    (draws : old.Draws others new)
    (free : ∀ address tag, .reference address tag ∈ others → after.Free address) : new.Avoids after := by
  intro address tag has
  rcases draws address tag has with held | drawn
  · exact avoids.expands expands address tag held
  · exact free address tag drawn

theorem has_of_entered {classFile : ClassFile} {methodIndex : Nat} {arguments : List Value}
    (entered : Frame.enter classFile methodIndex arguments = .ok frame) {address : Nat} {tag : String}
    (has : frame.Has address tag) : .reference address tag ∈ arguments := by
  unfold Frame.enter at entered
  split at entered
  · cases entered
  split at entered
  · cases entered
  dsimp only at entered
  split at entered
  · cases entered
  cases entered
  rcases has with onStack | inLocals
  · cases onStack
  · rcases List.mem_append.1 inLocals with given | unset
    · obtain ⟨argument, there, same⟩ := List.mem_map.1 given
      cases same
      exact there
    · cases (List.mem_replicate.1 unset).2

theorem avoids_of_entered {classFile : ClassFile} {methodIndex : Nat} {arguments : List Value}
    {shared : Shared} (entered : Frame.enter classFile methodIndex arguments = .ok frame)
    (free : ∀ address tag, .reference address tag ∈ arguments → shared.Free address) :
    frame.Avoids shared :=
  fun address tag has => free address tag (has_of_entered entered has)

end Frame

namespace Shared

variable {old middle new : Shared}

theorem Typed.free_read {shared : Shared} (typed : shared.Typed) {address : Nat} {name : String}
    {value : Value} (read : shared.heap.getField address name = .ok (some value)) :
    ∀ place tag, .reference place tag ∈ [value] → shared.Free place := by
  intro place tag member
  cases List.mem_singleton.1 member
  obtain ⟨className, fields, there, stored⟩ := Heap.getField_eq read
  exact (typed.objects address _ there).1 name place tag stored

theorem Same.typed (same : middle.Same new) (reached : middle.Typed ∧ old.Expands middle) :
    new.Typed ∧ old.Expands new := by
  obtain ⟨typed, expands⟩ := (same.deeds : Deeds false middle new).typed reached.1
  exact ⟨typed, reached.2.trans expands⟩

end Shared

theorem Instr.Touches.typed {instr : Instr} {old new : Shared} (touches : instr.Touches old new)
    (typed : old.Typed) : new.Typed ∧ old.Expands new := by
  cases instr with
  | getstatic index => exact Shared.Deeds.typed touches typed
  | putstatic index => exact Shared.Deeds.typed touches typed
  | new index => exact Shared.Deeds.typed touches typed
  | invokestatic index => exact Shared.Deeds.typed touches typed
  | invokevirtual index => exact Shared.Deeds.typed touches typed
  | invokespecial index => exact Shared.Deeds.typed touches typed
  | _ => exact Shared.Same.typed touches ⟨typed, Shared.expands_refl old⟩

/-- Instances are as their classes call for, and the frame holds no reference to a static one. -/
structure Activation.Typed (a : Activation) : Prop where
  shared : a.shared.Typed
  frame : a.frame.Avoids a.shared

namespace Activation

variable {a b : Activation}

theorem Typed.draws {others : List Value} (typed : a.Typed)
    (reached : b.shared.Typed ∧ a.shared.Expands b.shared) (draws : a.frame.Draws others b.frame)
    (free : ∀ address tag, .reference address tag ∈ others → b.shared.Free address) :
    b.Typed ∧ a.shared.Expands b.shared :=
  ⟨⟨reached.1, typed.frame.draws reached.2 draws free⟩, reached.2⟩

theorem Typed.rests (typed : a.Typed) (reached : b.shared.Typed ∧ a.shared.Expands b.shared)
    (draws : a.frame.Draws [] b.frame) : b.Typed ∧ a.shared.Expands b.shared :=
  typed.draws reached draws fun _ _ member => nomatch member

theorem Typed.consumes (typed : a.Typed) (reached : b.shared.Typed ∧ a.shared.Expands b.shared)
    (consumes : a.Consumes b) : b.Typed ∧ a.shared.Expands b.shared := by
  refine typed.rests reached fun address tag has => .inl ?_
  rcases has with onStack | inLocals
  · exact .inl (consumes.stack.subset onStack)
  · exact .inr (consumes.locals ▸ inLocals)

theorem Typed.makes (typed : a.Typed) {shared : Shared} {object : HeapObject} {tag : String}
    (reached : shared.Typed ∧ a.shared.Expands shared)
    (fits : Shared.Fits { shared with heap := shared.heap.push object } false object)
    (same : Shared.Same { shared with heap := shared.heap.push object } b.shared)
    (draws : a.frame.Draws [.reference shared.heap.size tag] b.frame) :
    b.Typed ∧ a.shared.Expands b.shared := by
  have pushed := reached.1.push fits
  have expands := reached.2.trans (Shared.expands_push shared object)
  have later := same.typed ⟨pushed, Shared.expands_refl _⟩
  refine typed.draws ⟨later.1, expands.trans later.2⟩ draws fun place kind member => ?_
  cases List.mem_singleton.1 member
  exact later.2.free _ (reached.1.free_push object)

end Activation

def Control.values : Control → List Value
  | .proceed => []
  | .leave value => value.toList
  | .call _ _ arguments => arguments

namespace Exec

open Shared

variable {available : ClassFile → Prop} {a b : Activation} {instr : Instr} {control : Control}

theorem Executes.gives (executes : Executes a instr control b) : a.frame.Gives control.values := by
  cases executes with
  | works _ yields _ =>
    cases control with
    | proceed => exact gives_none _
    | leave value => exact yields
    | call classFile methodIndex arguments => exact yields.elim
  | call _ _ _ given _ => exact given
  | _ => exact gives_none _

/-- The one object that a receiver of a field access can be is an instance of the class of the field. -/
theorem receiver_class {field : MemberRef} {address : Nat} (sound : a.Sound)
    (receiver : a.frame.Has address (FieldType.objectTag field.className)) (found : String)
    (fields : Fields) (there : a.shared.heap.objects[address]? = some (.instanceOf found fields)) :
    found = field.className := by
  have backed : a.shared.heap.Backs (.reference address (FieldType.objectTag field.className)) := by
    rcases receiver with onStack | inLocals
    · exact sound.frame.stack _ onStack
    · exact sound.frame.locals _ inLocals
  obtain ⟨object, stored, kind⟩ := backed
  rw [there] at stored
  cases stored
  exact FieldType.objectTag_inj kind

theorem static_class {shared : Shared} (typed : shared.Typed) {className : String} {address : Nat}
    (ready : shared.statics? className = some address) (found : String) (fields : Fields)
    (there : shared.heap.objects[address]? = some (.instanceOf found fields)) : found = className := by
  obtain ⟨others, stored⟩ := typed.statics _ _ (mem_of_lookup ready)
  rw [there] at stored
  cases stored
  rfl

theorem field_written {shared : Shared} {index : UInt16} {field : MemberRef} {type : FieldType}
    {address : Nat} {value : Value} (coherent : Coherent available) (user : available a.frame.classFile)
    (classes : ∀ classFile ∈ shared.classes, available classFile) (typed : a.Typed)
    (reached : shared.Typed ∧ a.shared.Expands shared) (resolves : Resolves a index field type)
    (receiver : ∀ found fields, shared.heap.objects[address]? = some (.instanceOf found fields) →
      found = field.className)
    (given : a.frame.Gives [value]) (fits : value.conformsTo type = true) :
    Shared.Typed { shared with heap := shared.heap.setField address field.name value } ∧
      a.shared.Expands { shared with heap := shared.heap.setField address field.name value } := by
  have free (place : Nat) (tag : String) (reference : value = .reference place tag) :
      shared.Free place :=
    reached.2.free place (typed.frame place tag (given place tag (by simp [reference])))
  exact ⟨reached.1.setField receiver free (coherent.declares user classes resolves fits),
    reached.2.trans (expands_modify _ _ _)⟩

theorem fits_plain {shared : Shared} {object : HeapObject}
    (plain : ∀ className fields, object ≠ .instanceOf className fields) : shared.Fits false object := by
  cases object with
  | instanceOf className fields => exact absurd rfl (plain className fields)
  | _ => trivial

/-- What an instruction does to a typed store leaves it typed, because what it writes to a field is declared for
the field. -/
theorem Executes.typed (executes : Executes a instr control b) (coherent : Coherent available)
    (user : available a.frame.classFile) (classes : ∀ classFile ∈ b.shared.classes, available classFile)
    (sound : a.Sound) (typed : a.Typed) : b.Typed ∧ a.shared.Expands b.shared := by
  have start : a.shared.Typed ∧ a.shared.Expands a.shared := ⟨typed.shared, expands_refl _⟩
  cases executes with
  | works frame _ same => exact typed.rests (same.typed start) frame
  | makes object plain frame same => exact typed.makes start (fits_plain plain) same frame
  | iastore inside frame same =>
    exact typed.rests (same.typed ⟨typed.shared.setInt _ _ _, expands_modify _ _ _⟩) frame
  | castore inside frame same =>
    exact typed.rests (same.typed ⟨typed.shared.setChar _ _ _, expands_modify _ _ _⟩) frame
  | getfield _ stored frame same =>
    have reached := same.typed start
    refine typed.draws reached frame fun place tag member => ?_
    exact reached.2.free place (typed.shared.free_read stored place tag member)
  | putfield resolves receiver given fits frame same =>
    obtain ⟨log, changed⟩ := same
    have known : ∀ classFile ∈ a.shared.classes, available classFile := by
      rw [changed] at classes
      exact classes
    have written := field_written coherent user known typed start resolves
      (receiver_class sound receiver) given fits
    exact typed.rests (Same.typed ⟨log, changed⟩ written) frame
  | getstatic _ deeds _ stored frame =>
    have reached := deeds.typed typed.shared
    exact typed.draws reached frame (reached.1.free_read stored)
  | @putstatic _ _ _ _ _ shared _ resolves deeds ready given fits frame stores =>
    have reached := deeds.typed typed.shared
    have known : ∀ classFile ∈ shared.classes, available classFile := by
      rw [stores] at classes
      exact classes
    have written := field_written coherent user known typed reached resolves
      (static_class reached.1 ready) given fits
    refine typed.rests ?_ frame
    rw [stores]
    exact written
  | pending _ deeds _ frame => exact typed.rests (deeds.typed typed.shared) frame
  | newPlatform platform frame same =>
    refine typed.makes start ?_ same frame
    exact fits_platform platform nofun
  | new _ deeds known made frame same =>
    exact typed.makes (deeds.typed typed.shared) (fits_defaults known made) same frame
  | call _ deeds _ _ frame => exact typed.rests (deeds.typed typed.shared) frame
  | prints _ _ _ frame same =>
    refine typed.rests ?_ frame
    rcases same with onOutput | onErrors
    · exact onOutput.typed (typed.shared.sameStore ⟨rfl, rfl⟩ (List.prefix_refl _))
    · exact onErrors.typed (typed.shared.sameStore ⟨rfl, rfl⟩ (List.prefix_refl _))

end Exec

namespace Machine

open Exec Shared

/-- Instances are as their classes call for, and no frame holds a reference to a static one. -/
structure Typed (machine : Machine) : Prop where
  shared : machine.shared.Typed
  frames : ∀ frame ∈ machine.frames, frame.Avoids machine.shared

variable {available : ClassFile → Prop} {classpath : String} {machine : Machine} {top : Frame}
  {below : List Frame} {shared : Shared}

theorem Typed.activation (typed : Typed ⟨top :: below, shared⟩) : Activation.Typed ⟨top, shared⟩ :=
  ⟨typed.shared, typed.frames top (List.mem_cons_self ..)⟩

theorem Typed.running (typed : Typed ⟨top :: below, shared⟩) {b : Activation}
    (reached : b.Typed ∧ shared.Expands b.shared) : Typed ⟨b.frame :: below, b.shared⟩ := by
  refine ⟨reached.1.shared, fun frame member => ?_⟩
  rcases List.mem_cons.1 member with rfl | other
  · exact reached.1.frame
  · exact (typed.frames frame (List.mem_cons_of_mem _ other)).expands reached.2

/-- The class of a frame is available, because it stays the one that the frame was entered in. -/
theorem carried_class (available : ClassFile → Prop) :
    Carried available fun frame => available frame.classFile where
  entered := by
    intro classFile methodIndex arguments frame offered entered
    rw [(Frame.begins_of_enter entered).1]
    exact offered
  changed := by
    intro delivers a b change offered
    rw [change.keeps.1.classFile]
    exact offered
  received := fun _ _ offered => offered

/-- What an instruction hands over is held by a frame, so the end of a step leaves no other references. -/
theorem typed_apply {control : Control} (typed : Typed ⟨top :: below, shared⟩)
    (free : ∀ address tag, .reference address tag ∈ control.values → shared.Free address) :
    (final (apply control ⟨top :: below, shared⟩)).Typed := by
  obtain ⟨sameTyped, expands⟩ :=
    (same_apply control top below shared).typed ⟨typed.shared, expands_refl shared⟩
  refine ⟨sameTyped, fun frame member => Frame.Avoids.expands ?_ expands⟩
  cases comes_apply member with
  | kept there => exact typed.frames frame there
  | entered entered => exact Frame.avoids_of_entered entered free
  | @received value caller there =>
    intro address tag has
    rcases has with onStack | inLocals
    · rcases List.mem_cons.1 onStack with same | other
      · exact free address tag (same ▸ List.mem_singleton_self _)
      · exact typed.frames caller there address tag (.inl other)
    · exact typed.frames caller there address tag (.inr inLocals)

theorem typed_step (coherent : Coherent available)
    (supplied : Supplied available classpath (fun frame => available frame.classFile) machine)
    (typed : machine.Typed) : (final (step machine)).Typed := by
  have carried := carried_class available
  have classes := (supplied_step carried supplied).classes
  have steps := stepsTo machine
  generalize step machine = result at steps classes ⊢
  obtain ⟨frames, shared⟩ := machine
  cases steps with
  | idle _ => exact typed
  | undecoded running unread same =>
    cases running
    have changes := changes_of_undecoded supplied.sound unread
    have reached := same.typed ⟨typed.shared, expands_refl shared⟩
    exact typed.running (typed.activation.consumes reached changes.consumes)
  | fails running read same failed touches =>
    cases running
    have changes := changes_of_failed supplied.sound read failed
    have reached := same.typed ⟨typed.shared, expands_refl shared⟩
    have touched := touches.typed reached.1
    exact typed.running (typed.activation.consumes ⟨touched.1, reached.2.trans touched.2⟩ changes.consumes)
  | @executes instr control top below a b running read same executed executes =>
    cases running
    have reading : Changes false ⟨top, shared⟩ a := conducts_decoded.changes supplied.sound.activation read
    obtain ⟨ready, early⟩ := typed.activation.consumes
      (same.typed ⟨typed.shared, expands_refl shared⟩) reading.consumes
    have user : available a.frame.classFile :=
      carried.changes reading (supplied.frames top (List.mem_cons_self ..))
    have known : ∀ classFile ∈ b.shared.classes, available classFile := by
      obtain ⟨log, ended⟩ := same_apply control b.frame below b.shared
      rw [ended] at classes
      exact classes
    obtain ⟨done, late⟩ := executes.typed coherent user known
      (reading.sound supplied.sound.activation) ready
    refine typed_apply (typed.running ⟨done, early.trans late⟩) fun address tag member => ?_
    exact late.free address (ready.frame address tag (executes.gives address tag member))

theorem make_frames {move : Move} (other : move ≠ .step) (machine : Machine) :
    ∀ frame ∈ (move.make machine).frames, frame ∈ machine.frames ∨
      ∃ classFile methodIndex, Frame.enter classFile methodIndex [] = .ok frame := by
  have sharedOnly {α : Type} (action : Shared.Action α) :
      ∀ frame ∈ (final (onShared action machine)).frames, frame ∈ machine.frames ∨
        ∃ classFile methodIndex, Frame.enter classFile methodIndex [] = .ok frame := by
    rw [final_onShared]
    exact fun _ => .inl
  cases move with
  | step => exact absurd rfl other
  | define bytes => exact sharedOnly _
  | load name => exact sharedOnly _
  | flush => exact sharedOnly _
  | files disk => exact fun _ => .inl
  | discardFrames =>
    intro frame member
    rw [show (Move.make .discardFrames machine).frames = [] from (discarded_frames machine).1] at member
    cases member
  | enterMain classFile =>
    dsimp only [Move.make]
    rw [enterMain_eq]
    cases entryPoint classFile with
    | error fault => exact fun _ => .inl
    | ok methodIndex =>
      dsimp only
      cases entered : Frame.enter classFile methodIndex [] with
      | error fault => exact fun _ => .inl
      | ok frame =>
        intro known member
        rcases List.mem_cons.1 member with rfl | old
        · exact .inr ⟨classFile, methodIndex, entered⟩
        · exact .inl old

theorem typed_make (move : Move) (coherent : Coherent available)
    (supplied : Supplied available classpath (fun frame => available frame.classFile) machine)
    (typed : machine.Typed) : (move.make machine).Typed := by
  by_cases steps : move = .step
  · subst steps
    exact typed_step coherent supplied typed
  · obtain ⟨kept, expands⟩ :=
      typed.shared.sameStore (make_sameStore steps machine).1 (calm_make steps machine).classes
    refine ⟨kept, fun frame member => ?_⟩
    rcases make_frames steps machine frame member with old | ⟨classFile, methodIndex, entered⟩
    · exact (typed.frames frame old).expands expands
    · exact Frame.avoids_of_entered entered fun _ _ member => nomatch member

theorem fresh_typed (classpath : String) (disk : Disk) (output : Sink) (logLimit : Nat) :
    (fresh classpath disk output logLimit).Typed where
  shared :=
    { statics := fun _ _ member => (List.not_mem_nil member).elim
      objects := fun address object found => by simp [fresh, Shared.fresh, Heap.empty] at found }
  frames := fun _ member => (List.not_mem_nil member).elim

/-- Where the available classes are coherent, every history leads to typed machines. -/
theorem typed_along {classpath : String} {disk : Disk} {output : Sink} {logLimit : Nat}
    {operations : List Operation} (coherent : Coherent (Available classpath disk operations)) :
    Supplied (Available classpath disk operations) classpath
        (fun frame => Available classpath disk operations frame.classFile)
        (after operations (fresh classpath disk output logLimit)) ∧
      (after operations (fresh classpath disk output logLimit)).Typed :=
  supplied_along (carried_class _) (fun move _ => typed_make move coherent)
    (fresh_typed classpath disk output logLimit)

end Machine

end MiniJvm
