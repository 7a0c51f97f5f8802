import MiniJvm.Proofs.Machine.Outcome

/-!
What preparation does to the shared state, deed by deed. A class is read from disk, or a static instance is
made and registered: with no fields for a built-in class, with the two standard streams for the system
class, and with the defaults of the static fields for every other class, which is known by then.

Computations are followed with two conditions: one for the result and the activation that success leads to,
and one for the shared state that a failure leaves.
-/

namespace MiniJvm

open Effect Relation

namespace Shared

/-- Nothing but the log may differ. -/
def Same (old new : Shared) : Prop :=
  ∃ log, new = { old with log }

theorem same_refl (shared : Shared) : shared.Same shared :=
  ⟨shared.log, rfl⟩

theorem same_reported (shared : Shared) (event : Event) : shared.Same (shared.reported event) :=
  ⟨_, rfl⟩

/-- The static instance of a class is made and registered. -/
def registering (shared : Shared) (name : String) (fields : Fields) : Shared :=
  { shared with
    heap := shared.heap.push (.instanceOf name fields)
    statics := shared.statics ++ [(name, shared.heap.size)] }

/-- The two standard streams are made. -/
def streaming (shared : Shared) : Shared :=
  { shared with heap := (shared.heap.push (Platform.stream 1)).push (Platform.stream 2) }

/-- The fields of the system class, whose streams are the last two objects of the heap. -/
def streamFields (heap : Heap) : Fields :=
  [("out", .reference heap.size (FieldType.objectTag Platform.printStreamClass)),
    ("err", .reference (heap.size + 1) (FieldType.objectTag Platform.printStreamClass))]

/-- One deed of preparation. Those that register a static instance need `registers`. -/
inductive Deed : (registers : Bool) → Shared → Shared → Prop
  | report {registers} {old : Shared} (log : Log) : Deed registers old { old with log }
  | load {registers} {old : Shared} {name : String} {found : ClassFile}
      (absent : old.findClass? name = none)
      (read : classOnDisk old.classpath old.disk name = .ok found) :
      Deed registers old { old with classes := old.classes ++ [found] }
  | platform {old : Shared} {name : String} (platform : Platform.isPlatform name = true)
      (absent : old.statics? name = none) : Deed true old (old.registering name [])
  | system {old : Shared} (absent : old.statics? Platform.systemClass = none) :
      Deed true old (old.streaming.registering Platform.systemClass (streamFields old.heap))
  | user {old : Shared} {name : String} {classFile : ClassFile} {fields : Fields}
      (user : Platform.isPlatform name = false) (absent : old.statics? name = none)
      (known : old.findClass? name = some classFile)
      (made : Exec.defaultFields true classFile.fields = .ok fields) :
      Deed true old (old.registering name fields)

abbrev Deeds (registers : Bool) : Shared → Shared → Prop :=
  ReflTransGen (Deed registers)

theorem Same.deeds {registers : Bool} {old new : Shared} (same : old.Same new) :
    Deeds registers old new := by
  obtain ⟨log, rfl⟩ := same
  exact .single (.report log)

theorem Deeds.same {registers : Bool} {first second third : Shared}
    (deeds : Deeds registers first second) (same : second.Same third) :
    Deeds registers first third :=
  deeds.trans same.deeds

theorem statics?_registering {shared : Shared} {name : String}
    (absent : shared.statics? name = none) (fields : Fields) :
    (shared.registering name fields).statics? name = some shared.heap.size := by
  unfold statics? at absent ⊢
  unfold registering
  rw [List.lookup_append, absent]
  simp

/-- Finding a class reads it at most, and it is known from then on. -/
theorem deeds_load (registers : Bool) (name : String) (shared : Shared) :
    match load name shared with
    | .ok found later => Deeds registers shared later ∧ later.findClass? name = some found ∧
        later.statics = shared.statics
    | .error _ later => shared.Same later := by
  cases loaded : load name shared with
  | ok found later =>
    obtain ⟨_, known, same⟩ := load_ok loaded
    refine ⟨?_, known, same.statics⟩
    unfold load at loaded
    cases absent : shared.findClass? name with
    | some stored =>
      rw [absent] at loaded
      cases loaded
      exact .refl
    | none =>
      rw [absent] at loaded
      dsimp only at loaded
      cases read : classOnDisk shared.classpath shared.disk name with
      | error fault =>
        rw [read] at loaded
        cases loaded
      | ok onDisk =>
        rw [read] at loaded
        cases loaded
        exact .head (.load absent read) (.single (.report _))
  | error fault later =>
    show shared.Same later
    unfold load at loaded
    split at loaded
    · cases loaded
    · dsimp only at loaded
      split at loaded
      · cases loaded
      · cases loaded
        exact ⟨_, rfl⟩

end Shared

namespace Activation

/-- The same activation on another operand stack. -/
def withStack (a : Activation) (stack : List Value) : Activation :=
  { a with frame := { a.frame with stack } }

def withShared (a : Activation) (shared : Shared) : Activation :=
  { a with shared }

end Activation

namespace Exec

open Shared

variable {α β : Type} {a : Activation} {exec : Exec α} {post : α → Activation → Prop}
  {stuck : Shared → Prop}

/-- A result that meets `post`, or a failure that leaves a shared state as `stuck` says. -/
def Ends (exec : Exec α) (a : Activation) (post : α → Activation → Prop) (stuck : Shared → Prop) :
    Prop :=
  match exec a with
  | .ok value b => post value b
  | .error _ b => stuck b.shared

theorem Ends.done (ends : Ends exec a post stuck) {value : α} {b : Activation}
    (ran : exec a = .ok value b) : post value b := by
  unfold Ends at ends
  rw [ran] at ends
  exact ends

theorem Ends.failed (ends : Ends exec a post stuck) {fault : Fault} {b : Activation}
    (ran : exec a = .error fault b) : stuck b.shared := by
  unfold Ends at ends
  rw [ran] at ends
  exact ends

theorem ends_intro (done : ∀ value b, exec a = .ok value b → post value b)
    (failed : ∀ fault b, exec a = .error fault b → stuck b.shared) : Ends exec a post stuck := by
  unfold Ends
  cases ran : exec a with
  | ok value b => exact done value b ran
  | error fault b => exact failed fault b ran

theorem ends_pure {value : α} (holds : post value a) : Ends (pure value) a post stuck :=
  holds

theorem ends_throw {fault : Fault} (holds : stuck a.shared) :
    Ends (throw fault : Exec α) a post stuck :=
  holds

theorem ends_throw_bind {fault : Fault} {next : α → Exec β} {last : β → Activation → Prop}
    (holds : stuck a.shared) : Ends (throw fault >>= next) a last stuck :=
  holds

theorem ends_bind {next : α → Exec β} {last : β → Activation → Prop}
    (first : Ends exec a post stuck)
    (rest : ∀ value b, post value b → Ends (next value) b last stuck) :
    Ends (exec >>= next) a last stuck := by
  cases ran : exec a with
  | ok value b =>
    unfold Ends
    rw [bind_of_ok ran]
    exact rest value b (first.done ran)
  | error fault b =>
    unfold Ends
    rw [bind_of_error ran]
    exact first.failed ran

theorem ends_ite {c : Prop} [Decidable c] {yes no : Exec α} (holds : c → Ends yes a post stuck)
    (fails : ¬ c → Ends no a post stuck) : Ends (if c then yes else no) a post stuck := by
  by_cases h : c
  · rw [if_pos h]
    exact holds h
  · rw [if_neg h]
    exact fails h

theorem Ends.imp {weaker : α → Activation → Prop} (ends : Ends exec a post stuck)
    (implies : ∀ value b, post value b → weaker value b) : Ends exec a weaker stuck :=
  ends_intro (fun value b ran => implies value b (ends.done ran)) fun _ _ ran => ends.failed ran

theorem ends_map {last : β → Activation → Prop} (f : α → β)
    (ends : Ends exec a (fun value b => last (f value) b) stuck) : Ends (f <$> exec) a last stuck := by
  rw [map_eq_pure_bind]
  exact ends_bind ends fun _ _ holds => ends_pure holds

theorem ends_andProceed {action : Exec Unit} {last : Control → Activation → Prop}
    (ends : Ends action a (fun _ b => last .proceed b) stuck) :
    Ends (andProceed action) a last stuck :=
  ends_bind ends fun _ _ holds => ends_pure holds

/-! ### The running frame -/

theorem ends_frame {action : Frame.Action α} (fails : stuck a.shared)
    (done : ∀ value frame, action a.frame = .ok value frame → post value { a with frame }) :
    Ends (onFrame action) a post stuck := by
  unfold Ends onFrame
  cases ran : action a.frame with
  | ok value frame => exact done value frame ran
  | error fault frame => exact fails

theorem ends_check {result : Except Fault α} (fails : stuck a.shared) :
    Ends (check result) a (fun value b => result = .ok value ∧ b = a) stuck := by
  cases result with
  | ok value => exact ⟨rfl, rfl⟩
  | error fault => exact fails

theorem ends_pooled {find : Pool → Except Fault α} (fails : stuck a.shared) :
    Ends (pooled find) a (fun value b => find a.frame.classFile.pool = .ok value ∧ b = a) stuck :=
  ends_check fails

theorem ends_pop (fails : stuck a.shared) :
    Ends (onFrame Frame.pop) a
      (fun value b => ∃ stack, a.frame.stack = value :: stack ∧ b = a.withStack stack) stuck := by
  refine ends_frame fails fun value frame popped => ?_
  unfold Frame.pop at popped
  split at popped
  next stack shape =>
    cases popped
    exact ⟨stack, shape, rfl⟩
  next => cases popped

theorem ends_popInt (fails : stuck a.shared) :
    Ends popInt a (fun int b => ∃ value stack, value.toInt? = some int ∧
      a.frame.stack = value :: stack ∧ b = a.withStack stack) stuck := by
  unfold popInt Frame.popInt
  rw [onFrame_bind]
  refine ends_bind (ends_pop fails) ?_
  rintro value _ ⟨stack, shape, rfl⟩
  cases shown : value.toInt? with
  | some int => exact ends_pure ⟨value, stack, shown, shape, rfl⟩
  | none => exact ends_throw fails

theorem ends_popReference (tag : String) (fails : stuck a.shared) :
    Ends (popReference tag) a (fun address b => ∃ stack,
      a.frame.stack = .reference address tag :: stack ∧ b = a.withStack stack) stuck := by
  unfold popReference Frame.popReference
  rw [onFrame_bind]
  refine ends_bind (ends_pop fails) ?_
  rintro value _ ⟨stack, shape, rfl⟩
  cases value with
  | reference address found =>
    by_cases same : found = tag
    · subst same
      simp only [if_true]
      exact ends_pure ⟨stack, shape, rfl⟩
    · simp only [if_neg same]
      exact ends_throw fails
  | _ => exact ends_throw fails

theorem ends_popAny (fails : stuck a.shared) :
    Ends popAny a (fun popped b => ∃ stack,
      a.frame.stack = .reference popped.1 popped.2 :: stack ∧ b = a.withStack stack) stuck := by
  unfold popAny Frame.popAny
  rw [onFrame_bind]
  refine ends_bind (ends_pop fails) ?_
  rintro value _ ⟨stack, shape, rfl⟩
  cases value with
  | reference address tag => exact ends_pure ⟨stack, shape, rfl⟩
  | _ => exact ends_throw fails

theorem ends_getLocal (index : Nat) (fails : stuck a.shared) :
    Ends (onFrame (Frame.getLocal index)) a
      (fun value b => a.frame.locals[index]? = some (some value) ∧ b = a) stuck := by
  refine ends_frame fails fun value frame found => ?_
  unfold Frame.getLocal at found
  split at found
  next there =>
    cases found
    exact ⟨there, rfl⟩
  next => cases found
  next => cases found

theorem ends_setLocal (index : Nat) (value : Value) (fails : stuck a.shared) :
    Ends (onFrame (Frame.setLocal index value)) a
      (fun _ b => b = { a with
        frame := { a.frame with locals := a.frame.locals.set index (some value) } }) stuck := by
  refine ends_frame fails fun _ frame stored => ?_
  unfold Frame.setLocal at stored
  split at stored
  · cases stored
    rfl
  · cases stored

theorem ends_jump (offset : Int) (fails : stuck a.shared) :
    Ends (onFrame (Frame.jump offset)) a
      (fun _ b => ∃ code, b = { a with frame := { a.frame with code } }) stuck := by
  unfold Ends
  rw [jump_eq]
  cases Cursor.jumpTo (a.frame.code.position + offset) a.frame.code with
  | ok position code => exact ⟨code, rfl⟩
  | error fault code => exact fails

theorem ends_restart (fails : stuck a.shared) :
    Ends (onFrame Frame.restart) a
      (fun _ b => ∃ code, b = { a with frame := { a.frame with code } }) stuck := by
  refine ends_frame fails fun _ frame restarted => ?_
  have same : Frame.restart a.frame = EStateM.map (fun _ => ())
      (Frame.reading (Cursor.jumpTo a.frame.start)) a.frame := rfl
  rw [same] at restarted
  obtain ⟨position, jumped, _⟩ := map_ok.1 restarted
  obtain ⟨code, _, rfl⟩ := Frame.reads_reading (steers_jumpTo a.frame.start) jumped
  exact ⟨code, rfl⟩

/-! ### The shared state -/

theorem ends_shared {action : Shared.Action α}
    (done : ∀ value shared, action a.shared = .ok value shared → post value (a.withShared shared))
    (failed : ∀ fault shared, action a.shared = .error fault shared → stuck shared) :
    Ends (onShared action) a post stuck := by
  unfold Ends onShared
  cases ran : action a.shared with
  | ok value shared => exact done value shared ran
  | error fault shared => exact failed fault shared ran

theorem ends_asking {question : Heap → Except Fault α} (fails : stuck a.shared) :
    Ends (onShared (Shared.asking question)) a
      (fun answer b => question a.shared.heap = .ok answer ∧ b = a) stuck := by
  unfold Ends onShared Shared.asking
  cases asked : question a.shared.heap with
  | ok answer => exact ⟨rfl, rfl⟩
  | error fault => exact fails

theorem ends_report (event : Event) :
    Ends (onShared (Shared.report event)) a
      (fun _ b => b = a.withShared (a.shared.reported event)) stuck :=
  rfl

theorem ends_allocate (object : HeapObject) :
    Ends (onShared (Shared.allocate object)) a
      (fun address b => address = a.shared.heap.size ∧
        b = a.withShared { a.shared with heap := a.shared.heap.push object }) stuck :=
  ⟨rfl, rfl⟩

theorem ends_load (registers : Bool) (name : String)
    (fails : ∀ shared, a.shared.Same shared → stuck shared) :
    Ends (onShared (Shared.load name)) a
      (fun found b => Deeds registers a.shared b.shared ∧ b.shared.findClass? name = some found ∧
        b.shared.statics = a.shared.statics ∧ b.frame = a.frame) stuck := by
  have spec := deeds_load registers name a.shared
  refine ends_shared (fun found shared loaded => ?_) fun fault shared loaded => ?_
  · rw [loaded] at spec
    exact ⟨spec.1, spec.2.1, spec.2.2, rfl⟩
  · rw [loaded] at spec
    exact fails shared spec

/-! ### Preparation -/

/-- How far a class has been prepared: it is ready at an address, or its initializer is to be called. -/
def Reached (className : String) (shared : Shared) : Preparation → Prop
  | .ready address => shared.statics? className = some address
  | .pending call => ∃ classFile methodIndex, call = .call classFile methodIndex [] ∧
      shared.findClass? className = some classFile

theorem ends_platformStatics (className : String) :
    Ends (onShared (Platform.statics className)) a (fun fields b => b.frame = a.frame ∧
      (className = Platform.systemClass ∧ fields = streamFields a.shared.heap ∧
        b.shared = a.shared.streaming ∨ fields = [] ∧ b.shared = a.shared)) stuck := by
  unfold Platform.statics
  by_cases system : className = Platform.systemClass
  · rw [if_pos system]
    refine ⟨rfl, .inl ⟨system, ?_, rfl⟩⟩
    simp [streamFields, Heap.size, Heap.push]
  · rw [if_neg system]
    exact ⟨rfl, .inr ⟨rfl, rfl⟩⟩

theorem ends_makeStatics (className : String) (fields : Fields) :
    Ends (makeStatics className fields) a (fun address b => address = a.shared.heap.size ∧
      b = a.withShared (a.shared.registering className fields)) stuck :=
  ⟨rfl, rfl⟩

theorem ends_prepareFirst {className : String} (absent : a.shared.statics? className = none) :
    Ends (prepareFirst className) a (fun preparation b => Deeds true a.shared b.shared ∧
      Reached className b.shared preparation ∧
      ∃ code, b.frame = { a.frame with code }) (Deeds true a.shared) := by
  refine ends_ite (fun platform => ?_) fun user => ?_
  · refine ends_bind (ends_platformStatics className) ?_
    rintro fields b ⟨sameFrame, made⟩
    refine ends_bind (ends_makeStatics className fields) ?_
    rintro address _ ⟨rfl, rfl⟩
    have stillAbsent : b.shared.statics? className = none := by
      rcases made with ⟨_, _, same⟩ | ⟨_, same⟩
      · rw [same]
        exact absent
      · rw [same]
        exact absent
    refine ends_pure ⟨?_, statics?_registering stillAbsent fields, a.frame.code, sameFrame⟩
    rcases made with ⟨rfl, rfl, same⟩ | ⟨rfl, same⟩
    · show Deeds true a.shared (b.shared.registering _ _)
      rw [same]
      exact .single (.system absent)
    · show Deeds true a.shared (b.shared.registering _ _)
      rw [same]
      exact .single (.platform platform absent)
  · refine ends_bind (ends_load true className fun _ same => same.deeds) ?_
    rintro classFile b ⟨loads, known, statics, sameFrame⟩
    refine ends_bind (ends_check loads) ?_
    rintro fields c ⟨made, rfl⟩
    have stillAbsent : c.shared.statics? className = none := by
      unfold Shared.statics?
      rw [statics]
      exact absent
    have registers : Deeds true a.shared (c.shared.registering className fields) :=
      loads.tail (.user (by simpa using user) stillAbsent known made)
    refine ends_bind (ends_makeStatics className fields) ?_
    rintro address _ ⟨rfl, rfl⟩
    refine ends_bind (ends_report _) ?_
    rintro _ _ rfl
    have done := Deeds.same registers (same_reported _ (.classReady className))
    cases classFile.findMethod? initializerName initializerDescriptor with
    | none => exact ends_pure ⟨done, statics?_registering stillAbsent fields, a.frame.code, sameFrame⟩
    | some methodIndex =>
      refine ends_bind (ends_restart done) ?_
      rintro _ _ ⟨code, rfl⟩
      refine ends_pure ⟨done, ⟨classFile, methodIndex, rfl, known⟩, code, ?_⟩
      rw [← sameFrame]
      rfl

theorem ends_prepare (className : String) :
    Ends (prepare className) a (fun preparation b => Deeds true a.shared b.shared ∧
      Reached className b.shared preparation ∧
      ∃ code, b.frame = { a.frame with code }) (Deeds true a.shared) := by
  unfold Ends prepare
  cases known : a.shared.statics? className with
  | some address => exact ⟨.refl, known, a.frame.code, rfl⟩
  | none => exact ends_prepareFirst known

end Exec

end MiniJvm
