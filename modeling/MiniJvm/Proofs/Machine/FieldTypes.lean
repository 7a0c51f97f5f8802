import MiniJvm.Proofs.Machine.FieldTypes.Elsewhere

/-!
The types of fields. An instruction that reads a field can complain of the field in one place only, when it has
found the instance. In a typed store the value that is there is declared for the field, and the references to the
field agree with the declaration, so the value fits. A field that has a default always has a value.
-/

namespace MiniJvm

open Effect Activation

namespace Shared

/-- A field that may have no value: its class is known and declares it, but without a default, or for the other
kind of instances. -/
def Unset (shared : Shared) (static : Bool) (field : MemberRef) : Prop :=
  ∃ owner member type, shared.findClass? field.className = some owner ∧ member ∈ owner.fields ∧
    member.name = field.name ∧ member.fieldType = .ok type ∧
      (member.isStatic = static → Value.default? type = none)

theorem Deeds.lookup {registers : Bool} {old new : Shared} (deeds : Deeds registers old new)
    {name : String} {owner found : ClassFile} (looked : old.lookup name = .ok owner)
    (known : new.findClass? name = some found) : found = owner := by
  unfold Shared.lookup at looked
  cases before : old.findClass? name with
  | some first =>
    rw [before] at looked
    cases looked
    have still := findClass?_of_grown deeds.grows.classes before
    exact Option.some.inj (known.symm.trans still)
  | none =>
    rw [before] at looked
    obtain ⟨listed, named⟩ := findClass?_some known
    rcases deeds.fetches.classes found listed with there | ⟨other, read⟩
    · have absent := List.find?_eq_none.1 before found there
      simp [named] at absent
    · have same : name = other := named.symm.trans (Exec.classOnDisk_name read)
      rw [← same] at read
      exact Except.ok.inj (read.symm.trans looked)

end Shared

namespace Exec

open Shared

variable {available : ClassFile → Prop} {a b c : Activation} {index : UInt16} {field : MemberRef}
  {type : FieldType} {fault : Fault} {address : Nat}

/-- In a typed store, a read of a field fails for want of a value only. -/
theorem fetchField_unset (coherent : Coherent available) (user : available a.frame.classFile)
    (classes : ∀ classFile ∈ c.shared.classes, available classFile) (typed : c.shared.Typed)
    (resolves : Resolves a index field type) (ordinary : Platform.isPlatform field.className = false)
    (holds : c.shared.heap.HoldsInstance address field.className)
    (failed : fetchField field type address c = .error fault b) :
    fault = .fieldNotFound field.className field.name ∧
      c.shared.Unset (c.shared.isStatic address) field := by
  obtain ⟨fields, there⟩ := holds
  obtain ⟨owner, known, types, fills⟩ := (typed.objects address _ there).2 ordinary
  obtain ⟨member, inside, named, declared⟩ := coherent.resolved user classes resolves ordinary known
  rcases fetchField_failed there failed with ⟨missing, cause⟩ | ⟨value, stored, unfit⟩
  · have notFound : missingField field = .fieldNotFound field.className field.name := by
      simp [missingField, ordinary]
    refine ⟨cause.trans notFound, owner, member, type, known, inside, named, declared, fun kind => ?_⟩
    by_contra default
    exact fills member inside kind type declared default (named ▸ missing)
  · -- The value is declared for a field of this name, and there is only one.
    obtain ⟨other, otherInside, otherNamed, found, otherDeclared, fits⟩ := types field.name value stored
    cases coherent.unique classes ordinary known inside otherInside (named.trans otherNamed.symm)
    cases declared.symm.trans otherDeclared
    rw [fits] at unfit
    cases unfit

def Complains (shared : Shared) (static : Bool) (field : MemberRef) (fault : Fault) : Prop :=
  fault.Elsewhere ∨ fault = .fieldNotFound field.className field.name ∧
    ∃ later, Deeds true shared later ∧ later.Unset static field

theorem getfield_complains (coherent : Coherent available) (user : available a.frame.classFile)
    (classes : ∀ classFile ∈ a.shared.classes, available classFile) (sound : a.Sound) (typed : a.Typed)
    (named : a.frame.classFile.pool.fieldRef index = .ok field)
    (ordinary : Platform.isPlatform field.className = false)
    (failed : execute (.getfield index) a = .error fault b) : Complains a.shared false field fault := by
  rcases bind_error.1 failed with early | ⟨⟨found, type⟩, c, resolved, late⟩
  · exact .inl (resolveField_elsewhere index early)
  obtain ⟨resolves, rfl⟩ := (ends_resolveField index (same_refl a.shared)).done resolved
  cases resolves.named.symm.trans named
  rcases bind_error.1 late with early | ⟨address, d, popped, late⟩
  · exact .inl (failsOnly_onFrame (Frame.popReference_elsewhere _) early)
  have other : found.className ≠ FieldType.stringClass := by
    intro string
    rw [string] at ordinary
    revert ordinary
    decide
  have holds := findsInstance sound other address d popped
  obtain ⟨stack, shape, rfl⟩ := (ends_popReference _ (same_refl c.shared)).done popped
  rcases bind_error.1 late with failed | ⟨_, _, _, ended⟩
  · have receiver : c.frame.Has address (FieldType.objectTag found.className) :=
      .inl (shape ▸ List.mem_cons_self ..)
    obtain ⟨cause, unset⟩ := fetchField_unset (c := c.withStack stack) coherent user classes typed.shared
      resolves ordinary holds failed
    have apart : c.shared.isStatic address = false := (typed.frame address _ receiver).apart
    exact .inr ⟨cause, c.shared, .refl, apart ▸ unset⟩
  · cases ended

theorem getstatic_complains (coherent : Coherent available) (user : available a.frame.classFile)
    (classes : ∀ later, Deeds true a.shared later → ∀ classFile ∈ later.classes, available classFile)
    (typed : a.Typed) (named : a.frame.classFile.pool.fieldRef index = .ok field)
    (ordinary : Platform.isPlatform field.className = false)
    (failed : execute (.getstatic index) a = .error fault b) : Complains a.shared true field fault := by
  rcases bind_error.1 failed with early | ⟨⟨found, type⟩, c, resolved, late⟩
  · exact .inl (resolveField_elsewhere index early)
  obtain ⟨resolves, rfl⟩ := (ends_resolveField index (same_refl a.shared)).done resolved
  cases resolves.named.symm.trans named
  rcases bind_error.1 late with early | ⟨preparation, d, prepared, late⟩
  · exact .inl (prepare_elsewhere _ early)
  obtain ⟨deeds, reached, _⟩ := (ends_prepare _).done prepared
  cases preparation with
  | pending call => cases late
  | ready address =>
    rcases bind_error.1 late with failed | ⟨_, _, _, ended⟩
    · have typedLater := (deeds.typed typed.shared).1
      have entry := mem_of_lookup reached
      have static : d.shared.isStatic address = true := List.any_eq_true.2 ⟨_, entry, beq_self_eq_true _⟩
      obtain ⟨cause, unset⟩ := fetchField_unset coherent user (classes _ deeds) typedLater resolves ordinary
        (typedLater.statics _ _ entry) failed
      exact .inr ⟨cause, d.shared, deeds, static ▸ unset⟩
    · cases ended

end Exec

namespace Machine

open Exec Shared

variable {available : ClassFile → Prop} {classpath : String} {machine later : Machine} {static : Bool}
  {field : MemberRef} {fault : Fault}

inductive Reads (machine : Machine) : Bool → MemberRef → Prop
  | object {index : UInt16} {a : Activation} {field : MemberRef}
      (about : machine.AboutTo (.getfield index) a)
      (named : a.frame.classFile.pool.fieldRef index = .ok field) : Reads machine false field
  | static {index : UInt16} {a : Activation} {field : MemberRef}
      (about : machine.AboutTo (.getstatic index) a)
      (named : a.frame.classFile.pool.fieldRef index = .ok field) : Reads machine true field

/-- A step can fail after its instruction only because a method cannot be entered. -/
theorem elsewhere_or_failed {instr : Instr} {a : Activation} (about : machine.AboutTo instr a)
    (failed : step machine = .error fault later) :
    fault.Elsewhere ∨ ∃ b, execute instr a = .error fault b := by
  obtain ⟨frames, shared⟩ := machine
  obtain ⟨top, below, running, read⟩ := about
  cases running
  rw [step_decoded read] at failed
  cases executed : execute instr a with
  | error cause b =>
    rw [executed] at failed
    cases failed
    exact .inr ⟨b, rfl⟩
  | ok control b =>
    rw [executed] at failed
    cases control with
    | proceed => cases failed
    | leave value =>
      dsimp only at failed
      rw [apply_leave] at failed
      cases failed
    | call classFile methodIndex arguments =>
      dsimp only at failed
      rw [apply_call] at failed
      split at failed
      · cases failed
      next refused =>
        cases failed
        exact .inl (Frame.enter_elsewhere _ _ _ refused)

theorem reads_complains (coherent : Coherent available)
    (supplied : Supplied available classpath (fun frame => available frame.classFile) machine)
    (typed : machine.Typed) (reads : machine.Reads static field)
    (ordinary : Platform.isPlatform field.className = false)
    (failed : step machine = .error fault later) : Complains machine.shared static field fault := by
  -- What has been read of the instruction leaves the machine as it was.
  have started {instr : Instr} {a : Activation} (about : machine.AboutTo instr a) :
      available a.frame.classFile ∧ a.Typed ∧ machine.shared.Same a.shared := by
    obtain ⟨frames, shared⟩ := machine
    obtain ⟨top, below, running, read⟩ := about
    cases running
    have reading : Changes false ⟨top, shared⟩ a := conducts_decoded.changes supplied.sound.activation read
    have same : shared.Same a.shared := (ends_decoded _).done read
    have reached := same.typed ⟨typed.shared, expands_refl shared⟩
    exact ⟨(carried_class available).changes reading (supplied.frames top (List.mem_cons_self ..)),
      (typed.activation.consumes reached reading.consumes).1, same⟩
  have resumed {a : Activation} (same : machine.shared.Same a.shared)
      (complains : Complains a.shared static field fault) : Complains machine.shared static field fault :=
    complains.imp_right fun ⟨cause, last, deeds, unset⟩ => ⟨cause, last, same.deeds.trans deeds, unset⟩
  cases reads with
  | object about named =>
    obtain ⟨user, typedThere, same⟩ := started about
    rcases elsewhere_or_failed about failed with elsewhere | ⟨b, refused⟩
    · exact .inl elsewhere
    · exact resumed same (getfield_complains coherent user (supplied.fetched same.fetches)
        (supplied.sound.aboutTo about) typedThere named ordinary refused)
  | static about named =>
    obtain ⟨user, typedThere, same⟩ := started about
    rcases elsewhere_or_failed about failed with elsewhere | ⟨b, refused⟩
    · exact .inl elsewhere
    · exact resumed same (getstatic_complains coherent user
        (fun _ deeds => supplied.fetched (same.fetches.trans deeds.fetches)) typedThere named ordinary refused)

/-- After every history over classes that agree on their fields, what an instance of a class holds under a name
fits the type that the class declares for a field of this name. So no read of a field fails because of the type of
a value, and none fails for want of a value if the field is declared with a default for the instance that it is
read from. -/
theorem field_types_respected (classpath : String) (disk : Disk) (output : Sink) (logLimit : Nat)
    (operations : List Operation) (coherent : Coherent (Available classpath disk operations))
    (machine : Machine) (reached : machine = after operations (fresh classpath disk output logLimit)) :
    (∀ (address : Nat) (className : String) (fields : Fields),
      machine.shared.heap.objects[address]? = some (.instanceOf className fields) →
      Platform.isPlatform className = false →
      ∃ owner, machine.shared.findClass? className = some owner ∧
        ∀ name value, fields.get? name = some value →
          ∃ member type, owner.findField? name = some member ∧ member.fieldType = .ok type ∧
            value.conformsTo type = true) ∧
    (∀ static field, machine.Reads static field → Platform.isPlatform field.className = false →
      ∀ className name expected found later,
        step machine ≠ .error (.fieldTypeMismatch className name expected found) later) ∧
    (∀ static field owner member type, machine.Reads static field →
      Platform.isPlatform field.className = false → machine.shared.lookup field.className = .ok owner →
      owner.findField? field.name = some member → member.isStatic = static →
      member.fieldType = .ok type → type ∈ [FieldType.int, .short, .byte, .boolean, .char] →
      ∀ className name later, step machine ≠ .error (.fieldNotFound className name) later) := by
  subst reached
  obtain ⟨supplied, typed⟩ := typed_along coherent
  refine ⟨fun address className fields there ordinary => ?_, fun static field reads ordinary => ?_, ?_⟩
  · obtain ⟨owner, known, types, _⟩ := (typed.shared.objects address _ there).2 ordinary
    refine ⟨owner, known, fun name value stored => ?_⟩
    obtain ⟨member, inside, named, type, declared, fits⟩ := types name value stored
    obtain ⟨first, found⟩ : ∃ first, owner.findField? name = some first :=
      Option.isSome_iff_exists.1 (List.find?_isSome.2 ⟨member, inside, by simp [named]⟩)
    have same : first = member := coherent.unique supplied.classes ordinary known
      (List.mem_of_find?_eq_some found) inside (by simpa [named] using List.find?_some found)
    exact ⟨first, type, found, same ▸ declared, fits⟩
  · intro className name expected found later failed
    rcases reads_complains coherent supplied typed reads ordinary failed with elsewhere | ⟨cause, _⟩
    · exact elsewhere
    · cases cause
  · intro static field owner member type reads ordinary looked declared kind typedMember primitive
      className name later failed
    rcases reads_complains coherent supplied typed reads ordinary failed with
      elsewhere | ⟨_, last, deeds, found, other, otherType, known, inside, named, otherTyped, missing⟩
    · exact elsewhere
    · cases deeds.lookup looked known
      have classes := supplied.fetched deeds.fetches
      have declaredName : member.name = field.name := by simpa using List.find?_some declared
      have same : other = member := coherent.unique classes ordinary known inside
        (List.mem_of_find?_eq_some declared) (named.trans declaredName.symm)
      subst same
      cases otherTyped.symm.trans typedMember
      have unset := missing kind
      simp only [List.mem_cons, List.not_mem_nil, or_false] at primitive
      rcases primitive with rfl | rfl | rfl | rfl | rfl <;> cases unset

/-- A class of points that have a coordinate. The entry point makes a point, sets its coordinate, makes another
point and reads the coordinate of that one. -/
def pointBytes : Array UInt8 :=
  (Layout.u4 ClassFile.magic ++ Layout.u2 0 ++ Layout.u2 52 ++
    Entry.encodePool [.utf8 "Point", .classRef 1, .utf8 "x", .utf8 "I", .nameAndType 3 4, .fieldRef 2 5,
      .utf8 "mark", .utf8 "C", .utf8 mainName, .utf8 mainDescriptor, .utf8 "Code"] ++
    Layout.u2 0 ++ Layout.u2 2 ++ Layout.u2 0 ++ Layout.u2 0 ++
    Layout.counted Member.layout [⟨0, 3, 4, "x", "I", []⟩, ⟨Access.isStatic, 7, 8, "mark", "C", []⟩] ++
    Layout.counted Member.layout
      [⟨mainFlags, 9, 10, mainName, mainDescriptor,
        [.code 11 3 1 #[187, 0, 2, 89, 8, 181, 0, 6, 187, 0, 2, 180, 0, 6, 177] [] []]⟩] ++
    Attribute.layoutAll []).toArray

def pointMachine : Machine :=
  after [.define pointBytes, .start 5 "Point"] (fresh "" Disk.empty Sink.unbounded 0)

theorem point_field_types :
    pointMachine.shared.heap.objects = #[.instanceOf "Point" [("mark", .char 0)],
      .instanceOf "Point" [("x", .int 5)], .instanceOf "Point" [("x", .int 0)]] ∧
    (∃ owner, pointMachine.shared.findClass? "Point" = some owner ∧
      ∃ member type, owner.findField? "x" = some member ∧ member.fieldType = .ok type ∧
        (Value.int 5).conformsTo type = true) ∧
    ∀ className name later, step pointMachine ≠ .error (.fieldNotFound className name) later := by
  have coherent : Coherent (Available "" Disk.empty [.define pointBytes, .start 5 "Point"]) := by
    refine coherent_of_listed (ClassFile.parse pointBytes).toOption.toList ?_ (by decide +kernel)
      (by decide +kernel)
    rintro classFile (⟨name, read⟩ | ⟨operation, member, offers⟩)
    · cases read
    · simp only [List.mem_cons, List.not_mem_nil, or_false] at member
      rcases member with rfl | rfl
      · rw [show ClassFile.parse pointBytes = .ok classFile from offers]
        exact List.mem_singleton_self _
      · exact offers.elim
  have facts :
      pointMachine.shared.heap.objects = #[.instanceOf "Point" [("mark", .char 0)],
        .instanceOf "Point" [("x", .int 5)], .instanceOf "Point" [("x", .int 0)]] ∧
      pointMachine.frames.map (fun top => value? (decoded ⟨top, pointMachine.shared⟩)) =
        [some (.getfield 6)] ∧
      pointMachine.frames.map (fun top =>
        (final (decoded ⟨top, pointMachine.shared⟩)).frame.classFile.pool.fieldRef 6) =
          [.ok ⟨2, 5, ⟨1, "Point"⟩, ⟨3, 4, "x", "I"⟩⟩] ∧
      ((pointMachine.shared.lookup "Point").toOption.bind (·.findField? "x")).map
        (fun member => (member.isStatic, member.descriptor)) = some (false, "I") := by
    decide +kernel
  obtain ⟨objects, decodes, names, declares⟩ := facts
  have one : pointMachine.frames.length = 1 := by simpa using congrArg List.length decodes
  obtain ⟨top, running⟩ := List.length_eq_one_iff.1 one
  rw [running] at decodes names
  have about : pointMachine.AboutTo (.getfield 6) _ :=
    ⟨top, [], running, eq_ok_of_value? (List.cons.inj decodes).1⟩
  obtain ⟨values, _, present⟩ := field_types_respected "" Disk.empty Sink.unbounded 0
    [.define pointBytes, .start 5 "Point"] coherent pointMachine rfl
  refine ⟨objects, ?_, ?_⟩
  · obtain ⟨owner, known, types⟩ := values 1 "Point" [("x", .int 5)] (by rw [objects]; rfl) (by decide)
    exact ⟨owner, known, types "x" (.int 5) rfl⟩
  · cases looked : pointMachine.shared.lookup "Point" with
    | error fault =>
      rw [looked] at declares
      cases declares
    | ok owner =>
      rw [looked] at declares
      obtain ⟨member, declared, shown⟩ := Option.map_eq_some_iff.1 declares
      obtain ⟨kind, descriptor⟩ := Prod.mk.inj shown
      have typed : member.fieldType = .ok .int := by
        unfold Member.fieldType
        rw [descriptor]
        decide +kernel
      exact present false _ owner member .int (.object about (List.cons.inj names).1) (by decide) looked
        declared kind typed (by decide)

end Machine

end MiniJvm
