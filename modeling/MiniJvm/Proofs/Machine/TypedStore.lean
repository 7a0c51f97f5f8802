import MiniJvm.Proofs.Machine.Defaults
import MiniJvm.Proofs.Machine.Footprint

/-!
Typed instances. The values that an instance holds fit the types that its class declares for their names, and
the fields whose types have a default are set: the static ones in the static instance, the others in objects.
References to static instances are nowhere, so the two kinds do not mix. All this survives whatever is added to
the store, and a field that is set to a value of its declared type.
-/

namespace MiniJvm

open Effect Relation

theorem Value.default?_conformsTo {type : FieldType} {value : Value}
    (default : Value.default? type = some value) : value.conformsTo type = true := by
  cases type <;> cases default <;> rfl

namespace ClassFile

/-- The class declares a field of this name, of a type that the value fits. -/
def Declares (owner : ClassFile) (name : String) (value : Value) : Prop :=
  ∃ member ∈ owner.fields, member.name = name ∧
    ∃ type, member.fieldType = .ok type ∧ value.conformsTo type = true

def Types (owner : ClassFile) (fields : Fields) : Prop :=
  ∀ name value, fields.get? name = some value → owner.Declares name value

/-- The fields whose types have a default have values, the static ones or the others. -/
def Fills (owner : ClassFile) (static : Bool) (fields : Fields) : Prop :=
  ∀ member ∈ owner.fields, member.isStatic = static → ∀ type, member.fieldType = .ok type →
    Value.default? type ≠ none → fields.get? member.name ≠ none

variable {owner : ClassFile} {static : Bool} {fields : Fields} {name : String} {value : Value}

theorem Types.set (types : owner.Types fields) (declares : owner.Declares name value) :
    owner.Types (fields.set name value) := by
  intro key stored found
  rw [Fields.get?_set] at found
  by_cases same : key = name
  · rw [if_pos same] at found
    cases found
    rw [same]
    exact declares
  · rw [if_neg same] at found
    exact types key stored found

theorem Fills.set (fills : owner.Fills static fields) : owner.Fills static (fields.set name value) := by
  intro member listed kind type typed default
  rw [Fields.get?_set]
  by_cases same : member.name = name
  · simp [same]
  · rw [if_neg same]
    exact fills member listed kind type typed default

end ClassFile

theorem Heap.getElem?_push (heap : Heap) (object : HeapObject) (address : Nat) :
    (heap.push object).objects[address]? =
      if address = heap.size then some object else heap.objects[address]? :=
  Array.getElem?_push

namespace Shared

def isStatic (shared : Shared) (address : Nat) : Bool :=
  shared.statics.any (·.2 == address)

/-- There is an object at the address, and it is no static instance. -/
structure Free (shared : Shared) (address : Nat) : Prop where
  inside : address < shared.heap.size
  apart : shared.isStatic address = false

/-- The references of an instance are free, and its values are those that its class calls for. Objects that
are no instances have no fields, and those of built-in classes have no declared ones. -/
def Fits (shared : Shared) (static : Bool) : HeapObject → Prop
  | .instanceOf className fields =>
    (∀ name place tag, fields.get? name = some (.reference place tag) → shared.Free place) ∧
    (Platform.isPlatform className = false → ∃ owner, shared.findClass? className = some owner ∧
      owner.Types fields ∧ owner.Fills static fields)
  | _ => True

structure Typed (shared : Shared) : Prop where
  statics : ∀ name address, (name, address) ∈ shared.statics → shared.heap.HoldsInstance address name
  objects : ∀ (address : Nat) (object : HeapObject), shared.heap.objects[address]? = some object →
    shared.Fits (shared.isStatic address) object

/-- No class is forgotten, and no address becomes that of a static instance that is not new. -/
structure Expands (old new : Shared) : Prop where
  classes : old.classes <+: new.classes
  free : ∀ address, old.Free address → new.Free address

variable {shared old new : Shared}

theorem expands_refl (shared : Shared) : shared.Expands shared :=
  ⟨List.prefix_refl _, fun _ => id⟩

theorem Expands.trans {last : Shared} (early : old.Expands new) (late : new.Expands last) :
    old.Expands last :=
  ⟨early.classes.trans late.classes, fun address free => late.free address (early.free address free)⟩

theorem Fits.expands {static : Bool} {object : HeapObject} (fits : old.Fits static object)
    (expands : old.Expands new) : new.Fits static object := by
  cases object with
  | instanceOf className fields =>
    refine ⟨fun name place tag found => expands.free place (fits.1 name place tag found), fun user => ?_⟩
    obtain ⟨owner, known, types, fills⟩ := fits.2 user
    exact ⟨owner, findClass?_of_grown expands.classes known, types, fills⟩
  | _ => trivial

/-- Where the heap and the static instances are the same, only the classes can differ. -/
theorem Typed.sameStore (typed : old.Typed) (same : SameStore old new)
    (classes : old.classes <+: new.classes) : new.Typed ∧ old.Expands new := by
  have kept (address : Nat) : new.isStatic address = old.isStatic address := by
    unfold isStatic
    rw [same.statics]
  have expands : old.Expands new := by
    refine ⟨classes, fun address free => ⟨?_, (kept address).trans free.apart⟩⟩
    rw [same.heap]
    exact free.inside
  refine ⟨⟨fun name address member => ?_, fun address object found => ?_⟩, expands⟩
  · rw [same.statics] at member
    rw [same.heap]
    exact typed.statics name address member
  · rw [same.heap] at found
    rw [kept]
    exact (typed.objects address object found).expands expands

/-! ### New objects -/

theorem Typed.isStatic_lt (typed : shared.Typed) {address : Nat} (static : shared.isStatic address = true) :
    address < shared.heap.size := by
  obtain ⟨entry, member, here⟩ := List.any_eq_true.1 static
  obtain ⟨fields, found⟩ := typed.statics entry.1 entry.2 member
  rw [← beq_iff_eq.1 here]
  exact (Array.getElem?_eq_some_iff.1 found).1

/-- An address that is not in use is not that of a static instance. -/
theorem Typed.isStatic_size (typed : shared.Typed) : shared.isStatic shared.heap.size = false := by
  cases static : shared.isStatic shared.heap.size with
  | false => rfl
  | true => exact absurd (typed.isStatic_lt static) (Nat.lt_irrefl _)

theorem size_push (heap : Heap) (object : HeapObject) : (heap.push object).size = heap.size + 1 := by
  simp [Heap.size, Heap.push]

theorem expands_push (shared : Shared) (object : HeapObject) :
    shared.Expands { shared with heap := shared.heap.push object } := by
  refine ⟨List.prefix_refl _, fun address free => ⟨?_, free.apart⟩⟩
  have inside := free.inside
  show address < (shared.heap.push object).size
  rw [size_push]
  omega

theorem Typed.free_push (typed : shared.Typed) (object : HeapObject) :
    Free { shared with heap := shared.heap.push object } shared.heap.size := by
  refine ⟨?_, typed.isStatic_size⟩
  show shared.heap.size < (shared.heap.push object).size
  rw [size_push]
  omega

theorem Typed.push (typed : shared.Typed) {object : HeapObject}
    (fits : Fits { shared with heap := shared.heap.push object } false object) :
    Typed { shared with heap := shared.heap.push object } := by
  refine ⟨fun name address member => ?_, fun address found there => ?_⟩
  · exact (typed.statics name address member).evolves (Heap.evolves_push _ object)
  · show Fits _ (shared.isStatic address) found
    rw [Heap.getElem?_push] at there
    by_cases last : address = shared.heap.size
    · rw [if_pos last] at there
      cases there
      rw [last, typed.isStatic_size]
      exact fits
    · rw [if_neg last] at there
      exact (typed.objects address found there).expands (expands_push shared object)

/-! ### Static instances -/

theorem isStatic_registering (shared : Shared) (name : String) (fields : Fields) (address : Nat) :
    (shared.registering name fields).isStatic address =
      (shared.isStatic address || shared.heap.size == address) := by
  simp [isStatic, registering]

theorem expands_registering (shared : Shared) (name : String) (fields : Fields) :
    shared.Expands (shared.registering name fields) := by
  refine ⟨List.prefix_refl _, fun address free => ⟨?_, ?_⟩⟩
  · have inside := free.inside
    show address < (shared.heap.push _).size
    rw [size_push]
    omega
  · have other : shared.heap.size ≠ address := Nat.ne_of_gt free.inside
    rw [isStatic_registering, free.apart, Bool.false_or]
    exact beq_eq_false_iff_ne.2 other

theorem Typed.registering (typed : shared.Typed) {name : String} {fields : Fields}
    (fits : (shared.registering name fields).Fits true (.instanceOf name fields)) :
    (shared.registering name fields).Typed := by
  have evolves : shared.heap.Evolves (shared.registering name fields).heap := Heap.evolves_push _ _
  refine ⟨fun other address member => ?_, fun address found there => ?_⟩
  · rcases List.mem_append.1 member with known | added
    · exact (typed.statics other address known).evolves evolves
    · cases List.mem_singleton.1 added
      exact ⟨fields, Heap.getElem?_push_size _ _⟩
  · have there : (shared.heap.push (.instanceOf name fields)).objects[address]? = some found := there
    rw [Heap.getElem?_push] at there
    rw [isStatic_registering]
    by_cases last : address = shared.heap.size
    · rw [if_pos last] at there
      cases there
      rw [last, beq_self_eq_true, Bool.or_true]
      exact fits
    · rw [if_neg last] at there
      rw [beq_eq_false_iff_ne.2 (Ne.symm last), Bool.or_false]
      exact (typed.objects address found there).expands (expands_registering shared name fields)

/-! ### Changed objects -/

theorem expands_modify (shared : Shared) (address : Nat) (change : HeapObject → HeapObject) :
    shared.Expands { shared with heap := ⟨shared.heap.objects.modify address change⟩ } := by
  refine ⟨List.prefix_refl _, fun place free => ⟨?_, free.apart⟩⟩
  show place < (shared.heap.objects.modify address change).size
  rw [Array.size_modify]
  exact free.inside

theorem Typed.modify (typed : shared.Typed) {address : Nat} {change : HeapObject → HeapObject}
    (tame : ∀ object : HeapObject, object.Becomes (change object))
    (fits : ∀ object, shared.heap.objects[address]? = some object →
      shared.Fits (shared.isStatic address) object → shared.Fits (shared.isStatic address) (change object)) :
    Typed { shared with heap := ⟨shared.heap.objects.modify address change⟩ } := by
  refine ⟨fun name place member => ?_, fun place found there => ?_⟩
  · exact (typed.statics name place member).evolves (shared.heap.evolves_modify address tame)
  · show Fits _ (shared.isStatic place) found
    rw [Array.getElem?_modify] at there
    by_cases here : address = place
    · rw [if_pos here, Option.map_eq_some_iff] at there
      obtain ⟨object, stored, rfl⟩ := there
      subst here
      exact (fits object stored (typed.objects address object stored)).expands
        (expands_modify shared address change)
    · rw [if_neg here] at there
      exact (typed.objects place found there).expands (expands_modify shared address change)

theorem Typed.setInt (typed : shared.Typed) (array slot : Nat) (value : Int32) :
    Typed { shared with heap := shared.heap.setInt array slot value } := by
  refine typed.modify (fun object => ?_) fun object _ fits => ?_
  · cases object with
    | ints values => exact ⟨_, rfl, Array.size_setIfInBounds⟩
    | _ => exact HeapObject.becomes_refl _
  · cases object with
    | ints values => trivial
    | _ => exact fits

theorem Typed.setChar (typed : shared.Typed) (array slot : Nat) (unit : UInt16) :
    Typed { shared with heap := shared.heap.setChar array slot unit } := by
  refine typed.modify (fun object => ?_) fun object _ fits => ?_
  · cases object with
    | chars units => exact ⟨_, rfl, Array.size_setIfInBounds⟩
    | _ => exact HeapObject.becomes_refl _
  · cases object with
    | chars units => trivial
    | _ => exact fits

theorem Typed.setField (typed : shared.Typed) {address : Nat} {className name : String} {value : Value}
    (receiver : ∀ found fields, shared.heap.objects[address]? = some (.instanceOf found fields) →
      found = className)
    (free : ∀ place tag, value = .reference place tag → shared.Free place)
    (declared : Platform.isPlatform className = false → ∀ owner,
      shared.findClass? className = some owner → owner.Declares name value) :
    Typed { shared with heap := shared.heap.setField address name value } := by
  refine typed.modify (fun object => ?_) fun object stored fits => ?_
  · cases object with
    | instanceOf found fields => exact ⟨_, rfl⟩
    | _ => exact HeapObject.becomes_refl _
  · cases object with
    | instanceOf found fields =>
      cases receiver found fields stored
      refine ⟨fun key place tag set => ?_, fun user => ?_⟩
      · rw [Fields.get?_set] at set
        by_cases same : key = name
        · rw [if_pos same] at set
          cases set
          exact free place tag rfl
        · rw [if_neg same] at set
          exact fits.1 key place tag set
      · obtain ⟨owner, known, types, fills⟩ := fits.2 user
        exact ⟨owner, known, types.set (declared user owner known), fills.set⟩
    | _ => exact fits

/-! ### Preparation -/

theorem fits_platform {static : Bool} {className : String} {fields : Fields}
    (platform : Platform.isPlatform className = true)
    (free : ∀ name place tag, fields.get? name = some (.reference place tag) → shared.Free place) :
    shared.Fits static (.instanceOf className fields) := by
  refine ⟨free, fun user => ?_⟩
  rw [platform] at user
  cases user

theorem fits_defaults {static : Bool} {className : String} {owner : ClassFile} {fields : Fields}
    (known : shared.findClass? className = some owner)
    (made : Exec.defaultFields static owner.fields = .ok fields) :
    shared.Fits static (.instanceOf className fields) := by
  obtain ⟨typed, held⟩ := Exec.defaultFields_ok made
  have source {name : String} {value : Value} (found : fields.get? name = some value) :
      ∃ member ∈ owner.fields, member.name = name ∧
        ∃ type, member.fieldType = .ok type ∧ Value.default? type = some value := by
    rw [held] at found
    obtain ⟨member, listed, kind, named, initial⟩ := ClassFile.preset?_some found
    obtain ⟨type, typedMember⟩ := typed member listed kind
    rw [← Value.default?_of_fieldType typedMember] at initial
    exact ⟨member, listed, named, type, typedMember, initial⟩
  refine ⟨fun name place tag found => ?_, fun _ => ⟨owner, known, fun name value found => ?_, ?_⟩⟩
  · obtain ⟨_, _, _, type, _, default⟩ := source found
    cases type <;> cases default
  · obtain ⟨member, listed, named, type, typedMember, default⟩ := source found
    exact ⟨member, listed, named, type, typedMember, Value.default?_conformsTo default⟩
  · intro member listed kind type typedMember default
    rw [Value.default?_of_fieldType typedMember] at default
    rw [held, ← kind]
    exact ClassFile.preset?_ne_none listed default

theorem fits_stream (number : Int32) (shared : Shared) : shared.Fits false (Platform.stream number) := by
  refine fits_platform (by decide) fun name place tag found => ?_
  cases List.mem_singleton.1 (mem_of_lookup found)

/-- The two standard streams are new objects, so both are free. -/
theorem Typed.streaming (typed : shared.Typed) :
    shared.streaming.Typed ∧ shared.Expands shared.streaming ∧
      shared.streaming.Free shared.heap.size ∧ shared.streaming.Free (shared.heap.size + 1) := by
  have first := typed.push (fits_stream 1 _)
  have second := first.push (fits_stream 2 _)
  refine ⟨second, (expands_push shared _).trans (expands_push _ _), ?_, ?_⟩
  · exact (expands_push _ _).free _ (typed.free_push _)
  · have free := first.free_push (Platform.stream 2)
    rw [size_push] at free
    exact free

theorem Typed.system (typed : shared.Typed) :
    (shared.streaming.registering Platform.systemClass (streamFields shared.heap)).Typed ∧
      shared.Expands (shared.streaming.registering Platform.systemClass (streamFields shared.heap)) := by
  obtain ⟨streams, expands, out, err⟩ := typed.streaming
  have registers := expands_registering shared.streaming Platform.systemClass (streamFields shared.heap)
  refine ⟨streams.registering (fits_platform (by decide) fun name place tag found => ?_),
    expands.trans registers⟩
  have places : place = shared.heap.size ∨ place = shared.heap.size + 1 := by
    have member := mem_of_lookup found
    simp only [streamFields, List.mem_cons, Prod.mk.injEq, Value.reference.injEq, List.not_mem_nil,
      or_false] at member
    omega
  rcases places with rfl | rfl
  · exact registers.free _ out
  · exact registers.free _ err

theorem Deed.typed {registers : Bool} (deed : Deed registers old new) (typed : old.Typed) :
    new.Typed ∧ old.Expands new := by
  cases deed with
  | report log => exact typed.sameStore ⟨rfl, rfl⟩ (List.prefix_refl _)
  | load absent read => exact typed.sameStore ⟨rfl, rfl⟩ (List.prefix_append _ _)
  | platform platform absent =>
    exact ⟨typed.registering (fits_platform platform nofun), expands_registering _ _ _⟩
  | user user absent known made =>
    exact ⟨typed.registering (fits_defaults known made), expands_registering _ _ _⟩
  | system absent => exact typed.system

theorem Deeds.typed {registers : Bool} (deeds : Deeds registers old new) (typed : old.Typed) :
    new.Typed ∧ old.Expands new := by
  induction deeds with
  | refl => exact ⟨typed, expands_refl old⟩
  | tail _ last ih =>
    obtain ⟨typedNext, expands⟩ := last.typed ih.1
    exact ⟨typedNext, ih.2.trans expands⟩

end Shared

end MiniJvm
