import MiniJvm.Proofs.Constant.Linkable

/-!
When a constant pool can be linked, and what the linked pool says. A pool can be linked when all its entries
can; the first entry that cannot decides the fault. What linking adds to an entry can also be had by asking
the linked pool.
-/

namespace MiniJvm

open Effect

theorem mapM_ok_iff_map {ε α β : Type} {f : α → Except ε β} {xs : List α} {ys : List β} :
    xs.mapM f = .ok ys ↔ xs.map f = ys.map .ok := by
  induction xs generalizing ys with
  | nil =>
    cases ys with
    | nil => exact ⟨fun _ => rfl, fun _ => rfl⟩
    | cons y rest => exact ⟨fun wrong => (nomatch wrong), fun wrong => (nomatch wrong)⟩
  | cons x others ih =>
    rw [List.mapM_cons, List.map_cons]
    constructor
    · intro mapped
      obtain ⟨y, first, rest⟩ := except_bind_ok.1 mapped
      obtain ⟨last, restMapped, made⟩ := except_bind_ok.1 rest
      cases made
      rw [first, ih.1 restMapped, List.map_cons]
    · intro same
      obtain ⟨y, rest, rfl, first, restMapped⟩ := List.map_eq_cons_iff.1 same.symm
      rw [← first, ih.2 restMapped.symm]
      rfl

/-- The first item that fails decides. -/
theorem mapM_error_iff {ε α β : Type} {f : α → Except ε β} {xs : List α} {e : ε} :
    xs.mapM f = .error e ↔ ∃ before x later, xs = before ++ x :: later ∧
      (∀ y ∈ before, ∃ z, f y = .ok z) ∧ f x = .error e := by
  induction xs with
  | nil =>
    constructor
    · intro failed
      cases failed
    · rintro ⟨before, x, later, same, _⟩
      simp at same
  | cons head tail ih =>
    rw [List.mapM_cons]
    cases first : f head with
    | error other =>
      constructor
      · intro failed
        cases failed
        exact ⟨[], head, tail, rfl, by simp, first⟩
      · rintro ⟨before, x, later, same, succeed, failed⟩
        cases before with
        | nil =>
          cases same
          rw [first] at failed
          cases failed
          rfl
        | cons y rest =>
          cases same
          obtain ⟨z, succeeded⟩ := succeed head (List.mem_cons_self ..)
          rw [first] at succeeded
          cases succeeded
    | ok value =>
      have step : (Except.ok value >>= fun y => tail.mapM f >>= fun ys => pure (y :: ys)) =
          (.error e : Except ε (List β)) ↔ tail.mapM f = .error e := by
        cases tail.mapM f with
        | ok values => exact ⟨fun failed => (nomatch failed), fun failed => (nomatch failed)⟩
        | error other =>
          show Except.error other = .error e ↔ Except.error other = .error e
          simp
      rw [step, ih]
      constructor
      · rintro ⟨before, x, later, rfl, succeed, failed⟩
        exact ⟨head :: before, x, later, rfl, List.forall_mem_cons.2 ⟨⟨value, first⟩, succeed⟩, failed⟩
      · rintro ⟨before, x, later, same, succeed, failed⟩
        cases before with
        | nil =>
          cases same
          rw [first] at failed
          cases failed
        | cons y rest =>
          cases same
          exact ⟨rest, x, later, rfl, (List.forall_mem_cons.1 succeed).2, failed⟩

/-- The text is the one that the pool gives for the index next to it. -/
def ClassRef.Agrees (pool : Pool) (ref : ClassRef) : Prop :=
  pool.utf8 ref.nameIndex = .ok ref.name

def NameAndType.Agrees (pool : Pool) (pair : NameAndType) : Prop :=
  pool.utf8 pair.nameIndex = .ok pair.name ∧ pool.utf8 pair.descriptorIndex = .ok pair.descriptor

def MemberRef.Agrees (pool : Pool) (member : MemberRef) : Prop :=
  (pool.classRef member.classIndex = .ok member.owner ∧ member.owner.Agrees pool) ∧
    pool.get member.nameAndTypeIndex = .ok (.nameAndType member.nameAndType) ∧
      member.nameAndType.Agrees pool

def MethodHandle.Agrees (pool : Pool) (handle : MethodHandle) : Prop :=
  (handleTarget? handle.referenceKind = some .fieldRef ∧
      pool.fieldRef handle.referenceIndex = .ok handle.reference ∨
    handleTarget? handle.referenceKind = some .methodRef ∧
      pool.methodRef handle.referenceIndex = .ok handle.reference) ∧
  handle.reference.Agrees pool

/-- All that a constant carries next to an index is what the pool gives for that index. -/
def Constant.Agrees (pool : Pool) : Constant → Prop
  | .classRef ref => ref.Agrees pool
  | .string textIndex text => pool.utf8 textIndex = .ok text
  | .fieldRef member | .methodRef member | .interfaceMethodRef member => member.Agrees pool
  | .nameAndType pair => pair.Agrees pool
  | .methodHandle handle => handle.Agrees pool
  | .invokeDynamic site =>
    pool.get site.nameAndTypeIndex = .ok (.nameAndType site.nameAndType) ∧
      site.nameAndType.Agrees pool
  | .utf8 _ | .integer _ | .float _ | .long _ | .double _ | .unusable => True

namespace Pool

open Entries

variable {entries : List Entry} {pool : Pool} {index : UInt16}

/-- The constants of a linked pool stand in the places of the entries that they are linked from. -/
theorem constants_of_link (linked : link entries = .ok pool) :
    entries.map (Entries.link entries.toArray) = pool.constants.toList.map .ok := by
  obtain ⟨constants, mapped, made⟩ := except_bind_ok.1 linked
  cases made
  exact mapM_ok_iff_map.1 mapped

theorem get_of_holds (linked : link entries = .ok pool) {entry : Entry}
    (there : Holds entries index entry) (usable : entry ≠ .unusable) :
    ∃ constant, Entries.link entries.toArray entry = .ok constant ∧
      pool.get index = .ok constant := by
  have slot : (pool.constants.toList.map Except.ok)[index.toNat - 1]? =
      some (Entries.link entries.toArray entry) := by
    rw [← constants_of_link linked, List.getElem?_map, there.2]
    rfl
  rw [List.getElem?_map, Option.map_eq_some_iff, Array.getElem?_toList] at slot
  obtain ⟨constant, stands, linkedEntry⟩ := slot
  refine ⟨constant, linkedEntry.symm, ?_⟩
  unfold get
  rw [if_neg there.1, stands]
  cases constant with
  | unusable => exact absurd (entry_of_link linkedEntry.symm).symm usable
  | _ => rfl

theorem holds_of_get {wanted : ConstantKind} {α : Type} {next : Entry → Except Fault α} {value : α}
    (ran : (Entries.get entries.toArray index (.entry wanted) >>= next) = .ok value) :
    ∃ entry, Holds entries index entry ∧ next entry = .ok value := by
  rcases get_cases entries index wanted with ⟨entry, got, there⟩ | ⟨found, got, _⟩
  · rw [got] at ran
    exact ⟨entry, there, ran⟩
  · rw [got] at ran
    cases ran

theorem utf8_of_linkText (linked : link entries = .ok pool) {text : String}
    (found : linkText entries.toArray index = .ok text) : pool.utf8 index = .ok text := by
  obtain ⟨entry, there, rest⟩ := holds_of_get found
  cases entry with
  | utf8 stored =>
    cases rest
    obtain ⟨constant, made, got⟩ := get_of_holds linked there (by simp)
    cases made
    unfold utf8
    rw [got]
    rfl
  | _ => cases rest

theorem classRef_of_linkClass (linked : link entries = .ok pool) {ref : ClassRef}
    (found : linkClass entries.toArray index = .ok ref) :
    pool.classRef index = .ok ref ∧ ref.Agrees pool := by
  obtain ⟨entry, there, rest⟩ := holds_of_get found
  cases entry with
  | classRef name =>
    obtain ⟨text, foundText, made⟩ := except_bind_ok.1 rest
    cases made
    refine ⟨?_, utf8_of_linkText linked foundText⟩
    obtain ⟨constant, linkedEntry, got⟩ := get_of_holds linked there (by simp)
    obtain ⟨again, foundAgain, made⟩ := except_bind_ok.1 linkedEntry
    cases foundText.symm.trans foundAgain
    cases made
    unfold classRef
    rw [got]
    rfl
  | _ => cases rest

theorem agrees_of_linkNames (linked : link entries = .ok pool) {name descriptor : UInt16}
    {pair : NameAndType} (found : linkNames entries.toArray name descriptor = .ok pair) :
    pair.Agrees pool := by
  obtain ⟨_, foundName, rest⟩ := except_bind_ok.1 found
  obtain ⟨_, foundDescriptor, made⟩ := except_bind_ok.1 rest
  cases made
  exact ⟨utf8_of_linkText linked foundName, utf8_of_linkText linked foundDescriptor⟩

theorem get_of_linkNameAndType (linked : link entries = .ok pool) {pair : NameAndType}
    (found : linkNameAndType entries.toArray index = .ok pair) :
    pool.get index = .ok (.nameAndType pair) ∧ pair.Agrees pool := by
  obtain ⟨entry, there, rest⟩ := holds_of_get found
  cases entry with
  | nameAndType name descriptor =>
    refine ⟨?_, agrees_of_linkNames linked rest⟩
    obtain ⟨constant, linkedEntry, got⟩ := get_of_holds linked there (by simp)
    obtain ⟨again, foundAgain, made⟩ := except_bind_ok.1 linkedEntry
    cases rest.symm.trans foundAgain
    cases made
    exact got
  | _ => cases rest

theorem agrees_of_linkMember (linked : link entries = .ok pool) {owner member : UInt16}
    {reference : MemberRef} (found : linkMember entries.toArray owner member = .ok reference) :
    reference.Agrees pool := by
  obtain ⟨_, foundOwner, rest⟩ := except_bind_ok.1 found
  obtain ⟨_, foundMember, made⟩ := except_bind_ok.1 rest
  cases made
  exact ⟨classRef_of_linkClass linked foundOwner, get_of_linkNameAndType linked foundMember⟩

theorem fieldRef_of_linkFieldTarget (linked : link entries = .ok pool) {reference : MemberRef}
    (found : linkFieldTarget entries.toArray index = .ok reference) :
    pool.fieldRef index = .ok reference ∧ reference.Agrees pool := by
  obtain ⟨entry, there, rest⟩ := holds_of_get found
  cases entry with
  | fieldRef owner member =>
    refine ⟨?_, agrees_of_linkMember linked rest⟩
    obtain ⟨constant, linkedEntry, got⟩ := get_of_holds linked there (by simp)
    obtain ⟨again, foundAgain, made⟩ := except_bind_ok.1 linkedEntry
    cases rest.symm.trans foundAgain
    cases made
    unfold fieldRef
    rw [got]
    rfl
  | _ => cases rest

theorem methodRef_of_linkMethodTarget (linked : link entries = .ok pool) {reference : MemberRef}
    (found : linkMethodTarget entries.toArray index = .ok reference) :
    pool.methodRef index = .ok reference ∧ reference.Agrees pool := by
  obtain ⟨entry, there, rest⟩ := holds_of_get found
  have got {make : MemberRef → Constant} {owner member : UInt16}
      (target : linkMember entries.toArray owner member = .ok reference)
      (same : Entries.link entries.toArray entry =
        (linkMember entries.toArray owner member >>= fun reference => pure (make reference)))
      (usable : entry ≠ .unusable) : pool.get index = .ok (make reference) := by
    obtain ⟨constant, linkedEntry, got⟩ := get_of_holds linked there usable
    rw [same, target] at linkedEntry
    cases linkedEntry
    exact got
  cases entry with
  | methodRef owner member =>
    refine ⟨?_, agrees_of_linkMember linked rest⟩
    unfold methodRef
    rw [got rest rfl (by simp)]
    rfl
  | interfaceMethodRef owner member =>
    refine ⟨?_, agrees_of_linkMember linked rest⟩
    unfold methodRef
    rw [got rest rfl (by simp)]
    rfl
  | _ => cases rest

theorem agrees_of_linkHandle (linked : link entries = .ok pool) {kind : UInt8}
    {handle : MethodHandle} (found : linkHandle entries.toArray kind index = .ok handle) :
    handle.Agrees pool := by
  unfold linkHandle at found
  by_cases field : 1 ≤ kind ∧ kind ≤ 4
  · rw [if_pos field] at found
    obtain ⟨reference, target, made⟩ := except_bind_ok.1 found
    cases made
    obtain ⟨got, agrees⟩ := fieldRef_of_linkFieldTarget linked target
    exact ⟨.inl ⟨by simp [handleTarget?, field], got⟩, agrees⟩
  rw [if_neg field] at found
  by_cases method : 5 ≤ kind ∧ kind ≤ 9
  · rw [if_pos method] at found
    obtain ⟨reference, target, made⟩ := except_bind_ok.1 found
    cases made
    obtain ⟨got, agrees⟩ := methodRef_of_linkMethodTarget linked target
    exact ⟨.inr ⟨by simp [handleTarget?, field, method], got⟩, agrees⟩
  rw [if_neg method] at found
  cases found

theorem agrees_of_linkEntry (linked : link entries = .ok pool) {entry : Entry} {constant : Constant}
    (found : Entries.link entries.toArray entry = .ok constant) : constant.Agrees pool := by
  cases entry with
  | classRef name =>
    obtain ⟨_, foundText, made⟩ := except_bind_ok.1 found
    cases made
    exact utf8_of_linkText linked foundText
  | string text =>
    obtain ⟨_, foundText, made⟩ := except_bind_ok.1 found
    cases made
    exact utf8_of_linkText linked foundText
  | fieldRef owner member =>
    obtain ⟨_, target, made⟩ := except_bind_ok.1 found
    cases made
    exact agrees_of_linkMember linked target
  | methodRef owner member =>
    obtain ⟨_, target, made⟩ := except_bind_ok.1 found
    cases made
    exact agrees_of_linkMember linked target
  | interfaceMethodRef owner member =>
    obtain ⟨_, target, made⟩ := except_bind_ok.1 found
    cases made
    exact agrees_of_linkMember linked target
  | nameAndType name descriptor =>
    obtain ⟨_, target, made⟩ := except_bind_ok.1 found
    cases made
    exact agrees_of_linkNames linked target
  | methodHandle kind index =>
    obtain ⟨_, target, made⟩ := except_bind_ok.1 found
    cases made
    exact agrees_of_linkHandle linked target
  | invokeDynamic bootstrap member =>
    obtain ⟨_, target, made⟩ := except_bind_ok.1 found
    cases made
    exact get_of_linkNameAndType linked target
  | _ =>
    cases found
    trivial

theorem agrees_of_link (linked : link entries = .ok pool) :
    ∀ constant ∈ pool.constants, constant.Agrees pool := by
  intro constant member
  have there : Except.ok constant ∈ entries.map (Entries.link entries.toArray) := by
    rw [constants_of_link linked]
    exact List.mem_map_of_mem (Array.mem_toList_iff.2 member)
  obtain ⟨entry, _, found⟩ := List.mem_map.1 there
  exact agrees_of_linkEntry linked found

theorem link_error_iff {fault : Fault} :
    link entries = .error fault ↔ ∃ before entry later, entries = before ++ entry :: later ∧
      (∀ earlier ∈ before, Linkable entries earlier) ∧ Refuses entries entry fault := by
  have first : link entries = .error fault ↔
      entries.mapM (Entries.link entries.toArray) = .error fault := by
    unfold link
    cases entries.mapM (Entries.link entries.toArray) with
    | ok constants => exact ⟨fun failed => (nomatch failed), fun failed => (nomatch failed)⟩
    | error other =>
      show Except.error other = .error fault ↔ Except.error other = .error fault
      simp
  rw [first, mapM_error_iff]
  simp only [Entries.link_ok_iff, Entries.link_error_iff]

theorem link_ok_iff_linkable :
    (∃ pool, link entries = .ok pool) ↔ ∀ entry ∈ entries, Linkable entries entry := by
  constructor
  · rintro ⟨pool, linked⟩ entry member
    have there : Entries.link entries.toArray entry ∈ pool.constants.toList.map Except.ok := by
      rw [← constants_of_link linked]
      exact List.mem_map_of_mem member
    obtain ⟨constant, _, found⟩ := List.mem_map.1 there
    exact Entries.link_ok_iff.1 ⟨constant, found.symm⟩
  · intro linkable
    cases linked : link entries with
    | ok pool => exact ⟨pool, rfl⟩
    | error fault =>
      obtain ⟨before, entry, later, split, _, refused⟩ := link_error_iff.1 linked
      have member : entry ∈ entries := split ▸ List.mem_append_right _ (List.mem_cons_self ..)
      exact (refused.not_linkable (linkable entry member)).elim

theorem entry_of_slot (linked : link entries = .ok pool) (i : Nat) :
    pool.constants[i]?.map Constant.entry = entries[i]? := by
  have same : entries = pool.entries := (link_ok.1 linked).2
  rw [same, Pool.entries, List.getElem?_map, Array.getElem?_toList]

/-- Linking succeeds exactly for the pools in which every reference leads to an entry that suits. The linked
pool has the same entries in the same places, and all that a constant carries is what the pool itself gives
for the index next to it. Linking fails with the fault of the first entry that cannot be linked. -/
theorem linking_sound_and_complete (entries : List Entry) :
    ((∃ pool, link entries = .ok pool) ↔ ∀ entry ∈ entries, Linkable entries entry) ∧
    (∀ pool, link entries = .ok pool →
      pool.size = entries.length ∧
      (∀ i : Nat, pool.constants[i]?.map Constant.entry = entries[i]?) ∧
      ∀ constant ∈ pool.constants, constant.Agrees pool) ∧
    ∀ fault, link entries = .error fault ↔
      ∃ before entry later, entries = before ++ entry :: later ∧
        (∀ earlier ∈ before, Linkable entries earlier) ∧ ¬ Linkable entries entry ∧
        Refuses entries entry fault := by
  refine ⟨link_ok_iff_linkable, ?_, ?_⟩
  · intro pool linked
    refine ⟨?_, entry_of_slot linked, agrees_of_link linked⟩
    have sameLength := congrArg List.length (constants_of_link linked)
    simpa [size] using sameLength.symm
  · intro fault
    rw [link_error_iff]
    constructor
    · rintro ⟨before, entry, later, split, linkable, refused⟩
      exact ⟨before, entry, later, split, linkable, refused.not_linkable, refused⟩
    · rintro ⟨before, entry, later, split, linkable, _, refused⟩
      exact ⟨before, entry, later, split, linkable, refused⟩

/-- A handle of an interface method, with all that it refers to. -/
def handleEntries : List Entry :=
  [.methodHandle 9 2, .interfaceMethodRef 3 5, .classRef 4, .utf8 "Counter", .nameAndType 6 7,
    .utf8 "bump", .utf8 "()V"]

theorem handleEntries_linked :
    ∃ pool, link handleEntries = .ok pool ∧ pool.size = 7 ∧
      ∀ constant ∈ pool.constants, constant.Agrees pool := by
  have succeeds : ∃ pool, link handleEntries = .ok pool := ⟨_, rfl⟩
  obtain ⟨pool, linked⟩ := succeeds
  obtain ⟨size, _, agrees⟩ := (linking_sound_and_complete handleEntries).2.1 pool linked
  exact ⟨pool, linked, size, agrees⟩

end Pool

end MiniJvm
