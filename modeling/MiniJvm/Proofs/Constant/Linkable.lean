import Mathlib.Tactic.Choose
import MiniJvm.Proofs.Layout.Pool

/-!
When an entry of the constant pool can be linked.

An entry refers to others by number, and each reference calls for an entry of a certain kind. An entry can
be linked when all its references hit such entries and these can be linked in turn. Otherwise its fault is
that of its first broken reference, followed to the end.
-/

namespace MiniJvm

open Effect

/-- An interface method will do where a method is called for. -/
def ConstantKind.Suits (wanted found : ConstantKind) : Prop :=
  found = wanted ∨ wanted = .methodRef ∧ found = .interfaceMethodRef

/-- What a method handle refers to: a field for the kinds 1 to 4 and a method for the kinds 5 to 9. There
are no other kinds. -/
def handleTarget? (kind : UInt8) : Option ConstantKind :=
  if 1 ≤ kind ∧ kind ≤ 4 then some .fieldRef
  else if 5 ≤ kind ∧ kind ≤ 9 then some .methodRef
  else none

structure Reference where
  index : UInt16
  wanted : ConstantKind

/-- The references of an entry, in the order in which they are followed. A method handle of an unknown kind
has no meaning. -/
def Entry.references? : Entry → Option (List Reference)
  | .classRef name => some [⟨name, .utf8⟩]
  | .string text => some [⟨text, .utf8⟩]
  | .nameAndType name descriptor => some [⟨name, .utf8⟩, ⟨descriptor, .utf8⟩]
  | .fieldRef owner member => some [⟨owner, .classRef⟩, ⟨member, .nameAndType⟩]
  | .methodRef owner member => some [⟨owner, .classRef⟩, ⟨member, .nameAndType⟩]
  | .interfaceMethodRef owner member => some [⟨owner, .classRef⟩, ⟨member, .nameAndType⟩]
  | .methodHandle kind index => (handleTarget? kind).map fun wanted => [⟨index, wanted⟩]
  | .invokeDynamic _ member => some [⟨member, .nameAndType⟩]
  | .utf8 _ | .integer _ | .float _ | .long _ | .double _ | .unusable => some []

namespace Entries

/-- Entry number `index`, counted from one. -/
def Holds (entries : List Entry) (index : UInt16) (entry : Entry) : Prop :=
  index ≠ 0 ∧ entries[index.toNat - 1]? = some entry

/-- The reference stands for an entry of the kind that it calls for. -/
def Hits (entries : List Entry) (reference : Reference) (target : Entry) : Prop :=
  Holds entries reference.index target ∧ reference.wanted.Suits target.kind

/-- All references hit, and what they hit can be linked in turn. -/
inductive Linkable (entries : List Entry) : Entry → Prop
  | intro {entry : Entry} {references : List Reference} (target : Reference → Entry)
      (made : entry.references? = some references)
      (hit : ∀ reference ∈ references, Hits entries reference (target reference))
      (linkable : ∀ reference ∈ references, Linkable entries (target reference)) :
      Linkable entries entry

def Leads (entries : List Entry) (reference : Reference) : Prop :=
  ∃ target, Hits entries reference target ∧ Linkable entries target

/-- What is wrong with a reference that does not hit. -/
inductive Misses (entries : List Entry) (reference : Reference) : Found → Prop
  | zero (zero : reference.index = 0) : Misses entries reference .zero
  | outOfRange (beyond : entries.length < reference.index.toNat) :
      Misses entries reference .outOfRange
  | other {target : Entry} (there : Holds entries reference.index target)
      (unsuited : ¬ reference.wanted.Suits target.kind) :
      Misses entries reference (.entry target.kind)

/-- The fault of an entry that cannot be linked: that of the first reference that leads nowhere. -/
inductive Refuses (entries : List Entry) : Entry → Fault → Prop
  | unknown {kind : UInt8} {index : UInt16} (unknown : handleTarget? kind = none) :
      Refuses entries (.methodHandle kind index) (.malformedClassFile (.handleKind kind))
  | misses {entry : Entry} {before later : List Reference} {reference : Reference} {found : Found}
      (made : entry.references? = some (before ++ reference :: later))
      (earlier : ∀ other ∈ before, Leads entries other) (misses : Misses entries reference found) :
      Refuses entries entry (.brokenReference reference.index (.entry reference.wanted) found)
  | follows {entry target : Entry} {before later : List Reference} {reference : Reference}
      {fault : Fault} (made : entry.references? = some (before ++ reference :: later))
      (earlier : ∀ other ∈ before, Leads entries other) (hit : Hits entries reference target)
      (refused : Refuses entries target fault) : Refuses entries entry fault

variable {entries : List Entry} {entry : Entry} {reference : Reference} {fault : Fault}

theorem Holds.unique {index : UInt16} {target other : Entry} (here : Holds entries index target)
    (there : Holds entries index other) : target = other :=
  Option.some.inj (here.2.symm.trans there.2)

theorem Holds.bound {index : UInt16} {target : Entry} (here : Holds entries index target) :
    index.toNat ≤ entries.length := by
  have inside := (List.getElem?_eq_some_iff.1 here.2).1
  omega

theorem Misses.not_hits {found : Found} {target : Entry} (misses : Misses entries reference found)
    (hit : Hits entries reference target) : False := by
  cases misses with
  | zero zero => exact hit.1.1 zero
  | outOfRange beyond =>
    have inside := hit.1.bound
    omega
  | other there unsuited => exact unsuited (hit.1.unique there ▸ hit.2)

theorem Misses.unique {found other : Found} (misses : Misses entries reference found)
    (again : Misses entries reference other) : found = other := by
  cases misses with
  | zero zero =>
    cases again with
    | zero _ => rfl
    | outOfRange beyond => simp [zero] at beyond
    | other there _ => exact absurd zero there.1
  | outOfRange beyond =>
    cases again with
    | zero zero => simp [zero] at beyond
    | outOfRange _ => rfl
    | other there _ =>
      have inside := there.bound
      omega
  | other there _ =>
    cases again with
    | zero zero => exact absurd zero there.1
    | outOfRange beyond =>
      have inside := there.bound
      omega
    | other alsoThere _ => rw [there.unique alsoThere]

theorem Linkable.leads (linkable : Linkable entries entry) {references : List Reference}
    (made : entry.references? = some references) :
    ∀ reference ∈ references, Leads entries reference := by
  obtain ⟨target, madeToo, hit, all⟩ := linkable
  cases Option.some.inj (made.symm.trans madeToo)
  intro reference member
  exact ⟨target reference, hit reference member, all reference member⟩

theorem linkable_of_leads {references : List Reference}
    (made : entry.references? = some references)
    (leads : ∀ reference ∈ references, Leads entries reference) : Linkable entries entry := by
  have followed (reference : Reference) :
      ∃ target, reference ∈ references → Hits entries reference target ∧ Linkable entries target := by
    by_cases member : reference ∈ references
    · obtain ⟨target, both⟩ := leads reference member
      exact ⟨target, fun _ => both⟩
    · exact ⟨.unusable, fun wrong => absurd wrong member⟩
  choose target both using followed
  exact ⟨target, made, fun reference member => (both reference member).1,
    fun reference member => (both reference member).2⟩

theorem Refuses.not_linkable (refused : Refuses entries entry fault) :
    ¬ Linkable entries entry := by
  intro linkable
  induction refused with
  | unknown unknown =>
    obtain ⟨_, made, _, _⟩ := linkable
    simp [Entry.references?, unknown] at made
  | misses made _ misses =>
    obtain ⟨target, hit, _⟩ := linkable.leads made _ (List.mem_append_right _ (List.mem_cons_self ..))
    exact misses.not_hits hit
  | follows made _ hit _ ih =>
    obtain ⟨target, hitToo, linkableTarget⟩ :=
      linkable.leads made _ (List.mem_append_right _ (List.mem_cons_self ..))
    exact ih (hit.1.unique hitToo.1 ▸ linkableTarget)

/-- Of two ways to split a list at an item that fails after items that do not, there is one. -/
theorem split_unique {α : Type} {good : α → Prop} {xs ys before later : List α} {x y : α}
    (same : xs ++ x :: ys = before ++ y :: later) (goodXs : ∀ item ∈ xs, good item)
    (goodBefore : ∀ item ∈ before, good item) (bad : ¬ good x) (badToo : ¬ good y) : x = y := by
  induction xs generalizing before with
  | nil =>
    cases before with
    | nil => exact (List.cons.inj same).1
    | cons first rest =>
      have first : x = first := (List.cons.inj same).1
      exact absurd (goodBefore x (first ▸ List.mem_cons_self ..)) bad
  | cons head tail ih =>
    cases before with
    | nil =>
      have first : head = y := (List.cons.inj same).1
      exact absurd (goodXs y (first ▸ List.mem_cons_self ..)) badToo
    | cons first rest =>
      exact ih (List.cons.inj same).2 (fun item member => goodXs item (List.mem_cons_of_mem _ member))
        fun item member => goodBefore item (List.mem_cons_of_mem _ member)

/-- A reference that leads nowhere, and the fault that comes of it. -/
def Breaks (entries : List Entry) (reference : Reference) (fault : Fault) : Prop :=
  (∃ found, Misses entries reference found ∧
    fault = .brokenReference reference.index (.entry reference.wanted) found) ∨
  ∃ target, Hits entries reference target ∧ Refuses entries target fault

theorem Breaks.not_leads (breaks : Breaks entries reference fault) : ¬ Leads entries reference := by
  rintro ⟨target, hit, linkable⟩
  rcases breaks with ⟨found, misses, _⟩ | ⟨other, hitToo, refused⟩
  · exact misses.not_hits hit
  · exact refused.not_linkable (hit.1.unique hitToo.1 ▸ linkable)

theorem refuses_of_breaks (before : List Reference) {later : List Reference}
    (made : entry.references? = some (before ++ reference :: later))
    (earlier : ∀ other ∈ before, Leads entries other) (breaks : Breaks entries reference fault) :
    Refuses entries entry fault := by
  rcases breaks with ⟨found, misses, rfl⟩ | ⟨target, hit, refused⟩
  · exact .misses made earlier misses
  · exact .follows made earlier hit refused

theorem Refuses.breaks {references : List Reference} (refused : Refuses entries entry fault)
    (made : entry.references? = some references) :
    ∃ before reference later, references = before ++ reference :: later ∧
      (∀ other ∈ before, Leads entries other) ∧ Breaks entries reference fault := by
  cases refused with
  | unknown unknown => simp [Entry.references?, unknown] at made
  | misses madeToo earlier misses =>
    exact ⟨_, _, _, Option.some.inj (made.symm.trans madeToo), earlier, .inl ⟨_, misses, rfl⟩⟩
  | follows madeToo earlier hit refused =>
    exact ⟨_, _, _, Option.some.inj (made.symm.trans madeToo), earlier, .inr ⟨_, hit, refused⟩⟩

theorem Refuses.unique {other : Fault} (refused : Refuses entries entry fault)
    (again : Refuses entries entry other) : fault = other := by
  induction refused with
  | unknown unknown =>
    cases again with
    | unknown _ => rfl
    | misses made _ _ => simp [Entry.references?, unknown] at made
    | follows made _ _ _ => simp [Entry.references?, unknown] at made
  | misses made earlier misses =>
    obtain ⟨_, _, _, same, earlierToo, breaks⟩ := again.breaks made
    have here := Breaks.not_leads (.inl ⟨_, misses, rfl⟩)
    cases split_unique same earlier earlierToo here breaks.not_leads
    rcases breaks with ⟨found, missesToo, rfl⟩ | ⟨target, hit, _⟩
    · rw [misses.unique missesToo]
    · exact (misses.not_hits hit).elim
  | follows made earlier hit refused ih =>
    obtain ⟨_, _, _, same, earlierToo, breaks⟩ := again.breaks made
    have here := Breaks.not_leads (.inr ⟨_, hit, refused⟩)
    cases split_unique same earlier earlierToo here breaks.not_leads
    rcases breaks with ⟨found, misses, _⟩ | ⟨target, hitToo, refusedToo⟩
    · exact (misses.not_hits hit).elim
    · exact ih (hit.1.unique hitToo.1 ▸ refusedToo)

/-! ### Linking one entry -/

variable {α β : Type}

/-- The result of following a reference: a value if it leads to an entry, or else its fault. -/
def Follows (entries : List Entry) (reference : Reference) : Except Fault α → Prop
  | .ok _ => Leads entries reference
  | .error fault => Breaks entries reference fault

/-- The result of linking an entry: a value if it can be linked, or else its fault. -/
def Settles (entries : List Entry) (entry : Entry) : Except Fault α → Prop
  | .ok _ => Linkable entries entry
  | .error fault => Refuses entries entry fault

theorem get_cases (entries : List Entry) (index : UInt16) (wanted : ConstantKind) :
    (∃ target, get entries.toArray index (.entry wanted) = .ok target ∧ Holds entries index target) ∨
      ∃ found, get entries.toArray index (.entry wanted) =
          .error (.brokenReference index (.entry wanted) found) ∧
        Misses entries ⟨index, wanted⟩ found := by
  unfold get
  by_cases zero : index = 0
  · rw [if_pos zero]
    exact .inr ⟨_, rfl, .zero zero⟩
  rw [if_neg zero, List.getElem?_toArray]
  cases there : entries[index.toNat - 1]? with
  | some target => exact .inl ⟨target, rfl, zero, there⟩
  | none =>
    refine .inr ⟨_, rfl, .outOfRange ?_⟩
    have beyond := List.getElem?_eq_none_iff.1 there
    have positive : index.toNat ≠ 0 := fun same => zero (UInt16.toNat_inj.1 same)
    show entries.length < index.toNat
    omega

/-- A reference is followed by looking at the entry of its number and linking it if it suits. -/
theorem follows_get {index : UInt16} {wanted : ConstantKind} {next : Entry → Except Fault α}
    (suited : ∀ target, wanted.Suits target.kind → Settles entries target (next target))
    (unsuited : ∀ target, ¬ wanted.Suits target.kind → next target = wrongKind index wanted target) :
    Follows entries ⟨index, wanted⟩ (get entries.toArray index (.entry wanted) >>= next) := by
  rcases get_cases entries index wanted with ⟨target, got, there⟩ | ⟨found, got, misses⟩
  · rw [got]
    show Follows entries ⟨index, wanted⟩ (next target)
    by_cases suits : wanted.Suits target.kind
    · have settles := suited target suits
      cases linked : next target with
      | ok value =>
        rw [linked] at settles
        exact ⟨target, ⟨there, suits⟩, settles⟩
      | error fault =>
        rw [linked] at settles
        exact .inr ⟨target, ⟨there, suits⟩, settles⟩
    · rw [unsuited target suits]
      exact .inl ⟨_, .other there suits, rfl⟩
  · rw [got]
    exact .inl ⟨found, misses, rfl⟩

theorem settles_plain {value : α} (plain : entry.references? = some []) :
    Settles entries entry (.ok value : Except Fault α) :=
  linkable_of_leads plain (by simp)

theorem Settles.map {result : Except Fault α} (settles : Settles entries entry result) (f : α → β) :
    Settles entries entry (result >>= fun value => pure (f value)) := by
  cases result with
  | ok value => exact settles
  | error fault => exact settles

theorem settles_one {result : Except Fault α} (made : entry.references? = some [reference])
    (follows : Follows entries reference result) (f : α → β) :
    Settles entries entry (result >>= fun value => pure (f value)) := by
  cases result with
  | ok value => exact linkable_of_leads made (List.forall_mem_singleton.2 follows)
  | error fault => exact refuses_of_breaks [] made (by simp) follows

theorem settles_two {second : Reference} {result : Except Fault α} {other : Except Fault β}
    {γ : Type} (made : entry.references? = some [reference, second])
    (follows : Follows entries reference result) (followsLast : Follows entries second other)
    (f : α → β → γ) :
    Settles entries entry (result >>= fun value => other >>= fun last => pure (f value last)) := by
  cases result with
  | error fault => exact refuses_of_breaks [] made (by simp) follows
  | ok value =>
    have leads : ∀ earlier ∈ [reference], Leads entries earlier := List.forall_mem_singleton.2 follows
    cases other with
    | error fault => exact refuses_of_breaks [reference] made leads followsLast
    | ok last =>
      refine linkable_of_leads made (List.forall_mem_cons.2 ⟨follows, ?_⟩)
      exact List.forall_mem_singleton.2 followsLast

theorem suits_iff {wanted : ConstantKind} (exact : wanted ≠ .methodRef) (found : ConstantKind) :
    wanted.Suits found ↔ found = wanted := by
  simp [ConstantKind.Suits, exact]

theorem follows_linkText (index : UInt16) :
    Follows entries ⟨index, .utf8⟩ (linkText entries.toArray index) := by
  refine follows_get (fun target suits => ?_) fun target unsuited => ?_
  · cases target with
    | utf8 text => exact settles_plain rfl
    | _ => simp [suits_iff, Entry.kind] at suits
  · cases target with
    | utf8 text => exact absurd (.inl rfl) unsuited
    | _ => rfl

theorem follows_linkClass (index : UInt16) :
    Follows entries ⟨index, .classRef⟩ (linkClass entries.toArray index) := by
  refine follows_get (fun target suits => ?_) fun target unsuited => ?_
  · cases target with
    | classRef name => exact settles_one rfl (follows_linkText name) (ClassRef.mk name)
    | _ => simp [suits_iff, Entry.kind] at suits
  · cases target with
    | classRef name => exact absurd (.inl rfl) unsuited
    | _ => rfl

theorem settles_linkNames (name descriptor : UInt16) :
    Settles entries (.nameAndType name descriptor) (linkNames entries.toArray name descriptor) :=
  settles_two rfl (follows_linkText name) (follows_linkText descriptor) (NameAndType.mk name descriptor)

theorem follows_linkNameAndType (index : UInt16) :
    Follows entries ⟨index, .nameAndType⟩ (linkNameAndType entries.toArray index) := by
  refine follows_get (fun target suits => ?_) fun target unsuited => ?_
  · cases target with
    | nameAndType name descriptor => exact settles_linkNames name descriptor
    | _ => simp [suits_iff, Entry.kind] at suits
  · cases target with
    | nameAndType name descriptor => exact absurd (.inl rfl) unsuited
    | _ => rfl

theorem settles_linkMember {owner member : UInt16}
    (made : entry.references? = some [⟨owner, .classRef⟩, ⟨member, .nameAndType⟩]) :
    Settles entries entry (linkMember entries.toArray owner member) :=
  settles_two made (follows_linkClass owner) (follows_linkNameAndType member)
    (MemberRef.mk owner member)

theorem follows_linkFieldTarget (index : UInt16) :
    Follows entries ⟨index, .fieldRef⟩ (linkFieldTarget entries.toArray index) := by
  refine follows_get (fun target suits => ?_) fun target unsuited => ?_
  · cases target with
    | fieldRef owner member => exact settles_linkMember rfl
    | _ => simp [suits_iff, Entry.kind] at suits
  · cases target with
    | fieldRef owner member => exact absurd (.inl rfl) unsuited
    | _ => rfl

theorem follows_linkMethodTarget (index : UInt16) :
    Follows entries ⟨index, .methodRef⟩ (linkMethodTarget entries.toArray index) := by
  refine follows_get (fun target suits => ?_) fun target unsuited => ?_
  · cases target with
    | methodRef owner member => exact settles_linkMember rfl
    | interfaceMethodRef owner member => exact settles_linkMember rfl
    | _ => simp [ConstantKind.Suits, Entry.kind] at suits
  · cases target with
    | methodRef owner member => exact absurd (.inl rfl) unsuited
    | interfaceMethodRef owner member => exact absurd (.inr ⟨rfl, rfl⟩) unsuited
    | _ => rfl

theorem settles_linkHandle (kind : UInt8) (index : UInt16) :
    Settles entries (.methodHandle kind index) (linkHandle entries.toArray kind index) := by
  unfold linkHandle
  by_cases field : 1 ≤ kind ∧ kind ≤ 4
  · rw [if_pos field]
    exact settles_one (by simp [Entry.references?, handleTarget?, field])
      (follows_linkFieldTarget index) (MethodHandle.mk kind index)
  rw [if_neg field]
  by_cases method : 5 ≤ kind ∧ kind ≤ 9
  · rw [if_pos method]
    exact settles_one (by simp [Entry.references?, handleTarget?, field, method])
      (follows_linkMethodTarget index) (MethodHandle.mk kind index)
  rw [if_neg method]
  exact .unknown (by simp [handleTarget?, field, method])

/-- Linking an entry gives a constant if the entry can be linked, and the fault of the entry if not. -/
theorem settles_link (entries : List Entry) (entry : Entry) :
    Settles entries entry (link entries.toArray entry) := by
  cases entry with
  | classRef name =>
    exact settles_one rfl (follows_linkText name) fun text => Constant.classRef ⟨name, text⟩
  | string text => exact settles_one rfl (follows_linkText text) (Constant.string text)
  | fieldRef owner member => exact (settles_linkMember rfl).map Constant.fieldRef
  | methodRef owner member => exact (settles_linkMember rfl).map Constant.methodRef
  | interfaceMethodRef owner member => exact (settles_linkMember rfl).map Constant.interfaceMethodRef
  | nameAndType name descriptor => exact (settles_linkNames name descriptor).map Constant.nameAndType
  | methodHandle kind index => exact (settles_linkHandle kind index).map Constant.methodHandle
  | invokeDynamic bootstrap member =>
    exact settles_one rfl (follows_linkNameAndType member) fun pair =>
      Constant.invokeDynamic ⟨bootstrap, member, pair⟩
  | _ => exact settles_plain rfl

theorem link_ok_iff : (∃ constant, link entries.toArray entry = .ok constant) ↔
    Linkable entries entry := by
  have settles := settles_link entries entry
  cases linked : link entries.toArray entry with
  | ok constant =>
    rw [linked] at settles
    exact ⟨fun _ => settles, fun _ => ⟨constant, rfl⟩⟩
  | error fault =>
    rw [linked] at settles
    constructor
    · rintro ⟨_, wrong⟩
      cases wrong
    · intro linkable
      exact (settles.not_linkable linkable).elim

theorem link_error_iff : link entries.toArray entry = .error fault ↔ Refuses entries entry fault := by
  have settles := settles_link entries entry
  cases linked : link entries.toArray entry with
  | ok constant =>
    rw [linked] at settles
    constructor
    · intro wrong
      cases wrong
    · intro refused
      exact (refused.not_linkable settles).elim
  | error other =>
    rw [linked] at settles
    constructor
    · intro same
      cases same
      exact settles
    · intro refused
      rw [settles.unique refused]

end Entries

end MiniJvm
