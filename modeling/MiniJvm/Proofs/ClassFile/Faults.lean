import MiniJvm.ClassFile.Basic

/-!
What can go wrong with a class file. Reading and linking fail only for reasons that lie in the file: it
ends too early, breaks its format, uses an unknown constant, or refers to a constant that is not there.
-/

namespace MiniJvm

namespace Effect

variable {ε σ α β : Type} {allowed : ε → Prop}

/-- Every failure of a computation has an allowed cause. -/
def FailsOnly (allowed : ε → Prop) (run : EStateM ε σ α) : Prop :=
  ∀ ⦃s t : σ⦄ ⦃e : ε⦄, run s = .error e t → allowed e

/-- A result is a value or has an allowed cause. -/
def ErrsOnly (allowed : ε → Prop) (result : Except ε α) : Prop :=
  ∀ ⦃e : ε⦄, result = .error e → allowed e

theorem failsOnly_pure (value : α) : FailsOnly allowed (pure value : EStateM ε σ α) := by
  intro s t e failed
  cases failed

theorem failsOnly_throw {e : ε} (cause : allowed e) :
    FailsOnly allowed (throw e : EStateM ε σ α) := by
  intro s t e' failed
  cases failed
  exact cause

theorem failsOnly_throw_bind {e : ε} {next : α → EStateM ε σ β} (cause : allowed e) :
    FailsOnly allowed (throw e >>= next) := by
  intro s t e' failed
  cases failed
  exact cause

theorem failsOnly_bind {first : EStateM ε σ α} {next : α → EStateM ε σ β}
    (start : FailsOnly allowed first) (rest : ∀ value, FailsOnly allowed (next value)) :
    FailsOnly allowed (first >>= next) := by
  intro s t e failed
  rcases bind_error.1 failed with early | ⟨value, u, _, late⟩
  · exact start early
  · exact rest value late

theorem failsOnly_map {run : EStateM ε σ α} (f : α → β) (only : FailsOnly allowed run) :
    FailsOnly allowed (f <$> run) := by
  intro s t e failed
  change EStateM.map f run s = .error e t at failed
  unfold EStateM.map at failed
  split at failed
  · cases failed
  · rename_i cause
    cases failed
    exact only cause

theorem failsOnly_ite {c : Prop} [Decidable c] {yes no : EStateM ε σ α}
    (holds : FailsOnly allowed yes) (fails : FailsOnly allowed no) :
    FailsOnly allowed (if c then yes else no) := by
  by_cases h : c
  · rwa [if_pos h]
  · rwa [if_neg h]

theorem errsOnly_ok (value : α) : ErrsOnly allowed (.ok value : Except ε α) := by
  intro e failed
  cases failed

theorem errsOnly_error {e : ε} (cause : allowed e) : ErrsOnly allowed (.error e : Except ε α) := by
  intro e' failed
  cases failed
  exact cause

theorem errsOnly_bind {first : Except ε α} {next : α → Except ε β}
    (start : ErrsOnly allowed first) (rest : ∀ value, ErrsOnly allowed (next value)) :
    ErrsOnly allowed (first >>= next) := by
  cases first with
  | ok value => exact rest value
  | error cause =>
    intro e failed
    cases failed
    exact start rfl

theorem errsOnly_ite {c : Prop} [Decidable c] {yes no : Except ε α}
    (holds : ErrsOnly allowed yes) (fails : ErrsOnly allowed no) :
    ErrsOnly allowed (if c then yes else no) := by
  by_cases h : c
  · rwa [if_pos h]
  · rwa [if_neg h]

theorem errsOnly_mapM {f : α → Except ε β} {items : List α}
    (each : ∀ item ∈ items, ErrsOnly allowed (f item)) : ErrsOnly allowed (items.mapM f) := by
  induction items with
  | nil => exact errsOnly_ok []
  | cons head tail ih =>
    rw [List.mapM_cons]
    refine errsOnly_bind (each head (by simp)) fun value => ?_
    exact errsOnly_bind (ih fun item member => each item (by simp [member])) fun values =>
      errsOnly_ok (value :: values)

theorem errsOnly_foldlM {f : β → α → Except ε β} (each : ∀ acc item, ErrsOnly allowed (f acc item))
    (items : List α) (acc : β) : ErrsOnly allowed (items.foldlM f acc) := by
  induction items generalizing acc with
  | nil => exact errsOnly_ok acc
  | cons head tail ih =>
    rw [List.foldlM_cons]
    exact errsOnly_bind (each acc head) ih

end Effect

open Effect

/-- The cause lies in a class file. -/
def Fault.OfFile : Fault → Prop
  | .unexpectedEnd .. | .malformedClassFile _ | .unsupportedConstantTag .. | .brokenReference .. =>
    True
  | _ => False

namespace Cursor

theorem failsOnly_take (count : Nat) : FailsOnly Fault.OfFile (take count) := by
  intro c d fault failed
  unfold take at failed
  split at failed
  · cases failed
  · cases failed
    trivial

theorem failsOnly_number (width : Nat) : FailsOnly Fault.OfFile (number width) :=
  failsOnly_bind (failsOnly_take width) fun _ => failsOnly_pure _

theorem failsOnly_u1 : FailsOnly Fault.OfFile u1 := failsOnly_map _ (failsOnly_number 1)

theorem failsOnly_u2 : FailsOnly Fault.OfFile u2 := failsOnly_map _ (failsOnly_number 2)

theorem failsOnly_u4 : FailsOnly Fault.OfFile u4 := failsOnly_map _ (failsOnly_number 4)

theorem failsOnly_times {α : Type} {item : Decode α} (each : FailsOnly Fault.OfFile item)
    (count : Nat) : FailsOnly Fault.OfFile (times count item) := by
  induction count with
  | zero => exact failsOnly_pure []
  | succ count ih =>
    exact failsOnly_bind each fun first => failsOnly_bind ih fun others =>
      failsOnly_pure (first :: others)

theorem failsOnly_counted {α : Type} {item : Decode α} (each : FailsOnly Fault.OfFile item) :
    FailsOnly Fault.OfFile (counted item) :=
  failsOnly_bind failsOnly_u2 fun count => failsOnly_times each count.toNat

theorem failsOnly_check {α : Type} {result : Except Fault α}
    (only : ErrsOnly Fault.OfFile result) : FailsOnly Fault.OfFile (Cursor.check result) := by
  intro c d fault failed
  unfold Cursor.check at failed
  split at failed
  · cases failed
  · cases failed
    exact only rfl

end Cursor

open Cursor

namespace Entry

theorem failsOnly_word64 : FailsOnly Fault.OfFile word64 :=
  failsOnly_bind failsOnly_u4 fun _ => failsOnly_bind failsOnly_u4 fun _ => failsOnly_pure _

theorem failsOnly_readText (index : UInt16) : FailsOnly Fault.OfFile (readText index) := by
  refine failsOnly_bind failsOnly_u2 fun length => failsOnly_bind (failsOnly_take _) fun bytes => ?_
  split
  · exact failsOnly_pure _
  · exact failsOnly_throw trivial

theorem failsOnly_readPair (make : UInt16 → UInt16 → Entry) :
    FailsOnly Fault.OfFile (readPair make) :=
  failsOnly_bind failsOnly_u2 fun _ => failsOnly_bind failsOnly_u2 fun _ => failsOnly_pure _

theorem failsOnly_read (index : UInt16) : FailsOnly Fault.OfFile (read index) := by
  refine failsOnly_bind failsOnly_u1 fun tag => ?_
  refine failsOnly_ite (failsOnly_bind (failsOnly_readText index) fun _ => failsOnly_pure _) ?_
  refine failsOnly_ite (failsOnly_bind failsOnly_u4 fun _ => failsOnly_pure _) ?_
  refine failsOnly_ite (failsOnly_bind failsOnly_u4 fun _ => failsOnly_pure _) ?_
  refine failsOnly_ite (failsOnly_bind failsOnly_word64 fun _ => failsOnly_pure _) ?_
  refine failsOnly_ite (failsOnly_bind failsOnly_word64 fun _ => failsOnly_pure _) ?_
  refine failsOnly_ite (failsOnly_bind failsOnly_u2 fun _ => failsOnly_pure _) ?_
  refine failsOnly_ite (failsOnly_bind failsOnly_u2 fun _ => failsOnly_pure _) ?_
  refine failsOnly_ite (failsOnly_readPair _) (failsOnly_ite (failsOnly_readPair _) ?_)
  refine failsOnly_ite (failsOnly_readPair _) (failsOnly_ite (failsOnly_readPair _) ?_)
  refine failsOnly_ite (failsOnly_bind failsOnly_u1 fun _ => ?_) ?_
  · exact failsOnly_bind failsOnly_u2 fun _ => failsOnly_pure _
  · exact failsOnly_ite (failsOnly_readPair _) (failsOnly_throw trivial)

theorem failsOnly_readSlots (count : UInt16) :
    (slots : Nat) → (index : UInt16) → FailsOnly Fault.OfFile (readSlots count slots index)
  | 0, _ => failsOnly_pure []
  | slots + 1, index => by
    unfold readSlots
    refine failsOnly_bind (failsOnly_read index) fun entry => failsOnly_ite ?_ ?_
    · cases slots with
      | zero => exact failsOnly_throw trivial
      | succ slots =>
        exact failsOnly_bind (failsOnly_readSlots count slots (index + 2)) fun _ => failsOnly_pure _
    · exact failsOnly_bind (failsOnly_readSlots count slots (index + 1)) fun _ => failsOnly_pure _

theorem failsOnly_readPool : FailsOnly Fault.OfFile readPool :=
  failsOnly_bind failsOnly_u2 fun _ => failsOnly_readSlots _ _ _

end Entry

namespace RawClass

theorem failsOnly_readAttributes : FailsOnly Fault.OfFile RawAttribute.readAll :=
  failsOnly_counted <| failsOnly_bind failsOnly_u2 fun _ => failsOnly_bind failsOnly_u4 fun _ =>
    failsOnly_bind (failsOnly_take _) fun _ => failsOnly_pure _

theorem failsOnly_readMember : FailsOnly Fault.OfFile RawMember.read :=
  failsOnly_bind failsOnly_u2 fun _ => failsOnly_bind failsOnly_u2 fun _ =>
    failsOnly_bind failsOnly_u2 fun _ => failsOnly_bind failsOnly_readAttributes fun _ =>
      failsOnly_pure _

theorem failsOnly_readVersion : FailsOnly Fault.OfFile readVersion := by
  refine failsOnly_bind failsOnly_u4 fun word => failsOnly_ite (failsOnly_throw_bind trivial) ?_
  refine failsOnly_bind failsOnly_u2 fun minor => failsOnly_bind failsOnly_u2 fun major => ?_
  exact failsOnly_ite (failsOnly_throw_bind trivial) (failsOnly_pure _)

theorem failsOnly_readInterfaces : FailsOnly Fault.OfFile readInterfaces :=
  failsOnly_bind failsOnly_u2 fun _ => failsOnly_ite (failsOnly_throw trivial) (failsOnly_pure _)

theorem failsOnly_read : FailsOnly Fault.OfFile read :=
  failsOnly_bind failsOnly_readVersion fun _ => failsOnly_bind Entry.failsOnly_readPool fun _ =>
    failsOnly_bind failsOnly_u2 fun _ => failsOnly_bind failsOnly_u2 fun _ =>
    failsOnly_bind failsOnly_u2 fun _ => failsOnly_bind failsOnly_readInterfaces fun _ =>
    failsOnly_bind (failsOnly_counted failsOnly_readMember) fun _ =>
    failsOnly_bind (failsOnly_counted failsOnly_readMember) fun _ =>
    failsOnly_bind failsOnly_readAttributes fun _ => failsOnly_pure _

end RawClass

namespace Entries

theorem errsOnly_get (entries : Entries) (index : UInt16) (wanted : Wanted) :
    ErrsOnly Fault.OfFile (entries.get index wanted) := by
  refine errsOnly_ite (errsOnly_error trivial) ?_
  split
  · exact errsOnly_ok _
  · exact errsOnly_error trivial

theorem errsOnly_linkText (entries : Entries) (index : UInt16) :
    ErrsOnly Fault.OfFile (entries.linkText index) := by
  refine errsOnly_bind (entries.errsOnly_get index _) fun entry => ?_
  cases entry with
  | utf8 text => exact errsOnly_ok _
  | _ => exact errsOnly_error trivial

theorem errsOnly_linkClass (entries : Entries) (index : UInt16) :
    ErrsOnly Fault.OfFile (entries.linkClass index) := by
  refine errsOnly_bind (entries.errsOnly_get index _) fun entry => ?_
  cases entry with
  | classRef nameIndex =>
    exact errsOnly_bind (entries.errsOnly_linkText nameIndex) fun _ => errsOnly_ok _
  | _ => exact errsOnly_error trivial

theorem errsOnly_linkNames (entries : Entries) (name descriptor : UInt16) :
    ErrsOnly Fault.OfFile (entries.linkNames name descriptor) :=
  errsOnly_bind (entries.errsOnly_linkText name) fun _ =>
    errsOnly_bind (entries.errsOnly_linkText descriptor) fun _ => errsOnly_ok _

theorem errsOnly_linkNameAndType (entries : Entries) (index : UInt16) :
    ErrsOnly Fault.OfFile (entries.linkNameAndType index) := by
  refine errsOnly_bind (entries.errsOnly_get index _) fun entry => ?_
  cases entry with
  | nameAndType name descriptor => exact entries.errsOnly_linkNames name descriptor
  | _ => exact errsOnly_error trivial

theorem errsOnly_linkMember (entries : Entries) (owner member : UInt16) :
    ErrsOnly Fault.OfFile (entries.linkMember owner member) :=
  errsOnly_bind (entries.errsOnly_linkClass owner) fun _ =>
    errsOnly_bind (entries.errsOnly_linkNameAndType member) fun _ => errsOnly_ok _

theorem errsOnly_linkHandle (entries : Entries) (kind : UInt8) (index : UInt16) :
    ErrsOnly Fault.OfFile (entries.linkHandle kind index) := by
  refine errsOnly_ite ?_ (errsOnly_ite ?_ (errsOnly_error trivial))
  · refine errsOnly_bind (errsOnly_bind (entries.errsOnly_get index _) fun entry => ?_) fun _ =>
      errsOnly_ok _
    cases entry with
    | fieldRef owner member => exact entries.errsOnly_linkMember owner member
    | _ => exact errsOnly_error trivial
  · refine errsOnly_bind (errsOnly_bind (entries.errsOnly_get index _) fun entry => ?_) fun _ =>
      errsOnly_ok _
    cases entry with
    | methodRef owner member => exact entries.errsOnly_linkMember owner member
    | interfaceMethodRef owner member => exact entries.errsOnly_linkMember owner member
    | _ => exact errsOnly_error trivial

theorem errsOnly_link (entries : Entries) (entry : Entry) :
    ErrsOnly Fault.OfFile (entries.link entry) := by
  cases entry with
  | classRef name => exact errsOnly_bind (entries.errsOnly_linkText name) fun _ => errsOnly_ok _
  | string text => exact errsOnly_bind (entries.errsOnly_linkText text) fun _ => errsOnly_ok _
  | fieldRef owner member =>
    exact errsOnly_bind (entries.errsOnly_linkMember owner member) fun _ => errsOnly_ok _
  | methodRef owner member =>
    exact errsOnly_bind (entries.errsOnly_linkMember owner member) fun _ => errsOnly_ok _
  | interfaceMethodRef owner member =>
    exact errsOnly_bind (entries.errsOnly_linkMember owner member) fun _ => errsOnly_ok _
  | nameAndType name descriptor =>
    exact errsOnly_bind (entries.errsOnly_linkNames name descriptor) fun _ => errsOnly_ok _
  | methodHandle kind index =>
    exact errsOnly_bind (entries.errsOnly_linkHandle kind index) fun _ => errsOnly_ok _
  | invokeDynamic bootstrap member =>
    exact errsOnly_bind (entries.errsOnly_linkNameAndType member) fun _ => errsOnly_ok _
  | _ => exact errsOnly_ok _

end Entries

namespace Pool

theorem errsOnly_link (entries : List Entry) : ErrsOnly Fault.OfFile (Pool.link entries) :=
  errsOnly_bind (errsOnly_mapM fun entry _ => Entries.errsOnly_link _ entry) fun _ => errsOnly_ok _

theorem errsOnly_get (pool : Pool) (index : UInt16) : ErrsOnly Fault.OfFile (pool.get index) := by
  refine errsOnly_ite (errsOnly_error trivial) ?_
  split
  · exact errsOnly_error trivial
  · exact errsOnly_ok _
  · exact errsOnly_error trivial

theorem errsOnly_utf8 (pool : Pool) (index : UInt16) : ErrsOnly Fault.OfFile (pool.utf8 index) := by
  refine errsOnly_bind (pool.errsOnly_get index) fun constant => ?_
  cases constant with
  | utf8 text => exact errsOnly_ok _
  | _ => exact errsOnly_error trivial

theorem errsOnly_classRef (pool : Pool) (index : UInt16) :
    ErrsOnly Fault.OfFile (pool.classRef index) := by
  refine errsOnly_bind (pool.errsOnly_get index) fun constant => ?_
  cases constant with
  | classRef ref => exact errsOnly_ok _
  | _ => exact errsOnly_error trivial

theorem errsOnly_className (pool : Pool) (index : UInt16) :
    ErrsOnly Fault.OfFile (pool.className index) :=
  errsOnly_bind (pool.errsOnly_classRef index) fun _ => errsOnly_ok _

theorem errsOnly_fieldRef (pool : Pool) (index : UInt16) :
    ErrsOnly Fault.OfFile (pool.fieldRef index) := by
  refine errsOnly_bind (pool.errsOnly_get index) fun constant => ?_
  cases constant with
  | fieldRef member => exact errsOnly_ok _
  | _ => exact errsOnly_error trivial

theorem errsOnly_methodRef (pool : Pool) (index : UInt16) :
    ErrsOnly Fault.OfFile (pool.methodRef index) := by
  refine errsOnly_bind (pool.errsOnly_get index) fun constant => ?_
  cases constant with
  | methodRef member => exact errsOnly_ok _
  | interfaceMethodRef member => exact errsOnly_ok _
  | _ => exact errsOnly_error trivial

theorem errsOnly_methodHandle (pool : Pool) (index : UInt16) :
    ErrsOnly Fault.OfFile (pool.methodHandle index) := by
  refine errsOnly_bind (pool.errsOnly_get index) fun constant => ?_
  cases constant with
  | methodHandle handle => exact errsOnly_ok _
  | _ => exact errsOnly_error trivial

theorem errsOnly_callSite (pool : Pool) (index : UInt16) :
    ErrsOnly Fault.OfFile (pool.callSite index) := by
  refine errsOnly_bind (pool.errsOnly_get index) fun constant => ?_
  cases constant with
  | invokeDynamic site => exact errsOnly_ok _
  | _ => exact errsOnly_error trivial

theorem errsOnly_checkLoadable (pool : Pool) (index : UInt16) :
    ErrsOnly Fault.OfFile (pool.checkLoadable index) := by
  refine errsOnly_bind (pool.errsOnly_get index) fun constant => ?_
  cases constant with
  | utf8 text => exact errsOnly_error trivial
  | nameAndType pair => exact errsOnly_error trivial
  | _ => exact errsOnly_ok _

end Pool

namespace Attribute

theorem errsOnly_checkUsedUp (name : String) (unread : Nat) :
    ErrsOnly Fault.OfFile (checkUsedUp name unread) :=
  errsOnly_ite (errsOnly_ok _) (errsOnly_error trivial)

theorem errsOnly_decode {α : Type} {read : Decode α} (name : String) (payload : Array UInt8)
    (only : FailsOnly Fault.OfFile read) : ErrsOnly Fault.OfFile (decode name payload read) := by
  unfold decode
  split
  · exact errsOnly_bind (errsOnly_checkUsedUp name _) fun _ => errsOnly_ok _
  · rename_i fault c failed
    exact errsOnly_error (only failed)

theorem failsOnly_readBootstrap (pool : Pool) : FailsOnly Fault.OfFile (BootstrapMethod.read pool) :=
  failsOnly_bind failsOnly_u2 fun handle =>
    failsOnly_bind (failsOnly_check (pool.errsOnly_methodHandle handle)) fun _ =>
    failsOnly_bind (failsOnly_counted <| failsOnly_bind failsOnly_u2 fun index =>
      failsOnly_bind (failsOnly_check (pool.errsOnly_checkLoadable index)) fun _ =>
      failsOnly_pure _) fun _ => failsOnly_pure _

theorem failsOnly_readCode : FailsOnly Fault.OfFile CodeLayout.read :=
  failsOnly_bind failsOnly_u2 fun _ => failsOnly_bind failsOnly_u2 fun _ =>
    failsOnly_bind failsOnly_u4 fun _ => failsOnly_bind (failsOnly_take _) fun _ =>
    failsOnly_bind (failsOnly_counted <| failsOnly_bind failsOnly_u2 fun _ =>
      failsOnly_bind failsOnly_u2 fun _ => failsOnly_bind failsOnly_u2 fun _ =>
      failsOnly_bind failsOnly_u2 fun _ => failsOnly_pure _) fun _ =>
    failsOnly_bind RawClass.failsOnly_readAttributes fun _ => failsOnly_pure _

theorem errsOnly_link (pool : Pool) (raw : RawAttribute) :
    ErrsOnly Fault.OfFile (link pool raw) := by
  fun_induction link pool raw with
  | case1 raw ih =>
    refine errsOnly_bind (pool.errsOnly_utf8 raw.nameIndex) fun name => ?_
    refine errsOnly_ite ?_ (errsOnly_ite ?_ (errsOnly_ite ?_ (errsOnly_ite ?_ (errsOnly_ok _))))
    · split
      · rename_i fault c failed
        exact errsOnly_error (failsOnly_readCode failed)
      · rename_i body c stored
        refine errsOnly_bind (errsOnly_mapM fun nested _ => ih body c stored nested) fun _ => ?_
        exact errsOnly_bind (errsOnly_checkUsedUp name _) fun _ => errsOnly_ok _
    · have lines : FailsOnly Fault.OfFile (Cursor.counted LineNumber.read) :=
        failsOnly_counted <| failsOnly_bind failsOnly_u2 fun _ => failsOnly_bind failsOnly_u2 fun _ =>
          failsOnly_pure _
      exact errsOnly_bind (errsOnly_decode name _ lines) fun _ => errsOnly_ok _
    · refine errsOnly_bind (errsOnly_decode name _ failsOnly_u2) fun index => ?_
      exact errsOnly_bind (pool.errsOnly_utf8 index) fun _ => errsOnly_ok _
    · have methods := failsOnly_counted (failsOnly_readBootstrap pool)
      exact errsOnly_bind (errsOnly_decode name _ methods) fun _ => errsOnly_ok _

end Attribute

theorem RawMember.errsOnly_link (pool : Pool) (raw : RawMember) :
    ErrsOnly Fault.OfFile (raw.link pool) :=
  errsOnly_bind (pool.errsOnly_utf8 _) fun _ => errsOnly_bind (pool.errsOnly_utf8 _) fun _ =>
    errsOnly_bind (errsOnly_mapM fun nested _ => Attribute.errsOnly_link pool nested) fun _ =>
    errsOnly_ok _

theorem RawClass.errsOnly_link (raw : RawClass) : ErrsOnly Fault.OfFile raw.link := by
  refine errsOnly_bind (Pool.errsOnly_link raw.entries) fun pool => ?_
  refine errsOnly_bind (pool.errsOnly_className raw.thisClass) fun name => ?_
  refine errsOnly_bind (errsOnly_ite ?_ (errsOnly_ok _)) fun _ => ?_
  · exact errsOnly_bind (pool.errsOnly_classRef raw.superClass) fun _ => errsOnly_ok _
  have members (raws : List RawMember) : ErrsOnly Fault.OfFile (raws.mapM (RawMember.link pool)) :=
    errsOnly_mapM fun member _ => RawMember.errsOnly_link pool member
  refine errsOnly_bind (members raw.fields) fun _ => errsOnly_bind (members raw.methods) fun _ => ?_
  exact errsOnly_bind (errsOnly_mapM fun nested _ => Attribute.errsOnly_link pool nested)
    fun _ => errsOnly_ok _

/-- Only the file itself can be the reason for which a class file is refused. -/
theorem ClassFile.errsOnly_parse (bytes : Array UInt8) :
    ErrsOnly Fault.OfFile (ClassFile.parse bytes) := by
  unfold ClassFile.parse
  split
  · rename_i fault c failed
    exact errsOnly_error (RawClass.failsOnly_read failed)
  · rename_i raw c stored
    exact errsOnly_ite raw.errsOnly_link (errsOnly_error trivial)

end MiniJvm
