import MiniJvm.Proofs.Machine.Decoding

/-!
Relations between shared states that computations do not see through. Such a relation gives both states the
same heap and the same static instances, and every elementary action leads from related states to related
ones with the same result. Finding a class is such an action only for the names that programs may give to
classes; an instruction asks for no others.
-/

namespace MiniJvm

namespace Effect

variable {ε σ α β : Type} {R : σ → σ → Prop}

/-- The same value or the same fault, and states that are related. -/
inductive Coincide (R : σ → σ → Prop) : EStateM.Result ε σ α → EStateM.Result ε σ α → Prop
  | ok {value : α} {s t : σ} (related : R s t) : Coincide R (.ok value s) (.ok value t)
  | error {fault : ε} {s t : σ} (related : R s t) : Coincide R (.error fault s) (.error fault t)

theorem Coincide.mono {weaker : σ → σ → Prop} {left right : EStateM.Result ε σ α}
    (coincide : Coincide R left right) (implies : ∀ s t, R s t → weaker s t) :
    Coincide weaker left right := by
  cases coincide with
  | ok related => exact .ok (implies _ _ related)
  | error related => exact .error (implies _ _ related)

theorem Coincide.final {left right : EStateM.Result ε σ α} (coincide : Coincide R left right) :
    R (Effect.final left) (Effect.final right) := by
  cases coincide with
  | ok related => exact related
  | error related => exact related

theorem Coincide.value?_eq {left right : EStateM.Result ε σ α} (coincide : Coincide R left right) :
    value? left = value? right := by
  cases coincide with
  | ok related => rfl
  | error related => rfl

/-- Run from related states, the computation has coinciding results. -/
def Respects (R : σ → σ → Prop) (run : EStateM ε σ α) : Prop :=
  ∀ ⦃s t : σ⦄, R s t → Coincide R (run s) (run t)

theorem respects_pure (value : α) : Respects R (pure value : EStateM ε σ α) :=
  fun _ _ related => .ok related

theorem respects_throw (fault : ε) : Respects R (throw fault : EStateM ε σ α) :=
  fun _ _ related => .error related

theorem respects_throw_bind (fault : ε) (next : α → EStateM ε σ β) :
    Respects R (throw fault >>= next) :=
  fun _ _ related => .error related

/-- From one pair of states, only what the first part really gives matters to the rest. -/
theorem coincide_bind {first : EStateM ε σ α} {next : α → EStateM ε σ β} {s t : σ}
    (start : Coincide R (first s) (first t))
    (rest : ∀ value later later', first s = .ok value later → R later later' →
      Coincide R (next value later) (next value later')) :
    Coincide R ((first >>= next) s) ((first >>= next) t) := by
  show Coincide R (EStateM.bind first next s) (EStateM.bind first next t)
  unfold EStateM.bind
  generalize result : first s = left, first t = right at start ⊢
  cases start with
  | ok still => exact rest _ _ _ result still
  | error still => exact .error still

theorem respects_bind {first : EStateM ε σ α} {next : α → EStateM ε σ β} (start : Respects R first)
    (rest : ∀ value, Respects R (next value)) : Respects R (first >>= next) :=
  fun _ _ related => coincide_bind (start related) fun value _ _ _ still => rest value still

theorem respects_map (f : α → β) {run : EStateM ε σ α} (respects : Respects R run) :
    Respects R (f <$> run) := by
  rw [← bind_pure_comp]
  exact respects_bind respects fun value => respects_pure (f value)

theorem respects_ite {c : Prop} [Decidable c] {yes no : EStateM ε σ α}
    (holds : c → Respects R yes) (fails : ¬ c → Respects R no) :
    Respects R (if c then yes else no) := by
  by_cases h : c
  · rw [if_pos h]
    exact holds h
  · rw [if_neg h]
    exact fails h

end Effect

open Effect

namespace Shared

variable {α : Type} {R : Shared → Shared → Prop}

/-- A relation that no elementary action sees through, finding a class apart. -/
structure Hidden (R : Shared → Shared → Prop) : Prop where
  heap : ∀ ⦃s t : Shared⦄, R s t → s.heap = t.heap
  statics : ∀ ⦃s t : Shared⦄, R s t → s.statics = t.statics
  report : ∀ event, Respects R (Shared.report event)
  changeHeap : ∀ change, Respects R (Shared.changeHeap change)
  register : ∀ name address, Respects R (Shared.register name address)
  write : ∀ text, Respects R (Shared.write text)
  writeError : ∀ text, Respects R (Shared.writeError text)
  flush : Respects R Shared.flush

/-- A relation that no instruction sees through. -/
structure Unseen (R : Shared → Shared → Prop) : Prop extends Hidden R where
  load : ∀ name, Platform.isPlatform name = false → Respects R (Shared.load name)

/-- A class of this name is found alike from related states. Platform classes are never looked for. -/
def Finds (R : Shared → Shared → Prop) (name : String) : Prop :=
  Platform.isPlatform name = false → Respects R (Shared.load name)

theorem Hidden.asking (hidden : Hidden R) (question : Heap → Except Fault α) :
    Respects R (Shared.asking question) := by
  intro s t related
  unfold Shared.asking
  rw [hidden.heap related]
  cases question t.heap with
  | ok answer => exact .ok related
  | error fault => exact .error related

theorem Hidden.allocate (hidden : Hidden R) (object : HeapObject) :
    Respects R (Shared.allocate object) := by
  intro s t related
  unfold Shared.allocate
  cases hidden.changeHeap (·.push object) related with
  | ok still =>
    rw [congrArg Heap.size (hidden.heap related)]
    exact .ok still

theorem Hidden.setField (hidden : Hidden R) (address : Nat) (name : String) (value : Value) :
    Respects R (Shared.setField address name value) :=
  respects_bind (hidden.asking _) fun _ => hidden.changeHeap _

theorem Hidden.setInt (hidden : Hidden R) (address : Nat) (index value : Int32) :
    Respects R (Shared.setInt address index value) :=
  respects_bind (hidden.asking _) fun slot => respects_bind (hidden.changeHeap _) fun _ =>
    respects_pure slot

theorem Hidden.setChar (hidden : Hidden R) (address : Nat) (index : Int32) (unit : UInt16) :
    Respects R (Shared.setChar address index unit) :=
  respects_bind (hidden.asking _) fun slot => respects_bind (hidden.changeHeap _) fun _ =>
    respects_pure slot

theorem Hidden.platformStatics (hidden : Hidden R) (className : String) :
    Respects R (Platform.statics className) := by
  apply respects_ite
  · intro _
    exact respects_bind (hidden.allocate _) fun _ => respects_bind (hidden.allocate _) fun _ =>
      respects_pure _
  · intro _
    exact respects_pure []

theorem Hidden.printed (hidden : Hidden R) (arguments : List Value) :
    Respects R (Platform.printed arguments) := by
  unfold Platform.printed
  split
  · exact respects_pure ""
  · exact hidden.asking _
  · exact respects_throw _

theorem Hidden.streamNumber? (hidden : Hidden R) (receiver : Value) :
    Respects R (Platform.streamNumber? receiver) := by
  unfold Platform.streamNumber?
  split
  · exact hidden.asking _
  · exact respects_pure none

theorem Hidden.print (hidden : Hidden R) (newline : Bool) (arguments : List Value) :
    Respects R (Platform.print newline arguments) := by
  unfold Platform.print
  split
  · exact respects_throw _
  next receiver rest =>
    apply respects_bind (hidden.printed rest)
    intro text
    apply respects_bind (hidden.streamNumber? receiver)
    intro number
    exact respects_ite (fun _ => hidden.writeError _) fun _ => hidden.write _

theorem Hidden.run (hidden : Hidden R) (native : Platform.Native) (arguments : List Value) :
    Respects R (Platform.run native arguments) := by
  cases native with
  | println => exact hidden.print true arguments
  | print => exact hidden.print false arguments

end Shared

end MiniJvm
