import MiniJvm.Proofs.ClassFile.Faults
import MiniJvm.Proofs.Machine.Change

/-!
How computations behave that work on sound references. They are sequences of elementary changes; when
they fail they have only prepared, and never because a reference points to nothing. The rules here
follow the way in which instructions are put together.
-/

namespace MiniJvm

def Fault.IsDangling : Fault → Prop
  | .invalidReference _ => True
  | _ => False

def Fault.Grounded (fault : Fault) : Prop := ¬ fault.IsDangling

def Fault.IsStray : Fault → Prop
  | .branchOutside _ => True
  | _ => False

/-- The faults that are neither about an address of the heap nor about one of the code. -/
def Fault.Ordinary : Fault → Prop
  | .invalidReference _ | .branchOutside _ => False
  | _ => True

theorem Fault.Ordinary.grounded {fault : Fault} (ordinary : fault.Ordinary) : fault.Grounded := by
  cases fault with
  | invalidReference address => exact ordinary.elim
  | _ => exact id

theorem Fault.Ordinary.not_stray {fault : Fault} (ordinary : fault.Ordinary) : ¬ fault.IsStray := by
  cases fault with
  | branchOutside target => exact ordinary.elim
  | _ => exact id

theorem Fault.OfFile.ordinary {fault : Fault} (ofFile : fault.OfFile) : fault.Ordinary := by
  cases fault with
  | invalidReference address => exact ofFile.elim
  | branchOutside target => exact ofFile.elim
  | _ => trivial

theorem Fault.OfFile.grounded {fault : Fault} (ofFile : fault.OfFile) : fault.Grounded :=
  ofFile.ordinary.grounded

namespace Effect

variable {ε σ α : Type} {allowed weaker : ε → Prop}

/-- The state that a computation leaves, whether it succeeds or fails. -/
def final : EStateM.Result ε σ α → σ
  | .ok _ state => state
  | .error _ state => state

def value? : EStateM.Result ε σ α → Option α
  | .ok value _ => some value
  | .error _ _ => none

theorem eq_ok_of_value? {result : EStateM.Result ε σ α} {value : α}
    (succeeds : value? result = some value) : result = .ok value (final result) := by
  cases result with
  | ok found state =>
    cases succeeds
    rfl
  | error fault state => cases succeeds

theorem eq_ok_of_toOption {result : Except ε α} {value : α} (found : result.toOption = some value) :
    result = .ok value := by
  cases result with
  | ok stored =>
    cases found
    rfl
  | error fault => cases found

def fault? : EStateM.Result ε σ α → Option ε
  | .ok _ _ => none
  | .error fault _ => some fault

theorem eq_error_of_fault? {result : EStateM.Result ε σ α} {fault : ε}
    (fails : fault? result = some fault) : result = .error fault (final result) := by
  cases result with
  | ok found state => cases fails
  | error found state =>
    cases fails
    rfl

theorem ErrsOnly.mono {result : Except ε α} (only : ErrsOnly allowed result)
    (implies : ∀ e, allowed e → weaker e) : ErrsOnly weaker result :=
  fun e failed => implies e (only failed)

theorem FailsOnly.mono {run : EStateM ε σ α} (only : FailsOnly allowed run)
    (implies : ∀ e, allowed e → weaker e) : FailsOnly weaker run :=
  fun _ _ e failed => implies e (only failed)

end Effect

open Effect Relation

namespace Exec

open Activation

variable {α β : Type} {delivers : Bool} {a b : Activation}

/-- From a sound state, the computation makes elementary changes and leads to `post`, or it fails
without delivering anything, for a cause other than a reference that points to nothing. -/
def Conducts (delivers : Bool) (exec : Exec α) (a : Activation) (post : α → Activation → Prop) :
    Prop :=
  a.Sound →
    match exec a with
    | .ok value b => Changes delivers a b ∧ post value b
    | .error fault b => Changes false a b ∧ fault.Grounded

variable {exec : Exec α} {post : α → Activation → Prop}

theorem conducts_pure {value : α} (holds : post value a) :
    Conducts delivers (pure value) a post :=
  fun _ => ⟨.refl, holds⟩

theorem conducts_throw {fault : Fault} (grounded : fault.Grounded) :
    Conducts delivers (throw fault) a post :=
  fun _ => ⟨.refl, grounded⟩

theorem conducts_throw_bind {fault : Fault} {next : α → Exec β} {last : β → Activation → Prop}
    (grounded : fault.Grounded) : Conducts delivers (throw fault >>= next) a last :=
  fun _ => ⟨.refl, grounded⟩

/-- What comes before something that may fail has to be preparation only. -/
theorem conducts_bind {next : α → Exec β} {last : β → Activation → Prop}
    (first : Conducts false exec a post)
    (rest : ∀ value b, Changes false a b → post value b → Conducts delivers (next value) b last) :
    Conducts delivers (exec >>= next) a last := by
  intro sound
  have start := first sound
  show match EStateM.bind exec next a with
    | .ok value b => Changes delivers a b ∧ last value b
    | .error fault b => Changes false a b ∧ fault.Grounded
  unfold EStateM.bind
  cases ran : exec a with
  | error fault b =>
    rw [ran] at start
    exact start
  | ok value b =>
    rw [ran] at start
    have finish := rest value b start.1 start.2 (start.1.sound sound)
    show match next value b with
      | .ok value b => Changes delivers a b ∧ last value b
      | .error fault b => Changes false a b ∧ fault.Grounded
    cases ranNext : next value b with
    | error fault c =>
      rw [ranNext] at finish
      exact ⟨start.1.trans finish.1, finish.2⟩
    | ok result c =>
      rw [ranNext] at finish
      exact ⟨start.1.relax.trans finish.1, finish.2⟩

theorem Conducts.imp {weaker : α → Activation → Prop} (conducts : Conducts delivers exec a post)
    (implies : ∀ value b, Changes delivers a b → post value b → weaker value b) :
    Conducts delivers exec a weaker := by
  intro sound
  have result := conducts sound
  cases ran : exec a with
  | ok value b =>
    rw [ran] at result
    exact ⟨result.1, implies value b result.1 result.2⟩
  | error fault b =>
    rw [ran] at result
    exact result

theorem Conducts.changes (conducts : Conducts delivers exec a post) (sound : a.Sound) {value : α}
    (ran : exec a = .ok value b) : Changes delivers a b := by
  have result := conducts sound
  rw [ran] at result
  exact result.1

theorem Conducts.congr {other : Exec α} (conducts : Conducts delivers exec a post)
    (same : other a = exec a) : Conducts delivers other a post := by
  unfold Conducts
  rw [same]
  exact conducts

/-- Nothing can go wrong any more once a computation only hands on its result. -/
theorem conducts_map {last : β → Activation → Prop} (f : α → β)
    (conducts : Conducts delivers exec a post)
    (implies : ∀ value b, Changes delivers a b → post value b → last (f value) b) :
    Conducts delivers (f <$> exec) a last := by
  intro sound
  have result := conducts sound
  show match EStateM.map f exec a with
    | .ok value b => Changes delivers a b ∧ last value b
    | .error fault b => Changes false a b ∧ fault.Grounded
  unfold EStateM.map
  cases ran : exec a with
  | ok value b =>
    rw [ran] at result
    exact ⟨result.1, implies value b result.1 result.2⟩
  | error fault b =>
    rw [ran] at result
    exact result

theorem conducts_bind_pure {last : β → Activation → Prop} (f : α → β)
    (conducts : Conducts delivers exec a post)
    (implies : ∀ value b, Changes delivers a b → post value b → last (f value) b) :
    Conducts delivers (exec >>= fun value => pure (f value)) a last := by
  have same : (exec >>= fun value => pure (f value)) = f <$> exec := bind_pure_comp f exec
  rw [same]
  exact conducts_map f conducts implies

theorem conducts_ite {c : Prop} [Decidable c] {yes no : Exec α}
    (holds : c → Conducts delivers yes a post) (fails : ¬ c → Conducts delivers no a post) :
    Conducts delivers (if c then yes else no) a post := by
  by_cases h : c
  · rw [if_pos h]
    exact holds h
  · rw [if_neg h]
    exact fails h

theorem conducts_check {result : Except Fault α} (only : ErrsOnly Fault.Ordinary result) :
    Conducts delivers (check result) a fun value b => result = .ok value ∧ b = a := by
  intro _
  unfold check
  cases result with
  | ok value => exact ⟨.refl, rfl, rfl⟩
  | error fault => exact ⟨.refl, (only rfl).grounded⟩

theorem conducts_ofFrame {question : Frame → Except Fault α}
    (only : ErrsOnly Fault.Ordinary (question a.frame)) :
    Conducts delivers (ofFrame question) a fun value b => question a.frame = .ok value ∧ b = a :=
  conducts_check only

theorem conducts_pooled {find : Pool → Except Fault α}
    (only : ErrsOnly Fault.OfFile (find a.frame.classFile.pool)) :
    Conducts delivers (pooled find) a fun value b =>
      find a.frame.classFile.pool = .ok value ∧ b = a :=
  conducts_ofFrame (only.mono fun _ => Fault.OfFile.ordinary)

end Exec

end MiniJvm
