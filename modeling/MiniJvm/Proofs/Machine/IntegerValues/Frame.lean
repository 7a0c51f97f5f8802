import Mathlib.Data.List.Forall2
import MiniJvm.Proofs.Machine.Operands

/-!
Frames that differ in nothing but the form of integers: where one has an int, the other may have a boolean or
a char of the same value. What frames do alike, they do with the same result.
-/

namespace MiniJvm

open Effect

/-- The values are the same, or stand for the same integer. -/
def Value.Alike (value other : Value) : Prop :=
  value = other ∨ ∃ int, value.toInt? = some int ∧ other.toInt? = some int

/-- The faults are the same, or the same value was expected where another was found. -/
def Fault.Akin (fault other : Fault) : Prop :=
  fault = other ∨ ∃ expected found found', fault = .typeMismatch expected found ∧
    other = .typeMismatch expected found'

/-- The frames differ in values that stand for the same integers. -/
inductive Frame.Alike : Frame → Frame → Prop
  | intro {frame : Frame} {stack : List Value} {locals : List (Option Value)}
      (onStack : List.Forall₂ Value.Alike frame.stack stack)
      (inLocals : List.Forall₂ (Option.Rel Value.Alike) frame.locals locals) :
      Frame.Alike frame { frame with stack, locals }

structure Activation.Alike (a b : Activation) : Prop where
  frame : a.frame.Alike b.frame
  shared : b.shared = a.shared

namespace Value

theorem alike_refl (value : Value) : value.Alike value := .inl rfl

theorem Alike.toInt? {value other : Value} (alike : value.Alike other) :
    value.toInt? = other.toInt? := by
  rcases alike with rfl | ⟨int, first, second⟩
  · rfl
  · rw [first, second]

end Value

theorem Fault.akin_refl (fault : Fault) : fault.Akin fault := .inl rfl

theorem Fault.akin_mismatch (expected found found' : String) :
    (Fault.typeMismatch expected found).Akin (.typeMismatch expected found') :=
  .inr ⟨expected, found, found', rfl, rfl⟩

namespace Effect

variable {σ α β : Type} {S : σ → σ → Prop} {R : α → α → Prop} {T : β → β → Prop}

/-- Both computations succeed with related values, or both fail for akin reasons; either way the states
are related. -/
inductive Agree (S : σ → σ → Prop) (R : α → α → Prop) :
    EStateM.Result Fault σ α → EStateM.Result Fault σ α → Prop
  | ok {value value' : α} {s t : σ} (values : R value value') (states : S s t) :
      Agree S R (.ok value s) (.ok value' t)
  | error {fault fault' : Fault} {s t : σ} (akin : fault.Akin fault') (states : S s t) :
      Agree S R (.error fault s) (.error fault' t)

theorem Agree.bind {first first' : EStateM Fault σ α} {next next' : α → EStateM Fault σ β} {s t : σ}
    (start : Agree S R (first s) (first' t))
    (rest : ∀ ⦃value u value' u'⦄, first s = .ok value u → first' t = .ok value' u' →
      R value value' → S u u' → Agree S T (next value u) (next' value' u')) :
    Agree S T ((first >>= next) s) ((first' >>= next') t) := by
  show Agree S T (EStateM.bind first next s) (EStateM.bind first' next' t)
  unfold EStateM.bind
  generalize first s = left, first' t = right at start rest ⊢
  cases start with
  | ok values states => exact rest rfl rfl values states
  | error akin states => exact .error akin states

theorem Agree.succeeds_iff {left right : EStateM.Result Fault σ α} (agree : Agree S R left right) :
    (∃ value s, left = .ok value s) ↔ ∃ value t, right = .ok value t := by
  cases agree with
  | ok values states => exact ⟨fun _ => ⟨_, _, rfl⟩, fun _ => ⟨_, _, rfl⟩⟩
  | error akin states => exact ⟨nofun, nofun⟩

/-- The computations agree on related states. -/
def Agrees (S : σ → σ → Prop) (R : α → α → Prop) (run run' : EStateM Fault σ α) : Prop :=
  ∀ ⦃s t : σ⦄, S s t → Agree S R (run s) (run' t)

theorem agrees_pure {value value' : α} (values : R value value') :
    Agrees S R (pure value) (pure value') :=
  fun _ _ states => .ok values states

theorem agrees_throw {fault fault' : Fault} (akin : fault.Akin fault') :
    Agrees S R (throw fault) (throw fault') :=
  fun _ _ states => .error akin states

theorem agrees_bind {first first' : EStateM Fault σ α} {next next' : α → EStateM Fault σ β}
    (start : Agrees S R first first')
    (rest : ∀ value value', R value value' → Agrees S T (next value) (next' value')) :
    Agrees S T (first >>= next) (first' >>= next') :=
  fun _ _ states => (start states).bind fun _ _ _ _ _ _ values still => rest _ _ values still

/-- The first computations have the same value. -/
theorem agrees_same {first first' : EStateM Fault σ α} {next next' : α → EStateM Fault σ β}
    (start : Agrees S Eq first first') (rest : ∀ value, Agrees S T (next value) (next' value)) :
    Agrees S T (first >>= next) (first' >>= next') :=
  agrees_bind start fun value _ same => same ▸ rest value

theorem agrees_map (f : α → β) {run run' : EStateM Fault σ α} (agrees : Agrees S Eq run run') :
    Agrees S Eq (f <$> run) (f <$> run') := by
  rw [← bind_pure_comp, ← bind_pure_comp]
  exact agrees_same agrees fun _ => agrees_pure rfl

theorem agrees_discard {run run' : EStateM Fault σ α} (agrees : Agrees S R run run') :
    Agrees S Eq (discard run) (discard run') :=
  agrees_bind agrees fun _ _ _ => agrees_pure rfl

theorem agrees_ite {c : Prop} [Decidable c] {yes yes' no no' : EStateM Fault σ α}
    (holds : Agrees S R yes yes') (fails : Agrees S R no no') :
    Agrees S R (if c then yes else no) (if c then yes' else no') := by
  split
  · exact holds
  · exact fails

end Effect

namespace Frame

variable {α β : Type}

theorem alike_refl (frame : Frame) : frame.Alike frame := by
  refine .intro (List.forall₂_same.2 fun value _ => Value.alike_refl value)
    (List.forall₂_same.2 fun slot _ => ?_)
  cases slot with
  | none => exact .none
  | some value => exact .some (Value.alike_refl value)

theorem agrees_reading (read : Decode α) : Agrees Alike Eq (reading read) (reading read) := by
  intro frame other alike
  cases alike with
  | intro onStack inLocals =>
    unfold reading
    cases read frame.code with
    | ok value code => exact .ok rfl (.intro onStack inLocals)
    | error fault code => exact .error (Fault.akin_refl _) (.intro onStack inLocals)

theorem agrees_nextOpcode : Agrees Alike Eq nextOpcode nextOpcode := by
  intro frame other alike
  cases alike with
  | intro onStack inLocals =>
    unfold nextOpcode
    dsimp only
    split
    · exact .ok rfl (.intro onStack inLocals)
    · exact agrees_map _ (agrees_reading _) (.intro onStack inLocals)

theorem agrees_decode (opcode : UInt8) :
    Agrees Alike Eq (Instr.decode opcode) (Instr.decode opcode) := by
  unfold Instr.decode
  split
  · exact agrees_pure rfl
  split
  · exact agrees_same (agrees_reading _) fun _ => agrees_pure rfl
  split
  · exact agrees_same (agrees_same (agrees_reading _) fun _ => agrees_pure rfl) fun _ =>
      agrees_pure rfl
  split
  · exact agrees_same (agrees_reading _) fun _ => agrees_pure rfl
  apply agrees_ite
  · exact agrees_same (agrees_reading _) fun _ =>
      agrees_same (agrees_same (agrees_reading _) fun _ => agrees_pure rfl) fun _ => agrees_pure rfl
  apply agrees_ite
  · exact agrees_same (agrees_reading _) fun _ => agrees_same (agrees_reading _) fun _ =>
      agrees_pure rfl
  · rintro frame other ⟨onStack, inLocals⟩
    exact .error (Fault.akin_refl _) (.intro onStack inLocals)

theorem agrees_jump (offset : Int) : Agrees Alike Eq (jump offset) (jump offset) :=
  agrees_discard (agrees_reading _)

theorem agrees_push {value value' : Value} (values : value.Alike value') :
    Agrees Alike Eq (push value) (push value') := by
  intro frame other alike
  cases alike with
  | intro onStack inLocals => exact .ok rfl (.intro (.cons values onStack) inLocals)

theorem agrees_pop : Agrees Alike Value.Alike pop pop := by
  intro frame other alike
  cases alike with
  | intro onStack inLocals =>
    obtain ⟨classFile, methodIndex, method, code, start, stack, locals⟩ := frame
    cases onStack with
    | nil => exact .error (Fault.akin_refl _) (.intro .nil inLocals)
    | cons first rest => exact .ok first (.intro rest inLocals)

theorem agrees_dup : Agrees Alike Eq dup dup := by
  intro frame other alike
  cases alike with
  | intro onStack inLocals =>
    obtain ⟨classFile, methodIndex, method, code, start, stack, locals⟩ := frame
    cases onStack with
    | nil => exact .error (Fault.akin_refl _) (.intro .nil inLocals)
    | cons first rest => exact .ok rfl (.intro (.cons first (.cons first rest)) inLocals)

theorem rel_getElem? {locals locals' : List (Option Value)}
    (alike : List.Forall₂ (Option.Rel Value.Alike) locals locals') (index : Nat) :
    Option.Rel (Option.Rel Value.Alike) locals[index]? locals'[index]? := by
  induction alike generalizing index with
  | nil => exact .none
  | cons first rest ih =>
    cases index with
    | zero => exact .some first
    | succ index => exact ih index

theorem alike_set {locals locals' : List (Option Value)} {value value' : Value}
    (alike : List.Forall₂ (Option.Rel Value.Alike) locals locals') (values : value.Alike value')
    (index : Nat) : List.Forall₂ (Option.Rel Value.Alike) (locals.set index (some value))
      (locals'.set index (some value')) := by
  induction alike generalizing index with
  | nil => exact .nil
  | cons first rest ih =>
    cases index with
    | zero => exact .cons (.some values) rest
    | succ index => exact .cons first (ih index)

theorem agrees_getLocal (index : Nat) : Agrees Alike Value.Alike (getLocal index) (getLocal index) := by
  intro frame other alike
  cases alike with
  | @intro stack locals onStack inLocals =>
    have slots := rel_getElem? inLocals index
    unfold getLocal
    dsimp only
    rw [inLocals.length_eq]
    generalize frame.locals[index]? = slot, locals[index]? = slot' at slots ⊢
    cases slots with
    | none => exact .error (Fault.akin_refl _) (.intro onStack inLocals)
    | some held =>
      cases held with
      | none => exact .error (Fault.akin_refl _) (.intro onStack inLocals)
      | some values => exact .ok values (.intro onStack inLocals)

theorem agrees_setLocal (index : Nat) {value value' : Value} (values : value.Alike value') :
    Agrees Alike Eq (setLocal index value) (setLocal index value') := by
  intro frame other alike
  cases alike with
  | @intro stack locals onStack inLocals =>
    unfold setLocal
    dsimp only
    rw [inLocals.length_eq]
    split
    · exact .ok rfl (.intro onStack (alike_set inLocals values index))
    · exact .error (Fault.akin_refl _) (.intro onStack inLocals)

theorem agrees_popInt : Agrees Alike Eq popInt popInt := by
  refine agrees_bind agrees_pop fun value value' values => ?_
  rw [values.toInt?]
  cases value'.toInt? with
  | some int => exact agrees_pure rfl
  | none => exact agrees_throw (Fault.akin_mismatch _ _ _)

/-- Where a reference is wanted, values that stand for integers are refused alike. -/
theorem agrees_reference {wanted : String} {found : Nat → String → Action α}
    (agrees : ∀ address tag, Agrees Alike Eq (found address tag) (found address tag))
    (value value' : Value) : value.Alike value' → Agrees Alike Eq
      (match value with
        | .reference address tag => found address tag
        | other => throw (.typeMismatch wanted other.tag))
      (match value' with
        | .reference address tag => found address tag
        | other => throw (.typeMismatch wanted other.tag)) := by
  rintro (rfl | ⟨int, first, second⟩)
  · cases value with
    | reference address tag => exact agrees address tag
    | _ => exact agrees_throw (Fault.akin_refl _)
  · cases value with
    | reference => cases first
    | _ =>
      cases value' with
      | reference => cases second
      | _ => exact agrees_throw (Fault.akin_mismatch _ _ _)

theorem agrees_popReference (tag : String) :
    Agrees Alike Eq (popReference tag) (popReference tag) :=
  agrees_bind agrees_pop <| agrees_reference fun _ _ =>
    agrees_ite (agrees_pure rfl) (agrees_throw (Fault.akin_refl _))

theorem agrees_popAny : Agrees Alike Eq popAny popAny :=
  agrees_bind agrees_pop <| agrees_reference fun _ _ => agrees_pure rfl

end Frame

end MiniJvm
