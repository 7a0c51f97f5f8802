import MiniJvm.Proofs.Machine.Conduct.Basic

/-!
The elementary actions on the running frame, run on sound references.
-/

namespace MiniJvm

open Effect

namespace Exec

open Activation

variable {α β : Type} {delivers : Bool} {a : Activation}

theorem onFrame_bind (first : Frame.Action α) (next : α → Frame.Action β) :
    onFrame (first >>= next) = onFrame first >>= fun value => onFrame (next value) := by
  funext a
  show onFrame (EStateM.bind first next) a =
    EStateM.bind (onFrame first) (fun value => onFrame (next value)) a
  simp only [onFrame, EStateM.bind]
  cases first a.frame with
  | ok value frame => rfl
  | error fault frame => rfl

theorem onFrame_map (f : α → β) (action : Frame.Action α) :
    onFrame (f <$> action) = f <$> onFrame action := by
  funext a
  show onFrame (EStateM.map f action) a = EStateM.map f (onFrame action) a
  simp only [onFrame, EStateM.map]
  cases action a.frame with
  | ok value frame => rfl
  | error fault frame => rfl

theorem conducts_push {value : Value} (backed : a.shared.heap.Backs value) :
    Conducts true (push value) a fun _ _ => True :=
  fun _ => ⟨.single (.push value backed), trivial⟩

theorem conducts_pop :
    Conducts delivers (onFrame Frame.pop) a fun value b => b.shared.heap.Backs value := by
  intro sound
  unfold onFrame Frame.pop
  cases shape : a.frame.stack with
  | nil => exact ⟨.refl, id⟩
  | cons value stack =>
    have member : value ∈ a.frame.stack := by simp [shape]
    exact ⟨.single (.pop value stack shape), sound.frame.stack value member⟩

theorem conducts_popInt : Conducts delivers popInt a fun _ _ => True := by
  unfold popInt Frame.popInt
  rw [onFrame_bind]
  refine conducts_bind conducts_pop fun value b _ _ => ?_
  cases value.toInt? with
  | some int => exact conducts_pure trivial
  | none => exact conducts_throw id

/-- The reference that is popped was backed on the stack and still is. -/
theorem conducts_popReference (tag : String) :
    Conducts delivers (popReference tag) a fun address b =>
      b.shared.heap.Backs (.reference address tag) := by
  unfold popReference Frame.popReference
  rw [onFrame_bind]
  refine conducts_bind conducts_pop fun value b _ backed => ?_
  cases value with
  | reference address found =>
    by_cases same : found = tag
    · subst same
      simp only [if_true]
      exact conducts_pure backed
    · simp only [if_neg same]
      exact conducts_throw id
  | _ => exact conducts_throw id

theorem conducts_popAny :
    Conducts delivers popAny a fun popped b =>
      b.shared.heap.Backs (.reference popped.1 popped.2) := by
  unfold popAny Frame.popAny
  rw [onFrame_bind]
  refine conducts_bind conducts_pop fun value b _ backed => ?_
  cases value with
  | reference address tag => exact conducts_pure backed
  | _ => exact conducts_throw id

theorem conducts_dup : Conducts true (onFrame Frame.dup) a fun _ _ => True := by
  intro sound
  unfold onFrame Frame.dup
  cases shape : a.frame.stack with
  | nil => exact ⟨.refl, id⟩
  | cons value stack =>
    have backed := sound.frame.stack value (by simp [shape])
    have change := Change.push value backed
    rw [shape] at change
    exact ⟨.single change, trivial⟩

theorem conducts_getLocal (index : Nat) :
    Conducts delivers (onFrame (Frame.getLocal index)) a fun value b =>
      b.shared.heap.Backs value := by
  intro sound
  unfold onFrame Frame.getLocal
  cases found : a.frame.locals[index]? with
  | none => exact ⟨.refl, id⟩
  | some slot =>
    cases slot with
    | none => exact ⟨.refl, id⟩
    | some value => exact ⟨.refl, sound.frame.locals value (List.mem_of_getElem? found)⟩

theorem conducts_setLocal (index : Nat) {value : Value} (backed : a.shared.heap.Backs value) :
    Conducts true (onFrame (Frame.setLocal index value)) a fun _ _ => True := by
  intro _
  unfold onFrame Frame.setLocal
  by_cases inside : index < a.frame.locals.length
  · simp only [if_pos inside]
    exact ⟨.single (.setLocal index value backed), trivial⟩
  · simp only [if_neg inside]
    exact ⟨.refl, id⟩

/-- Reading from the code or jumping in it keeps the code. -/
def Steers (read : Decode α) : Prop :=
  (∀ c, (final (read c)).bytes = c.bytes) ∧ FailsOnly Fault.Grounded read

theorem steers_take (count : Nat) : Steers (Cursor.take count) := by
  refine ⟨fun c => ?_, (Cursor.failsOnly_take count).mono fun _ => Fault.OfFile.grounded⟩
  unfold Cursor.take
  split
  · rfl
  · rfl

theorem steers_map {read : Decode α} (f : α → β) (steers : Steers read) : Steers (f <$> read) := by
  refine ⟨fun c => ?_, failsOnly_map f steers.2⟩
  have kept := steers.1 c
  show (final (EStateM.map f read c)).bytes = c.bytes
  unfold EStateM.map
  cases ran : read c with
  | ok value d =>
    rw [ran] at kept
    exact kept
  | error fault d =>
    rw [ran] at kept
    exact kept

theorem steers_number (width : Nat) : Steers (Cursor.number width) := by
  have same : Cursor.number width =
      (fun bytes => bigEndian bytes.toList) <$> Cursor.take width := bind_pure_comp _ _
  rw [same]
  exact steers_map _ (steers_take width)

theorem steers_jumpTo (target : Int) : Steers (Cursor.jumpTo target) := by
  constructor
  · intro c
    unfold Cursor.jumpTo
    split
    · rfl
    · rfl
  · intro c d fault failed
    unfold Cursor.jumpTo at failed
    split at failed
    · cases failed
    · cases failed
      exact id

theorem conducts_reading {read : Decode α} (steers : Steers read) :
    Conducts delivers (onFrame (Frame.reading read)) a fun _ _ => True := by
  intro _
  have kept := steers.1 a.frame.code
  unfold onFrame Frame.reading
  cases ran : read a.frame.code with
  | ok value code =>
    rw [ran] at kept
    exact ⟨.single (.move code kept), trivial⟩
  | error fault code =>
    rw [ran] at kept
    exact ⟨.single (.move code kept), steers.2 ran⟩

theorem conducts_u1 : Conducts delivers (onFrame Frame.u1) a fun _ _ => True :=
  conducts_reading (steers_map _ (steers_number 1))

theorem conducts_u2 : Conducts delivers (onFrame Frame.u2) a fun _ _ => True :=
  conducts_reading (steers_map _ (steers_number 2))

theorem conducts_discard {action : Frame.Action α}
    (conducts : Conducts delivers (onFrame action) a post) :
    Conducts delivers (onFrame (discard action)) a fun _ _ => True := by
  have same : discard action = (fun _ => ()) <$> action := rfl
  rw [same, onFrame_map]
  exact conducts_map _ conducts fun _ _ _ _ => trivial

theorem conducts_restart : Conducts delivers (onFrame Frame.restart) a fun _ _ => True :=
  (conducts_discard (conducts_reading (steers_jumpTo a.frame.start))).congr rfl

theorem conducts_jump (offset : Int) :
    Conducts delivers (onFrame (Frame.jump offset)) a fun _ _ => True :=
  (conducts_discard (conducts_reading (steers_jumpTo (a.frame.code.position + offset)))).congr rfl

end Exec

end MiniJvm
