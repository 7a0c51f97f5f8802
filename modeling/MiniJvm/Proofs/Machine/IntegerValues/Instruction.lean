import MiniJvm.Proofs.Machine.IntegerValues.Frame
import MiniJvm.Proofs.Machine.Outcome

/-!
Integer instructions do not see whether an integer is an int, a boolean or a char, except for the increment,
which wants its local variable to hold an int.
-/

namespace MiniJvm

open Effect

namespace Exec

open Activation

variable {α : Type}

theorem agrees_onFrame {R : α → α → Prop} {action action' : Frame.Action α}
    (agrees : Agrees Frame.Alike R action action') :
    Agrees Alike R (onFrame action) (onFrame action') := by
  intro a b alike
  have agree := agrees alike.frame
  unfold onFrame
  generalize action a.frame = left, action' b.frame = right at agree ⊢
  cases agree with
  | ok values frames => exact .ok values ⟨frames, alike.shared⟩
  | error akin frames => exact .error akin ⟨frames, alike.shared⟩

theorem agrees_onShared (action : Shared.Action α) :
    Agrees Alike Eq (onShared action) (onShared action) := by
  intro a b alike
  unfold onShared
  rw [alike.shared]
  cases action a.shared with
  | ok value shared => exact .ok rfl ⟨alike.frame, rfl⟩
  | error fault shared => exact .error (Fault.akin_refl _) ⟨alike.frame, rfl⟩

theorem agrees_check (result : Except Fault α) : Agrees Alike Eq (check result) (check result) := by
  intro a b alike
  cases result with
  | ok value => exact .ok rfl alike
  | error fault => exact .error (Fault.akin_refl _) alike

theorem agrees_ofFrame {question : Frame → Except Fault α}
    (blind : ∀ frame other : Frame, frame.Alike other → question other = question frame) :
    Agrees Alike Eq (ofFrame question) (ofFrame question) := by
  intro a b alike
  unfold ofFrame
  rw [blind _ _ alike.frame]
  exact agrees_check _ alike

theorem agrees_pooled (find : Pool → Except Fault α) :
    Agrees Alike Eq (pooled find) (pooled find) := by
  apply agrees_ofFrame
  rintro frame other ⟨_, _⟩
  rfl

/-- Which instruction comes next does not depend on values. -/
theorem agrees_decoded : Agrees Alike Eq decoded decoded := by
  have fetches : Agrees Alike Eq fetch fetch := by
    apply agrees_same (agrees_onFrame Frame.agrees_nextOpcode)
    intro opcode
    cases opcode with
    | some opcode => exact agrees_pure rfl
    | none =>
      apply agrees_ofFrame
      rintro frame other ⟨_, _⟩
      rfl
  apply agrees_same fetches
  intro opcode
  have reports : Agrees Alike Eq (reportStart opcode) (reportStart opcode) := by
    refine agrees_same (agrees_ofFrame ?_) fun _ => agrees_onShared _
    rintro frame other ⟨_, _⟩
    rfl
  exact agrees_same reports fun _ => agrees_onFrame (Frame.agrees_decode opcode)

theorem agrees_push {value value' : Value} (values : value.Alike value') :
    Agrees Alike Eq (push value) (push value') :=
  agrees_onFrame (Frame.agrees_push values)

theorem agrees_popInt : Agrees Alike Eq popInt popInt := agrees_onFrame Frame.agrees_popInt

theorem agrees_popReference (tag : String) :
    Agrees Alike Eq (popReference tag) (popReference tag) :=
  agrees_onFrame (Frame.agrees_popReference tag)

theorem agrees_andProceed {action : Exec Unit} (agrees : Agrees Alike Eq action action) :
    Agrees Alike Eq (andProceed action) (andProceed action) :=
  agrees_same agrees fun _ => agrees_pure rfl

theorem agrees_ldc (index : UInt16) : Agrees Alike Eq (ldc index) (ldc index) := by
  apply agrees_same (agrees_pooled _)
  intro constant
  cases constant with
  | integer value => exact agrees_push (Value.alike_refl _)
  | string textIndex text =>
    exact agrees_same (agrees_onShared _) fun _ => agrees_push (Value.alike_refl _)
  | _ => exact agrees_throw (Fault.akin_refl _)

theorem agrees_load (slot : Nat) : Agrees Alike Eq (load slot) (load slot) :=
  agrees_bind (agrees_onFrame (Frame.agrees_getLocal slot)) fun _ _ values => agrees_push values

theorem agrees_store (slot : Nat) : Agrees Alike Eq (store slot) (store slot) :=
  agrees_bind (agrees_onFrame Frame.agrees_pop) fun _ _ values =>
    agrees_onFrame (Frame.agrees_setLocal slot values)

theorem agrees_arithmetic (op : Arithmetic) : Agrees Alike Eq (arithmetic op) (arithmetic op) :=
  agrees_same agrees_popInt fun _ => agrees_same agrees_popInt fun _ =>
    agrees_same (agrees_check _) fun _ => agrees_push (Value.alike_refl _)

theorem agrees_branch (holds : Bool) (offset : Int) :
    Agrees Alike Eq (branch holds offset) (branch holds offset) :=
  agrees_ite (agrees_onFrame (Frame.agrees_jump offset)) (agrees_pure rfl)

theorem agrees_branchZero (comparison : Comparison) (offset : Int) :
    Agrees Alike Eq (branchZero comparison offset) (branchZero comparison offset) :=
  agrees_same agrees_popInt fun _ => agrees_branch _ offset

theorem agrees_branchInts (comparison : Comparison) (offset : Int) :
    Agrees Alike Eq (branchInts comparison offset) (branchInts comparison offset) :=
  agrees_same agrees_popInt fun _ => agrees_same agrees_popInt fun _ => agrees_branch _ offset

/-- An element of an array, however the index is given. -/
theorem agrees_element (tag : String) (question : Nat → Int32 → Heap → Except Fault α)
    (make : α → Value) :
    let element : Exec Unit := do
      let index ← popInt
      let array ← popReference tag
      let value ← onShared (Shared.asking (question array index))
      push (make value)
    Agrees Alike Eq element element :=
  agrees_same agrees_popInt fun _ => agrees_same (agrees_popReference tag) fun _ =>
    agrees_same (agrees_onShared _) fun _ => agrees_push (Value.alike_refl _)

theorem agrees_setElement (tag : String) (change : Nat → Int32 → Int32 → Shared.Action α) :
    let setElement : Exec Unit := do
      let value ← popInt
      let index ← popInt
      let array ← popReference tag
      discard (onShared (change array index value))
    Agrees Alike Eq setElement setElement :=
  agrees_same agrees_popInt fun _ => agrees_same agrees_popInt fun _ =>
    agrees_same (agrees_popReference tag) fun _ => agrees_discard (agrees_onShared _)

theorem agrees_newarray (code : UInt8) : Agrees Alike Eq (newarray code) (newarray code) := by
  apply agrees_same agrees_popInt
  intro count
  apply agrees_ite
  · exact fun _ _ states => .error (Fault.akin_refl _) states
  · exact agrees_same (agrees_check _) fun _ => agrees_same (agrees_onShared _) fun _ =>
      agrees_push (Value.alike_refl _)

theorem agrees_arraylength : Agrees Alike Eq arraylength arraylength := by
  apply agrees_same (agrees_onFrame Frame.agrees_popAny)
  intro (array, tag)
  exact agrees_same (agrees_onShared _) fun _ => agrees_push (Value.alike_refl _)

end Exec

/-- Integer code. References pass through it as well, unchanged. -/
def Instr.IsInteger : Instr → Prop
  | .iconst _ | .ldc _ | .load _ | .store _ | .pop | .dup => True
  | .arithmetic _ | .iinc .. | .branchZero .. | .branchInts .. | .goto _ | .ireturn => True
  | .iaload | .caload | .iastore | .castore | .newarray _ | .arraylength => True
  | _ => False

/-- The local variable holds an int, and no boolean or char. -/
def Frame.HoldsInt (frame : Frame) (slot : Nat) : Prop :=
  ∃ value, frame.locals[slot]? = some (some (.int value))

theorem Frame.getLocal_ok {frame later : Frame} {slot : Nat} {value : Value} :
    getLocal slot frame = .ok value later ↔
      frame.locals[slot]? = some (some value) ∧ later = frame := by
  unfold getLocal
  cases frame.locals[slot]? with
  | none => simp
  | some held =>
    cases held with
    | none => simp
    | some found => simp [eq_comm]

namespace Exec

open Activation

variable {instr : Instr} {a b : Activation} {slot : Nat} {delta : Int8}

/-- An increment is the one instruction that looks at the form of a value. -/
theorem agree_iinc (alike : a.Alike b) (same : a.frame.HoldsInt slot ↔ b.frame.HoldsInt slot) :
    Agree Alike Eq (iinc slot delta a) (iinc slot delta b) := by
  refine (agrees_onFrame (Frame.agrees_getLocal slot) alike).bind ?_
  intro value c value' d found found' values alikeNext
  have held := (Frame.getLocal_ok.1 (onFrame_ok found).1).1
  have held' := (Frame.getLocal_ok.1 (onFrame_ok found').1).1
  have forms : (∃ int, value = .int int) ↔ ∃ int, value' = .int int := by
    simpa [Frame.HoldsInt, held, held'] using same
  cases value with
  | int int =>
    obtain ⟨int', rfl⟩ := forms.1 ⟨int, rfl⟩
    cases values.toInt?
    exact agrees_onFrame (Frame.agrees_setLocal slot (Value.alike_refl _)) alikeNext
  | _ =>
    cases value' with
    | int int' =>
      obtain ⟨_, impossible⟩ := forms.2 ⟨int', rfl⟩
      cases impossible
    | _ => exact .error (Fault.akin_mismatch _ _ _) alikeNext

theorem agree_execute (integer : instr.IsInteger) (alike : a.Alike b)
    (same : ∀ slot delta, instr = .iinc slot delta →
      (a.frame.HoldsInt slot ↔ b.frame.HoldsInt slot)) :
    Agree Alike Eq (execute instr a) (execute instr b) := by
  cases instr with
  | iconst value => exact agrees_andProceed (agrees_push (Value.alike_refl _)) alike
  | ldc index => exact agrees_andProceed (agrees_ldc _) alike
  | load slot => exact agrees_andProceed (agrees_load slot) alike
  | store slot => exact agrees_andProceed (agrees_store slot) alike
  | iaload => exact agrees_andProceed (agrees_element _ _ _) alike
  | caload => exact agrees_andProceed (agrees_element _ _ _) alike
  | iastore => exact agrees_andProceed (agrees_setElement _ _) alike
  | castore => exact agrees_andProceed (agrees_setElement _ _) alike
  | pop => exact agrees_andProceed (agrees_discard (agrees_onFrame Frame.agrees_pop)) alike
  | dup => exact agrees_andProceed (agrees_onFrame Frame.agrees_dup) alike
  | arithmetic op => exact agrees_andProceed (agrees_arithmetic op) alike
  | iinc slot delta =>
    exact (agree_iinc alike (same slot delta rfl)).bind fun _ _ _ _ _ _ _ still => .ok rfl still
  | branchZero comparison offset => exact agrees_andProceed (agrees_branchZero comparison offset) alike
  | branchInts comparison offset => exact agrees_andProceed (agrees_branchInts comparison offset) alike
  | goto offset => exact agrees_andProceed (agrees_onFrame (Frame.agrees_jump offset)) alike
  | ireturn => exact agrees_same agrees_popInt (fun _ => agrees_pure rfl) alike
  | newarray code => exact agrees_andProceed (agrees_newarray code) alike
  | arraylength => exact agrees_andProceed agrees_arraylength alike
  | _ => exact integer.elim

theorem iinc_of_int {value : Int32} (held : a.frame.locals[slot]? = some (some (.int value))) :
    iinc slot delta a = .ok () ⟨{ a.frame with
      locals := a.frame.locals.set slot (some (.int (value + delta.toInt32))) }, a.shared⟩ := by
  have inside : slot < a.frame.locals.length := (List.getElem?_eq_some_iff.1 held).1
  have found : onFrame (Frame.getLocal slot) a = .ok (.int value) a := by
    unfold onFrame
    rw [Frame.getLocal_ok.2 ⟨held, rfl⟩]
  have stored (new : Value) : onFrame (Frame.setLocal slot new) a =
      .ok () ⟨{ a.frame with locals := a.frame.locals.set slot (some new) }, a.shared⟩ := by
    unfold onFrame Frame.setLocal
    rw [if_pos inside]
  exact bind_ok.2 ⟨_, a, found, stored _⟩

theorem iinc_ok : (∃ c, iinc slot delta a = .ok () c) ↔ a.frame.HoldsInt slot := by
  constructor
  · rintro ⟨c, ran⟩
    obtain ⟨value, b, found, rest⟩ := bind_ok.1 ran
    have held := (Frame.getLocal_ok.1 (onFrame_ok found).1).1
    cases value with
    | int value => exact ⟨value, held⟩
    | _ => cases rest
  · rintro ⟨value, held⟩
    exact ⟨_, iinc_of_int held⟩

theorem not_call_of_integer {control : Control} (integer : instr.IsInteger)
    (ran : execute instr a = .ok control b) :
    control = .proceed ∨ ∃ value, control = .leave value := by
  cases asks_execute ran with
  | proceed => exact .inl rfl
  | ireturn popped => exact .inr ⟨_, rfl⟩
  | areturn popped => exact .inr ⟨_, rfl⟩
  | leave => exact .inr ⟨_, rfl⟩
  | call cause prepares =>
    rcases cause with invokes | ⟨className, asks⟩
    · cases instr <;> first | exact integer.elim | exact invokes.elim
    · cases instr <;> first | exact integer.elim | cases asks

end Exec

end MiniJvm
