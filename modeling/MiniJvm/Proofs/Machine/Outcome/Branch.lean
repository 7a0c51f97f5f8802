import MiniJvm.Proofs.Machine.Initialization
import MiniJvm.Proofs.Machine.Opcode
import MiniJvm.Proofs.Machine.Trade.Instruction

/-!
How an instruction can come out. It trades on the operand stack and the program counter stays behind its
operands; or it is a branch, which is taken or not, and which fails if it is taken to a place outside of
the code; or it is started over because a class has to be initialized first; or it fails for another
reason.
-/

namespace MiniJvm

open Effect

namespace Effect

variable {ε σ α β : Type} {first : EStateM ε σ α} {next : α → EStateM ε σ β} {s t : σ}

theorem bind_of_ok {value : α} (ran : first s = .ok value t) : (first >>= next) s = next value t := by
  show EStateM.bind first next s = _
  unfold EStateM.bind
  rw [ran]

theorem bind_of_error {e : ε} (failed : first s = .error e t) : (first >>= next) s = .error e t :=
  bind_error.2 (.inl failed)

end Effect

namespace Shared

/-- A class that needs no initializer: it is built in, or it is known and has none. -/
def Settled (shared : Shared) (name : String) : Prop :=
  Platform.isPlatform name = true ∨ ∃ classFile, shared.findClass? name = some classFile ∧
    classFile.findMethod? Exec.initializerName Exec.initializerDescriptor = none

/-- Static instances have been registered for classes only that need no initializer. -/
def Settles (old new : Shared) : Prop :=
  ∃ added, new.statics = old.statics ++ added ∧ ∀ entry ∈ added, new.Settled entry.1

theorem settles_of_calm {old new : Shared} (calm : old.Calm new) : Settles old new :=
  ⟨[], by simp [calm.statics], fun _ member => nomatch member⟩

theorem findClass?_some {shared : Shared} {name : String} {found : ClassFile}
    (known : shared.findClass? name = some found) : found ∈ shared.classes ∧ found.name = name :=
  ⟨List.mem_of_find?_eq_some known, by simpa using List.find?_some known⟩

theorem findClass?_of_grown {old new : Shared} (classes : old.classes <+: new.classes) {name : String}
    {classFile : ClassFile} (known : old.findClass? name = some classFile) :
    new.findClass? name = some classFile := by
  obtain ⟨added, same⟩ := classes
  unfold findClass? at known ⊢
  rw [← same, List.find?_append, known]
  rfl

theorem Settled.of_grown {old new : Shared} {name : String} (settled : old.Settled name)
    (classes : old.classes <+: new.classes) : new.Settled name :=
  settled.imp_right fun ⟨classFile, known, bare⟩ => ⟨classFile, findClass?_of_grown classes known, bare⟩

theorem Settles.calm {first second third : Shared} (settles : first.Settles second)
    (calm : second.Calm third) : first.Settles third := by
  obtain ⟨added, statics, settled⟩ := settles
  exact ⟨added, calm.statics.trans statics, fun entry member =>
    (settled entry member).of_grown calm.classes⟩

end Shared

/-- Whether a branch is taken on an operand stack, and by which offset. -/
def Instr.decides? (stack : List Value) (instr : Instr) : Option (Bool × Int) :=
  instr.branching?.bind fun branch => (branch.1.holds? stack).map (·, branch.2)

namespace Exec

open Activation

variable {α β : Type} {a b : Activation} {instr : Instr} {p q : Nat}

/-- The results that the execution of an instruction can have. -/
inductive Outcome (instr : Instr) (a : Activation) : EStateM.Result Fault Activation Control → Prop
  | trades {control : Control} {b : Activation} {pops pushes : Nat}
      (counts : instr.counts? a.frame.classFile.pool = some (pops, pushes))
      (straight : instr.decides? a.frame.stack = none)
      (trade : Trade pops pushes a.frame.stack b.frame.stack)
      (frame : ∃ stack locals, b.frame = { a.frame with stack, locals })
      (settles : a.shared.Settles b.shared) : Outcome instr a (.ok control b)
  | branches {code : Cursor} {stack : List Value} {pops : Nat} {taken : Bool} {offset : Int}
      (counts : instr.counts? a.frame.classFile.pool = some (pops, 0))
      (decides : instr.decides? a.frame.stack = some (taken, offset))
      (trade : Trade pops 0 a.frame.stack stack)
      (same : code.bytes = a.frame.code.bytes)
      (moved : (code.position : Int) = a.frame.code.position + if taken then offset else 0) :
      Outcome instr a (.ok .proceed { a with frame := { a.frame with code, stack } })
  | strays {b : Activation} {offset : Int}
      (decides : instr.decides? a.frame.stack = some (true, offset))
      (outside : ¬ (0 ≤ a.frame.code.position + offset ∧
        a.frame.code.position + offset ≤ a.frame.code.size))
      (shared : b.shared = a.shared) :
      Outcome instr a (.error (.branchOutside (a.frame.code.position + offset)) b)
  | rewinds {call : Control} {b : Activation} {className : String}
      (straight : instr.decides? a.frame.stack = none)
      (asks : instr.prepares? a.frame.classFile.pool = some className)
      (pending : prepare className a = .ok (.pending call) b) : Outcome instr a (.ok call b)
  | fails {fault : Fault} {b : Activation} (straight : instr.decides? a.frame.stack = none)
      (settles : a.shared.Settles b.shared) (direct : ¬ fault.IsStray) :
      Outcome instr a (.error fault b)

theorem outcome_of_trades {exec : Exec Control} (trades : Trades p q exec a)
    (counts : ∀ control b, exec a = .ok control b →
      instr.counts? a.frame.classFile.pool = some (p, q))
    (straight : instr.branching? = none) : Outcome instr a (exec a) := by
  have undecided : instr.decides? a.frame.stack = none := by simp [Instr.decides?, straight]
  cases ran : exec a with
  | ok control b =>
    obtain ⟨trade, steady⟩ := trades.done ran
    exact .trades (counts control b ran) undecided trade steady.frame
      (Shared.settles_of_calm steady.shared)
  | error fault b =>
    obtain ⟨calm, direct⟩ := trades.failed ran
    exact .fails undecided (Shared.settles_of_calm calm) direct

/-! ### Branches -/

def Intless (stack : List Value) : Prop :=
  ∀ value rest, stack = value :: rest → value.toInt? = none

/-- An int is popped if there is one. Nothing else happens if there is none. -/
theorem popInt_cases (a : Activation) :
    (∃ value stack int, a.frame.stack = value :: stack ∧ value.toInt? = some int ∧
      popInt a = .ok int { a with frame := { a.frame with stack } }) ∨
    (Intless a.frame.stack ∧ ∃ fault b, popInt a = .error fault b ∧
      b.shared = a.shared ∧ fault.Ordinary) := by
  unfold popInt Frame.popInt
  rw [onFrame_bind]
  cases shape : a.frame.stack with
  | nil =>
    have empty : onFrame Frame.pop a = .error .stackUnderflow a := by
      simp [onFrame, Frame.pop, shape]
    refine .inr ⟨fun _ _ same => ?_, _, _, bind_of_error empty, rfl, trivial⟩
    cases same
  | cons value stack =>
    have popped : onFrame Frame.pop a = .ok value { a with frame := { a.frame with stack } } := by
      simp [onFrame, Frame.pop, shape]
    rw [bind_of_ok popped]
    cases shown : value.toInt? with
    | some int => exact .inl ⟨value, stack, int, rfl, shown, rfl⟩
    | none =>
      refine .inr ⟨fun _ _ same => ?_, _, _, rfl, rfl, trivial⟩
      cases same
      exact shown

theorem andProceed_eq (action : Exec Unit) (a : Activation) : andProceed action a =
    match action a with
    | .ok _ b => .ok .proceed b
    | .error fault b => .error fault b := by
  show EStateM.bind action _ a = _
  unfold EStateM.bind
  cases action a with
  | ok value b => rfl
  | error fault b => rfl

theorem jump_eq (offset : Int) (a : Activation) : onFrame (Frame.jump offset) a =
    match Cursor.jumpTo (a.frame.code.position + offset) a.frame.code with
    | .ok _ code => .ok () { a with frame := { a.frame with code } }
    | .error fault code => .error fault { a with frame := { a.frame with code } } := by
  have same : Frame.jump offset a.frame = EStateM.map (fun _ => ())
      (Frame.reading (Cursor.jumpTo (a.frame.code.position + offset))) a.frame := rfl
  unfold onFrame
  rw [same]
  unfold EStateM.map Frame.reading
  cases Cursor.jumpTo (a.frame.code.position + offset) a.frame.code with
  | ok position code => rfl
  | error fault code => rfl

/-- What is left to do once it is decided whether a branch is taken. -/
theorem outcome_decided {taken : Bool} {offset : Int} {pops : Nat} {stack : List Value}
    (counts : instr.counts? a.frame.classFile.pool = some (pops, 0))
    (decides : instr.decides? a.frame.stack = some (taken, offset))
    (trade : Trade pops 0 a.frame.stack stack) :
    Outcome instr a
      (andProceed (branch taken offset) { a with frame := { a.frame with stack } }) := by
  rw [andProceed_eq]
  cases taken with
  | false => exact .branches counts decides trade rfl (by simp)
  | true =>
    have jumps : branch true offset = onFrame (Frame.jump offset) := rfl
    rw [jumps, jump_eq]
    unfold Cursor.jumpTo
    dsimp only
    by_cases inside : 0 ≤ a.frame.code.position + offset ∧
        a.frame.code.position + offset ≤ a.frame.code.bytes.size
    · rw [dif_pos inside]
      exact .branches counts decides trade rfl (Int.toNat_of_nonneg inside.1)
    · rw [dif_neg inside]
      exact .strays decides inside rfl

theorem outcome_goto (offset : Int) : Outcome (.goto offset) a (execute (.goto offset) a) := by
  have decided : Outcome (.goto offset) a (andProceed (branch true offset) a) :=
    outcome_decided rfl rfl (trade_refl _)
  exact decided

theorem outcome_undecided {fault : Fault} (undecided : instr.decides? a.frame.stack = none)
    (shared : b.shared = a.shared) (ordinary : fault.Ordinary) : Outcome instr a (.error fault b) := by
  have calm : a.shared.Calm b.shared := shared ▸ a.shared.calm_refl
  exact .fails undecided (Shared.settles_of_calm calm) ordinary.not_stray

theorem outcome_branchZero (comparison : Comparison) (offset : Int) :
    Outcome (.branchZero comparison offset) a (execute (.branchZero comparison offset) a) := by
  have body : execute (.branchZero comparison offset) a =
      (popInt >>= fun value => andProceed (branch (comparison.holds value 0) offset)) a := by
    simp only [execute, branchZero, andProceed, bind_assoc]
  rw [body]
  rcases popInt_cases a with ⟨value, stack, int, shape, shown, popped⟩ |
    ⟨intless, fault, b, refused, shared, ordinary⟩
  · rw [bind_of_ok popped, Comparison.holds_eq]
    refine outcome_decided rfl ?_ ⟨[value], [], stack, shape, rfl, rfl, rfl⟩
    simp [Instr.decides?, Instr.branching?, Condition.holds?, shape, shown]
  · rw [bind_of_error refused]
    refine outcome_undecided ?_ shared ordinary
    cases shape : a.frame.stack with
    | nil => rfl
    | cons value stack =>
      simp [Instr.decides?, Instr.branching?, Condition.holds?, intless value stack shape]

theorem outcome_branchInts (comparison : Comparison) (offset : Int) :
    Outcome (.branchInts comparison offset) a (execute (.branchInts comparison offset) a) := by
  have body : execute (.branchInts comparison offset) a = (popInt >>= fun right => popInt >>=
      fun left => andProceed (branch (comparison.holds left right) offset)) a := by
    simp only [execute, branchInts, andProceed, bind_assoc]
  rw [body]
  rcases popInt_cases a with ⟨right, rest, rightInt, shape, shownRight, poppedRight⟩ |
    ⟨intless, fault, b, refused, shared, ordinary⟩
  · rw [bind_of_ok poppedRight]
    rcases popInt_cases { a with frame := { a.frame with stack := rest } } with
      ⟨left, stack, leftInt, rfl, shownLeft, poppedLeft⟩ |
      ⟨intless, fault, b, refused, shared, ordinary⟩
    · rw [bind_of_ok poppedLeft, Comparison.holds_eq]
      refine outcome_decided rfl ?_ ⟨[right, left], [], stack, shape, rfl, rfl, rfl⟩
      simp [Instr.decides?, Instr.branching?, Condition.holds?, shape, shownRight, shownLeft]
    · rw [bind_of_error refused]
      refine outcome_undecided ?_ shared ordinary
      cases rest with
      | nil => simp [Instr.decides?, Instr.branching?, Condition.holds?, shape]
      | cons left stack =>
        simp [Instr.decides?, Instr.branching?, Condition.holds?, shape, intless left stack rfl]
  · rw [bind_of_error refused]
    refine outcome_undecided ?_ shared ordinary
    rcases shape : a.frame.stack with _ | ⟨right, _ | ⟨left, stack⟩⟩
    · rfl
    · rfl
    · simp [Instr.decides?, Instr.branching?, Condition.holds?, intless right _ shape]

end Exec

end MiniJvm
