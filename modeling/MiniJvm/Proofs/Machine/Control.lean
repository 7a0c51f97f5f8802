import MiniJvm.Proofs.Machine.Decoding

/-!
What instructions ask of the stack of frames. Only the three returns leave a frame, and each hands over
what it has popped. Only the invoking instructions and those that may have to initialize a class ask for a
call, and by then they have done nothing but prepare it.
-/

namespace MiniJvm

open Effect Activation

namespace Exec

variable {α : Type} {a b : Activation}

theorem pop_ok {value : Value} (ran : onFrame Frame.pop a = .ok value b) :
    a.frame.stack = value :: b.frame.stack := by
  obtain ⟨popped, _⟩ := onFrame_ok ran
  unfold Frame.pop at popped
  split at popped
  next top stack shape =>
    obtain ⟨rfl, rest⟩ := EStateM.Result.ok.inj popped
    rw [← rest]
    exact shape
  next => cases popped

theorem popInt_ok {int : Int32} (ran : popInt a = .ok int b) :
    ∃ value, value.toInt? = some int ∧ a.frame.stack = value :: b.frame.stack := by
  unfold popInt Frame.popInt at ran
  rw [onFrame_bind] at ran
  obtain ⟨value, c, popped, chosen⟩ := bind_ok.1 ran
  refine ⟨value, ?_⟩
  cases shown : value.toInt? with
  | none =>
    rw [shown] at chosen
    cases chosen
  | some found =>
    rw [shown] at chosen
    cases chosen
    exact ⟨rfl, pop_ok popped⟩

theorem popAny_ok {address : Nat} {tag : String} (ran : popAny a = .ok (address, tag) b) :
    a.frame.stack = .reference address tag :: b.frame.stack := by
  unfold popAny Frame.popAny at ran
  rw [onFrame_bind] at ran
  obtain ⟨value, c, popped, chosen⟩ := bind_ok.1 ran
  cases value with
  | reference found kind =>
    cases chosen
    exact pop_ok popped
  | _ => cases chosen

/-! ### Instructions after which the frame goes on -/

/-- A computation that asks nothing of the stack of frames. -/
def Proceeds (exec : Exec Control) : Prop :=
  ∀ ⦃a b : Activation⦄ ⦃control : Control⦄, exec a = .ok control b → control = .proceed

theorem proceeds_pure : Proceeds (pure .proceed) := by
  intro a b control ran
  exact (pure_ok.1 ran).1.symm

theorem proceeds_throw (fault : Fault) : Proceeds (throw fault) := by
  intro a b control ran
  cases ran

theorem proceeds_throw_bind (fault : Fault) (next : α → Exec Control) :
    Proceeds (throw fault >>= next) := by
  intro a b control ran
  cases ran

theorem proceeds_bind {first : Exec α} {next : α → Exec Control}
    (last : ∀ value, Proceeds (next value)) : Proceeds (first >>= next) := by
  intro a b control ran
  obtain ⟨value, c, _, rest⟩ := bind_ok.1 ran
  exact last value rest

theorem proceeds_ite {c : Prop} [Decidable c] {yes no : Exec Control} (holds : Proceeds yes)
    (fails : Proceeds no) : Proceeds (if c then yes else no) := by
  split
  · exact holds
  · exact fails

theorem proceeds_andProceed (action : Exec Unit) : Proceeds (andProceed action) :=
  proceeds_bind fun _ => proceeds_pure

theorem proceeds_getfield (index : UInt16) : Proceeds (getfield index) := by
  apply proceeds_bind
  intro (field, type)
  exact proceeds_bind fun _ => proceeds_bind fun _ => proceeds_pure

theorem proceeds_putfield (index : UInt16) : Proceeds (putfield index) := by
  apply proceeds_bind
  intro (field, type)
  exact proceeds_bind fun _ => proceeds_bind fun _ => proceeds_bind fun _ => proceeds_bind fun _ =>
    proceeds_pure

theorem proceeds_invokedynamic (index padding : UInt16) : Proceeds (invokedynamic index padding) := by
  apply proceeds_ite
  · exact proceeds_throw_bind _ _
  · exact proceeds_bind fun _ => proceeds_bind fun _ => proceeds_bind fun _ => proceeds_bind fun _ =>
      proceeds_bind fun _ => proceeds_bind fun _ => proceeds_pure

theorem proceeds_callNative (method : MemberRef) (arguments : List Value) :
    Proceeds (callNative method arguments) := by
  unfold callNative
  split
  · exact proceeds_throw _
  · exact proceeds_bind fun _ => proceeds_bind fun _ => proceeds_pure

theorem proceeds_skipConstructor (method : MemberRef) (type : MethodType) :
    Proceeds (skipConstructor method type) := by
  apply proceeds_bind
  intro arguments
  apply proceeds_bind
  intro (receiver, tag)
  exact proceeds_bind fun _ => proceeds_pure

/-! ### Instructions that may ask for a call -/

/-- The frame goes on, or a call comes first and nothing has been delivered. -/
def GoesOn (a : Activation) (control : Control) (b : Activation) : Prop :=
  control = .proceed ∨
    (∃ classFile methodIndex arguments, control = .call classFile methodIndex arguments) ∧
      (a.Sound → Changes false a b)

/-- A computation that does not leave the frame. -/
def Stays (exec : Exec Control) : Prop :=
  ∀ ⦃a b : Activation⦄ ⦃control : Control⦄, exec a = .ok control b → GoesOn a control b

theorem stays_of_proceeds {exec : Exec Control} (proceeds : Proceeds exec) : Stays exec :=
  fun _ _ _ ran => .inl (proceeds ran)

theorem stays_call (classFile : ClassFile) (methodIndex : Nat) (arguments : List Value) :
    Stays (pure (.call classFile methodIndex arguments)) := by
  intro a b control ran
  obtain ⟨rfl, rfl⟩ := pure_ok.1 ran
  exact .inr ⟨⟨classFile, methodIndex, arguments, rfl⟩, fun _ => .refl⟩

/-- What comes before a call has to be preparation only. -/
theorem stays_bind {first : Exec α} {next : α → Exec Control} {post : Activation → α → Activation → Prop}
    (conducts : ∀ a, Conducts false first a (post a)) (last : ∀ value, Stays (next value)) :
    Stays (first >>= next) := by
  intro a b control ran
  obtain ⟨value, c, start, rest⟩ := bind_ok.1 ran
  refine (last value rest).imp_right (And.imp_right fun finish sound => ?_)
  have prepared := (conducts a).changes sound start
  exact prepared.trans (finish (prepared.sound sound))

theorem stays_ite {c : Prop} [Decidable c] {yes no : Exec Control} (holds : Stays yes)
    (fails : Stays no) : Stays (if c then yes else no) := by
  split
  · exact holds
  · exact fails

/-- A class that is used for the first time is prepared by a call of its initializer, if it has one. -/
theorem stays_prepare {className : String} {next : Nat → Exec Control}
    (proceeds : ∀ address, Proceeds (next address)) :
    Stays (prepare className >>= fun
      | .pending call => pure call
      | .ready address => next address) := by
  intro a b control ran
  rcases prepare_then (fun address c d last => proceeds address last) ran with ⟨same, _⟩ | pending
  · exact .inl same
  · refine .inr ⟨?_, fun sound => (conducts_prepare className).changes sound pending⟩
    obtain ⟨classFile, methodIndex, _, same, _⟩ := prepare_pending_ok pending
    exact ⟨classFile, methodIndex, [], same⟩

theorem stays_getstatic (index : UInt16) : Stays (getstatic index) := by
  apply stays_bind fun _ => conducts_resolveField index
  intro (field, type)
  exact stays_prepare fun _ => proceeds_bind fun _ => proceeds_pure

theorem stays_putstatic (index : UInt16) : Stays (putstatic index) := by
  apply stays_bind fun _ => conducts_resolveField index
  intro (field, type)
  exact stays_prepare fun _ => proceeds_bind fun _ => proceeds_bind fun _ => proceeds_bind fun _ =>
    proceeds_pure

theorem stays_new (index : UInt16) : Stays (new index) := by
  apply stays_bind fun _ => conducts_pooled (Pool.errsOnly_className _ index)
  intro className
  apply stays_ite
  · exact stays_of_proceeds (proceeds_bind fun _ => proceeds_pure)
  · exact stays_prepare fun _ => proceeds_bind fun _ => proceeds_bind fun _ => proceeds_bind fun _ =>
      proceeds_pure

theorem stays_dispatch (method : MemberRef) (arguments : List Value) :
    Stays (dispatch method arguments) := by
  apply stays_ite
  · exact stays_of_proceeds (proceeds_callNative method arguments)
  · apply stays_bind fun _ => conducts_load method.className
    intro classFile
    split
    · exact stays_call classFile _ arguments
    · exact stays_of_proceeds (proceeds_throw _)

theorem stays_invokestatic (index : UInt16) : Stays (invokestatic index) := by
  apply stays_bind fun _ => conducts_resolveMethod index
  intro (method, type)
  exact stays_bind (fun _ => conducts_popArguments method type) fun arguments =>
    stays_dispatch method arguments

theorem stays_invokeOnReceiver (method : MemberRef) (type : MethodType) :
    Stays (invokeOnReceiver method type) := by
  apply stays_bind fun _ => conducts_popArguments method type
  intro arguments
  apply stays_bind fun _ => conducts_popAny
  intro (receiver, tag)
  apply stays_ite
  · exact stays_of_proceeds (proceeds_throw_bind _ _)
  · exact stays_dispatch method _

theorem stays_invokevirtual (index : UInt16) : Stays (invokevirtual index) := by
  apply stays_bind fun _ => conducts_resolveMethod index
  intro (method, type)
  exact stays_invokeOnReceiver method type

theorem stays_invokespecial (index : UInt16) : Stays (invokespecial index) := by
  apply stays_bind fun _ => conducts_resolveMethod index
  intro (method, type)
  apply stays_ite
  · exact stays_of_proceeds (proceeds_skipConstructor method type)
  · exact stays_invokeOnReceiver method type

end Exec

/-- The instructions that name a method to call. -/
def Instr.Invokes : Instr → Prop
  | .invokestatic _ | .invokevirtual _ | .invokespecial _ => True
  | _ => False

namespace Exec

/-- What an instruction can ask of the stack of frames, and what it has done by then. -/
inductive Asks (a : Activation) : Instr → Control → Activation → Prop
  | proceed {instr : Instr} {b : Activation} : Asks a instr .proceed b
  | ireturn {b : Activation} {int : Int32} (popped : popInt a = .ok int b) :
      Asks a .ireturn (.leave (some (.int int))) b
  | areturn {b : Activation} {address : Nat} {tag : String} (popped : popAny a = .ok (address, tag) b) :
      Asks a .areturn (.leave (some (.reference address tag))) b
  | leave : Asks a .leave (.leave none) a
  | call {instr : Instr} {b : Activation} {classFile : ClassFile} {methodIndex : Nat}
      {arguments : List Value}
      (cause : instr.Invokes ∨ ∃ className, instr.prepares? a.frame.classFile.pool = some className)
      (prepares : a.Sound → Changes false a b) :
      Asks a instr (.call classFile methodIndex arguments) b

variable {instr : Instr} {control : Control} {a b : Activation}

theorem asks_of_proceeds (proceeds : Proceeds (execute instr)) (ran : execute instr a = .ok control b) :
    Asks a instr control b := by
  cases proceeds ran
  exact .proceed

theorem asks_of_stays (stays : Stays (execute instr)) (ran : execute instr a = .ok control b)
    (cause : instr.Invokes ∨ ∃ className, instr.prepares? a.frame.classFile.pool = some className) :
    Asks a instr control b := by
  rcases stays ran with rfl | ⟨⟨classFile, methodIndex, arguments, rfl⟩, prepares⟩
  · exact .proceed
  · exact .call cause prepares

/-- The class of a static field that is accessed is known from the constant pool. -/
theorem prepares?_of_resolves {index : UInt16} {next : MemberRef × FieldType → Exec Control}
    (ran : (resolveField index >>= next) a = .ok control b) :
    ∃ className, (Except.toOption (a.frame.classFile.pool.fieldRef index)).map (·.className) =
      some className := by
  obtain ⟨⟨field, type⟩, c, resolving, _⟩ := bind_ok.1 ran
  obtain ⟨looked, _⟩ := resolveField_ok resolving
  exact ⟨field.className, by rw [looked]; rfl⟩

theorem asks_execute (ran : execute instr a = .ok control b) : Asks a instr control b := by
  cases instr with
  | ireturn =>
    obtain ⟨int, c, popped, last⟩ := bind_ok.1 ran
    obtain ⟨rfl, rfl⟩ := pure_ok.1 last
    exact .ireturn popped
  | areturn =>
    obtain ⟨⟨address, tag⟩, c, popped, last⟩ := bind_ok.1 ran
    obtain ⟨rfl, rfl⟩ := pure_ok.1 last
    exact .areturn popped
  | leave =>
    obtain ⟨rfl, rfl⟩ := pure_ok.1 ran
    exact .leave
  | getstatic index => exact asks_of_stays (stays_getstatic index) ran (.inr (prepares?_of_resolves ran))
  | putstatic index => exact asks_of_stays (stays_putstatic index) ran (.inr (prepares?_of_resolves ran))
  | new index =>
    obtain ⟨className, c, naming, _⟩ := bind_ok.1 ran
    obtain ⟨looked, _⟩ := pooled_ok.1 naming
    have named : (Instr.new index).prepares? a.frame.classFile.pool = some className := by
      simp [Instr.prepares?, looked, Except.toOption]
    exact asks_of_stays (stays_new index) ran (.inr ⟨className, named⟩)
  | invokestatic index => exact asks_of_stays (stays_invokestatic index) ran (.inl trivial)
  | invokevirtual index => exact asks_of_stays (stays_invokevirtual index) ran (.inl trivial)
  | invokespecial index => exact asks_of_stays (stays_invokespecial index) ran (.inl trivial)
  | getfield index => exact asks_of_proceeds (proceeds_getfield index) ran
  | putfield index => exact asks_of_proceeds (proceeds_putfield index) ran
  | invokedynamic index padding => exact asks_of_proceeds (proceeds_invokedynamic index padding) ran
  | _ => exact asks_of_proceeds (proceeds_andProceed _) ran

end Exec

namespace Machine

/-- A step that succeeds has decoded an instruction, executed it and done what it asks for. -/
theorem step_ok {machine later : Machine} (ran : step machine = .ok () later) :
    ∃ top below instr a control b, machine.frames = top :: below ∧
      Exec.decoded ⟨top, machine.shared⟩ = .ok instr a ∧ Exec.execute instr a = .ok control b ∧
      apply control ⟨b.frame :: below, b.shared⟩ = .ok () later := by
  obtain ⟨frames, shared⟩ := machine
  cases frames with
  | nil => cases ran
  | cons top below =>
    rw [step_cons, Exec.instruction_eq] at ran
    split at ran
    next control b executed =>
      obtain ⟨instr, a, read, rest⟩ := bind_ok.1 executed
      exact ⟨top, below, instr, a, control, b, rfl, read, rest, ran⟩
    next => cases ran

theorem step_error {machine later : Machine} {fault : Fault} (failed : step machine = .error fault later) :
    (machine.frames = [] ∧ later = machine) ∨
      ∃ top below b, machine.frames = top :: below ∧ later = ⟨b.frame :: below, b.shared⟩ ∧
        (Exec.instruction ⟨top, machine.shared⟩ = .error fault b ∨
          ∃ classFile methodIndex arguments, Exec.instruction ⟨top, machine.shared⟩ =
            .ok (.call classFile methodIndex arguments) b) := by
  obtain ⟨frames, shared⟩ := machine
  cases frames with
  | nil =>
    cases failed
    exact .inl ⟨rfl, rfl⟩
  | cons top below =>
    refine .inr ⟨top, below, ?_⟩
    rw [step_cons] at failed
    split at failed
    next control b ran =>
      cases control with
      | proceed => cases failed
      | leave value =>
        rw [apply_leave] at failed
        cases failed
      | call classFile methodIndex arguments =>
        rw [apply_call] at failed
        split at failed
        · cases failed
        · cases failed
          exact ⟨b, rfl, rfl, .inr ⟨classFile, methodIndex, arguments, ran⟩⟩
    next ran =>
      cases failed
      exact ⟨_, rfl, rfl, .inl ran⟩

end Machine

end MiniJvm
