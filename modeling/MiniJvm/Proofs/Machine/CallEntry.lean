import MiniJvm.ClassFile.Layout
import MiniJvm.Proofs.Machine.Entry
import MiniJvm.Proofs.Machine.FrameStep
import MiniJvm.Proofs.Machine.Operands

/-!
How a method in bytecode is entered. The operands of the call become the first local variables of the
method, in declaration order and behind the receiver if there is one, each in the form that its parameter
asks for; the other local variables are unset. A call whose operands do not fit its parameters, or whose
arguments do not fit the local variables, fails.
-/

namespace MiniJvm

open Effect Activation

/-- What a method in bytecode takes: ints, booleans, arrays of chars and strings. -/
def FieldType.isPassable : FieldType → Bool
  | .int | .boolean | .array .char => true
  | type => type.isString

namespace Exec

/-- What lies below the arguments of a call: a receiver of exactly the class of the method, or nothing. -/
inductive Receiver (className : String) : Bool → List Value → Prop
  | absent : Receiver className false []
  | present {address : Nat} :
      Receiver className true [.reference address (FieldType.objectTag className)]

/-- What a call takes off the operand stack of `top` and how it leaves its caller and begins its callee. -/
inductive Enters (shared : Shared) (top : Frame) (method : MemberRef) (type : MethodType)
    (onReceiver : Bool) : (callee caller : Frame) → Prop
  | intro {operands receiver values base : List Value} {classFile : ClassFile} {code : Code}
      {callee caller : Frame} (stack : top.stack = operands.reverse ++ (receiver ++ base))
      (received : Receiver method.className onReceiver receiver)
      (passed : Each (Passes false) type.parameters operands values)
      (left : ∃ start code, caller = { top with start, code, stack := base })
      (found : shared.lookup method.className = .ok classFile) (owner : callee.classFile = classFile)
      (first : classFile.First method.name method.descriptor callee.methodIndex callee.method)
      (begins : callee.Begins code (receiver ++ values)) :
      Enters shared top method type onReceiver callee caller

end Exec

namespace Exec

variable {a b : Activation} {method : MemberRef} {type : MethodType} {values : List Value}
  {control : Control}

theorem Passes.isPassable {parameter : FieldType} {operand value : Value}
    (passes : Passes false parameter operand value) : parameter.isPassable = true := by
  cases passes with
  | int _ => rfl
  | boolean _ => rfl
  | char _ allowed => cases allowed
  | chars => rfl
  | string string =>
    unfold FieldType.isPassable
    split
    · rfl
    · rfl
    · rfl
    · exact string

theorem Each.isPassable {parameters : List FieldType} {operands : List Value}
    (each : Each (Passes false) parameters operands values) :
    ∀ parameter ∈ parameters, parameter.isPassable = true := by
  induction each with
  | nil => exact fun _ member => nomatch member
  | cons first _ ih =>
    intro parameter member
    rcases List.mem_cons.1 member with rfl | other
    · exact first.isPassable
    · exact ih parameter other

theorem Receiver.length {className : String} {onReceiver : Bool} {receiver : List Value}
    (received : Receiver className onReceiver receiver) :
    receiver.length = if onReceiver then 1 else 0 := by
  cases received with
  | absent => rfl
  | present => rfl

/-! ### What a call that succeeds has done -/

theorem dispatch_ok (user : Platform.isPlatform method.className = false)
    (ran : dispatch method values a = .ok control b) :
    ∃ classFile methodIndex, a.shared.lookup method.className = .ok classFile ∧
      classFile.findMethod? method.name method.descriptor = some methodIndex ∧
      control = .call classFile methodIndex values ∧ b.frame = a.frame := by
  unfold dispatch at ran
  rw [if_neg (by simp [user])] at ran
  obtain ⟨classFile, c, loading, chosen⟩ := bind_ok.1 ran
  obtain ⟨loaded, sameFrame⟩ := onShared_ok loading
  cases found : classFile.findMethod? method.name method.descriptor with
  | none =>
    rw [found] at chosen
    cases chosen
  | some methodIndex =>
    rw [found] at chosen
    obtain ⟨rfl, rfl⟩ := pure_ok.1 chosen
    exact ⟨classFile, methodIndex, (Shared.load_ok loaded).1, found, rfl, sameFrame⟩

theorem popArguments_ok (user : Platform.isPlatform method.className = false)
    (ran : popArguments method type a = .ok values b) : ∃ operands rest,
      a.frame.stack = operands.reverse ++ rest ∧
      Each (Passes false) type.parameters operands values ∧ b = a.withStack rest := by
  unfold popArguments at ran
  rw [user] at ran
  have ends : Ends (fromLast (fun parameter => onFrame (popArgument false parameter))
      type.parameters) a _ (fun _ => True) :=
    ends_fromLast (fun parameter _ => ends_popArgument parameter trivial) _
  exact ends.done ran

inductive Hands (a : Activation) (method : MemberRef) (type : MethodType) (onReceiver : Bool) :
    Control → Activation → Prop
  | intro {operands receiver values base : List Value} {classFile : ClassFile} {methodIndex : Nat}
      {b : Activation} (stack : a.frame.stack = operands.reverse ++ (receiver ++ base))
      (received : Receiver method.className onReceiver receiver)
      (passed : Each (Passes false) type.parameters operands values)
      (left : b.frame = { a.frame with stack := base })
      (found : a.shared.lookup method.className = .ok classFile)
      (first : classFile.findMethod? method.name method.descriptor = some methodIndex) :
      Hands a method type onReceiver (.call classFile methodIndex (receiver ++ values)) b

theorem hands_static (user : Platform.isPlatform method.className = false)
    (ran : (do let arguments ← popArguments method type; dispatch method arguments) a =
      .ok control b) : Hands a method type false control b := by
  obtain ⟨values, c, popped, dispatched⟩ := bind_ok.1 ran
  obtain ⟨operands, base, stack, passed, rfl⟩ := popArguments_ok user popped
  obtain ⟨classFile, methodIndex, found, first, rfl, left⟩ := dispatch_ok user dispatched
  rw [← List.nil_append base] at stack
  exact .intro stack .absent passed left found first

theorem hands_onReceiver (user : Platform.isPlatform method.className = false)
    (ran : invokeOnReceiver method type a = .ok control b) : Hands a method type true control b := by
  obtain ⟨values, c, popped, rest⟩ := bind_ok.1 ran
  obtain ⟨operands, stack, shape, passed, rfl⟩ := popArguments_ok user popped
  obtain ⟨⟨address, tag⟩, d, referenced, checked⟩ := bind_ok.1 rest
  obtain ⟨base, below, rfl⟩ := popAny_iff.1 referenced
  dsimp only at checked
  split at checked
  next => cases checked
  next passes =>
    have tagged : tag = FieldType.objectTag method.className := by
      simpa [user] using passes
    obtain ⟨classFile, methodIndex, found, first, rfl, left⟩ := dispatch_ok user checked
    subst tagged
    have stacked : a.frame.stack = operands.reverse ++
        ([.reference address (FieldType.objectTag method.className)] ++ base) :=
      shape.trans (congrArg (operands.reverse ++ ·) below)
    exact .intro stacked .present passed left found first

/-- Constructors are not entered. -/
def Enterable (instr : Instr) (method : MemberRef) : Prop :=
  ∀ index, instr = .invokespecial index → method.name ≠ constructorName

theorem hands_execute {instr : Instr} {index : UInt16} {onReceiver : Bool}
    (calls : instr.calls? = some (index, onReceiver))
    (named : a.frame.classFile.pool.methodRef index = .ok method)
    (typed : MethodType.parse method.descriptor = .ok type)
    (user : Platform.isPlatform method.className = false) (enterable : Enterable instr method)
    (ran : execute instr a = .ok control b) : Hands a method type onReceiver control b := by
  have resolved : resolveMethod index a = .ok (method, type) a := by
    refine bind_ok.2 ⟨method, a, pooled_ok.2 ⟨named, rfl⟩, ?_⟩
    exact bind_ok.2 ⟨type, a, check_ok.2 ⟨typed, rfl⟩, rfl⟩
  cases instr with
  | invokestatic given =>
    cases calls
    change (resolveMethod index >>= _) a = _ at ran
    rw [bind_of_ok resolved] at ran
    exact hands_static user ran
  | invokevirtual given =>
    cases calls
    change (resolveMethod index >>= _) a = _ at ran
    rw [bind_of_ok resolved] at ran
    exact hands_onReceiver user ran
  | invokespecial given =>
    cases calls
    change (resolveMethod index >>= _) a = _ at ran
    rw [bind_of_ok resolved] at ran
    dsimp only at ran
    rw [if_neg (enterable index rfl)] at ran
    exact hands_onReceiver user ran
  | _ => cases calls

end Exec

namespace Machine

open Exec

def Fails (machine : Machine) : Prop :=
  ∃ fault later, step machine = .error fault later

theorem fails_of_not_ok {machine : Machine} (never : ∀ later, step machine ≠ .ok () later) :
    machine.Fails := by
  cases ran : step machine with
  | error fault later => exact ⟨fault, later, ran⟩
  | ok _ later => exact absurd ran (never later)

variable {machine later : Machine} {top : Frame} {below : List Frame} {instr : Instr}
  {a : Activation} {index : UInt16} {onReceiver : Bool} {method : MemberRef} {type : MethodType}

theorem step_enters (running : machine.frames = top :: below) (about : machine.AboutTo instr a)
    (calls : instr.calls? = some (index, onReceiver))
    (named : top.classFile.pool.methodRef index = .ok method)
    (typed : MethodType.parse method.descriptor = .ok type)
    (user : Platform.isPlatform method.className = false) (enterable : Enterable instr method)
    (ran : step machine = .ok () later) :
    ∃ callee caller, later.frames = callee :: caller :: below ∧
      Enters machine.shared top method type onReceiver callee caller := by
  obtain ⟨_, _, instr', a', control, b, frames, read, executed, applied⟩ := step_ok ran
  cases running.symm.trans frames
  obtain ⟨rfl, rfl⟩ := about.unique ⟨top, below, running, read⟩
  obtain ⟨code, _, sameFrame⟩ := decoded_frame read
  have samePool : a.frame.classFile.pool.methodRef index = .ok method := by
    rw [sameFrame]
    exact named
  cases hands_execute calls samePool typed user enterable executed with
  | @intro operands receiver values base classFile methodIndex _ stack received passed left found first =>
    rw [apply_call] at applied
    split at applied
    next callee entered =>
      cases applied
      obtain ⟨owner, position, declared, _, begins⟩ := Frame.begins_of_enter entered
      obtain ⟨_, _, _, _, reported⟩ := decoded_ok.1 read
      rw [sameFrame] at stack left
      rw [reported] at found
      rw [← position] at first declared
      exact ⟨callee, b.frame, rfl, .intro stack received passed ⟨_, _, left⟩ found owner
        (ClassFile.first_of_findMethod? first declared) begins⟩
    next => cases applied

/-- A call of a method in bytecode takes its arguments off the operand stack, and the receiver below them if
it is made on one, which is of exactly the class that the call names. The frame that it puts on top runs the
first method of that class with the name and the descriptor of the call, from the start of its code and with
an empty operand stack. Its first local variables hold the receiver and the arguments as their parameters
ask for them, and the others are unset. The call fails if a parameter is of any other type, if an argument
or the receiver does not fit, or if there are fewer local variables than arguments. -/
theorem call_enters_method (machine : Machine) (top : Frame) (below : List Frame) (instr : Instr)
    (a : Activation) (index : UInt16) (onReceiver : Bool) (method : MemberRef) (type : MethodType)
    (running : machine.frames = top :: below) (about : machine.AboutTo instr a)
    (calls : instr.calls? = some (index, onReceiver))
    (named : top.classFile.pool.methodRef index = .ok method)
    (typed : MethodType.parse method.descriptor = .ok type)
    (user : Platform.isPlatform method.className = false) (enterable : Enterable instr method) :
    (∀ later, step machine = .ok () later → ∃ callee caller,
      later.frames = callee :: caller :: below ∧
        Enters machine.shared top method type onReceiver callee caller) ∧
    ((∃ parameter ∈ type.parameters, parameter.isPassable = false) → machine.Fails) ∧
    (∀ operands rest : List Value, top.stack = operands.reverse ++ rest →
      operands.length = type.parameters.length →
        (∀ (i : Nat) parameter operand, type.parameters[i]? = some parameter →
          operands[i]? = some operand → (∀ value, ¬ Passes false parameter operand value) →
            machine.Fails) ∧
        ∀ receiver base, onReceiver = true → rest = receiver :: base →
          (∀ address, receiver ≠ .reference address (FieldType.objectTag method.className)) →
            machine.Fails) ∧
    ∀ classFile methodIndex declared code, machine.shared.lookup method.className = .ok classFile →
      classFile.First method.name method.descriptor methodIndex declared →
      declared.code? = some code →
      code.maxLocals.toNat < type.parameters.length + (if onReceiver then 1 else 0) →
        machine.Fails := by
  have enters (later : Machine) (ran : step machine = .ok () later) :=
    step_enters running about calls named typed user enterable ran
  refine ⟨enters, ?_, ?_, ?_⟩
  · rintro ⟨parameter, member, unfit⟩
    refine fails_of_not_ok fun later ran => ?_
    obtain ⟨_, _, _, ⟨_, _, passed, _, _, _, _, _⟩⟩ := enters later ran
    simp [passed.isPassable parameter member] at unfit
  · intro operands rest stack number
    constructor
    · intro i parameter operand asked given unfit
      refine fails_of_not_ok fun later ran => ?_
      obtain ⟨_, _, _, ⟨shape, _, passed, _, _, _, _, _⟩⟩ := enters later ran
      obtain ⟨rfl, _⟩ := operands_unique (stack.symm.trans shape) (number.trans passed.length.1.symm)
      obtain ⟨value, passes⟩ := passed.at asked given
      exact unfit value passes
    · intro receiver base onOne below unfit
      refine fails_of_not_ok fun later ran => ?_
      obtain ⟨_, _, _, ⟨shape, received, passed, _, _, _, _, _⟩⟩ := enters later ran
      obtain ⟨rfl, same⟩ := operands_unique (stack.symm.trans shape) (number.trans passed.length.1.symm)
      subst onOne
      cases received
      cases below.symm.trans same
      exact unfit _ rfl
  · intro classFile methodIndex declared code found first coded short
    refine fails_of_not_ok fun later ran => ?_
    obtain ⟨callee, _, _, ⟨_, received, passed, _, found', _, first', begins⟩⟩ := enters later ran
    cases found.symm.trans found'
    obtain ⟨_, same⟩ := first.unique first'
    rw [same] at coded
    cases coded.symm.trans begins.declared
    have room := begins.room
    rw [List.length_append, received.length, passed.length.2] at room
    omega

/-- A class whose entry point calls a method on a new object, with an int and a boolean. -/
def takeBytes : Array UInt8 :=
  (Layout.u4 ClassFile.magic ++ Layout.u2 0 ++ Layout.u2 52 ++
    Entry.encodePool [.utf8 "Main", .classRef 1, .utf8 "take", .utf8 "(IZ)V", .nameAndType 3 4,
      .methodRef 2 5, .utf8 mainName, .utf8 mainDescriptor, .utf8 "Code"] ++
    Layout.u2 0 ++ Layout.u2 2 ++ Layout.u2 0 ++ Layout.u2 0 ++
    Layout.counted Member.layout [] ++
    Layout.counted Member.layout
      [⟨mainFlags, 7, 8, mainName, mainDescriptor,
          [.code 9 4 1 #[16, 7, 187, 0, 2, 8, 4, 182, 0, 6, 177] [] []]⟩,
        ⟨Access.isPublic, 3, 4, "take", "(IZ)V", [.code 9 0 4 #[177] [] []]⟩] ++
    Attribute.layoutAll []).toArray

def takeMachine : Machine :=
  after [.define takeBytes, .start 0 "Main", .step, .step, .step, .step]
    (fresh "" Disk.empty Sink.unbounded 0)

def takeMethod : MemberRef :=
  ⟨2, 5, ⟨1, "Main"⟩, ⟨3, 4, "take", "(IZ)V"⟩⟩

theorem take_entered :
    takeMachine.frames.map Frame.stack = [[.int 1, .int 5, .reference 1 "LMain", .int 7]] ∧
      ∃ callee caller unset, (final (step takeMachine)).frames = [callee, caller] ∧
        caller.stack = [.int 7] ∧ callee.pc = 0 ∧ callee.locals =
          [some (.reference 1 "LMain"), some (.int 5), some (.boolean true)] ++
            List.replicate unset none := by
  have facts :
      takeMachine.frames.map Frame.stack = [[.int 1, .int 5, .reference 1 "LMain", .int 7]] ∧
      takeMachine.frames.map (fun top => value? (decoded ⟨top, takeMachine.shared⟩)) =
        [some (.invokevirtual 6)] ∧
      takeMachine.frames.map (fun top => (top.classFile.pool.methodRef 6).toOption) =
        [some takeMethod] ∧
      (MethodType.parse takeMethod.descriptor).toOption = some ⟨[.int, .boolean], none⟩ ∧
      value? (step takeMachine) = some () := by
    decide +kernel
  obtain ⟨stacked, decodes, names, typed, succeeds⟩ := facts
  obtain ⟨top, running⟩ := List.length_eq_one_iff.1 (by simpa using congrArg List.length stacked)
  have stack : top.stack = [.int 1, .int 5, .reference 1 "LMain", .int 7] := by
    simpa [running] using stacked
  have named : top.classFile.pool.methodRef 6 = .ok takeMethod :=
    eq_ok_of_toOption (by simpa [running] using names)
  have read : value? (decoded ⟨top, takeMachine.shared⟩) = some (.invokevirtual 6) := by
    simpa [running] using decodes
  have entered := (call_enters_method takeMachine top [] (.invokevirtual 6) _ 6 true takeMethod _
    running ⟨top, [], running, eq_ok_of_value? read⟩ rfl named (eq_ok_of_toOption typed) (by decide)
      nofun).1 _ (eq_ok_of_value? succeeds)
  obtain ⟨callee, _, frames, ⟨shape, received, passed, ⟨_, _, rfl⟩, _, _, _, begins⟩⟩ := entered
  -- The two operands and the receiver are read off the stack, and what they are passed as off their types.
  rw [stack] at shape
  cases passed with
  | cons first others =>
    cases others with
    | cons second nothing =>
      cases nothing
      cases received
      cases shape
      cases first with
      | int five =>
        cases second with
        | boolean one =>
          cases five
          cases one
          exact ⟨stacked, callee, _, _, frames, rfl, begins.pc, begins.locals⟩

end Machine

end MiniJvm
