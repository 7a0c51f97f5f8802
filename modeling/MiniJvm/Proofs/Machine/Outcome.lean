import MiniJvm.Proofs.Machine.Outcome.FirstUse

/-!
How every instruction comes out, and the step that ends with it.
-/

namespace MiniJvm

open Effect

namespace Exec

open Activation

variable {a b : Activation} {instr : Instr} {p q : Nat}

/-! ### Calls -/

theorem resolveMethod_ok {index : UInt16} {method : MemberRef} {type : MethodType}
    (found : resolveMethod index a = .ok (method, type) b) :
    a.frame.classFile.pool.arity? index = some type.parameters.length ∧ b = a := by
  obtain ⟨looked, shown, rfl⟩ := resolveMethod_found found
  simp [Pool.arity?, MethodType.arity?, looked, shown, Except.toOption]

theorem trades_resolveMethod (index : UInt16) : Trades 0 0 (resolveMethod index) a := by
  refine trades_keep (trades_pooled (Pool.errsOnly_methodRef _ index)) fun method b _ => ?_
  exact trades_bind_pure _ (trades_check (MethodType.errsOnly_parse (fun _ => trivial) _))

/-- Calls take the arguments that the descriptor of the method asks for. -/
theorem outcome_call {index : UInt16} {receivers : Nat} {next : MemberRef × MethodType → Exec Control}
    (body : execute instr = resolveMethod index >>= next)
    (effect : instr.effect = .call receivers) (same : instr.index = index)
    (straight : instr.branching? = none)
    (trades : ∀ method type b,
      Trades (type.parameters.length + receivers) 0 (next (method, type)) b) :
    Outcome instr a (execute instr a) := by
  have whole : Trades ((a.frame.classFile.pool.arity? index).getD 0 + receivers) 0 (execute instr) a := by
    rw [body]
    refine trades_keep (trades_resolveMethod index) fun (method, type) b resolved => ?_
    rw [(resolveMethod_ok resolved).1]
    exact trades method type b
  refine outcome_of_trades whole (fun control b ran => ?_) straight
  rw [body] at ran
  obtain ⟨⟨method, type⟩, c, resolved, _⟩ := bind_ok.1 ran
  simp [Instr.counts?, effect, same, StackEffect.counts?, (resolveMethod_ok resolved).1]

theorem concatSite_arity {classFile : ClassFile} {index : UInt16} {site : ConcatSite}
    (found : concatSite classFile index = .ok site) :
    classFile.pool.siteArity? index = some site.parameters.length := by
  obtain ⟨callSite, looked, rest⟩ := except_bind_ok.1 found
  obtain ⟨bootstrap, _, rest⟩ := except_bind_ok.1 rest
  obtain ⟨⟨recipe, constants⟩, _, rest⟩ := except_bind_ok.1 rest
  obtain ⟨parameters, typed, last⟩ := except_bind_ok.1 rest
  cases last
  obtain ⟨type, parsed, chosen⟩ := except_bind_ok.1 typed
  have same : type.parameters = parameters := by
    split at chosen
    · split at chosen
      · exact Except.ok.inj chosen
      · cases chosen
    · cases chosen
  simp [Pool.siteArity?, MethodType.arity?, looked, parsed, same, Except.toOption]

theorem trades_concat {site : ConcatSite} : Trades site.parameters.length 1 (do
    let operands ← fromLast popOperand site.parameters
    let text ← check (Concat.fill site.recipe operands site.constants)
    onShared (Shared.report (.concatenated site.recipe operands text))
    let address ← onShared (Shared.allocate (.str text))
    push (.reference address Value.stringTag)
    return Control.proceed) a := by
  have taken : Trades site.parameters.length 0 (fromLast popOperand site.parameters) a :=
    trades_fromLast (fun parameter _ => trades_popOperand parameter) site.parameters
  rw [← Nat.zero_add site.parameters.length]
  refine trades_bind taken fun operands b _ => ?_
  refine trades_keep (trades_check (errsOnly_fill (fun _ => trivial) _ operands _)) fun text c _ => ?_
  refine trades_keep (trades_report _) fun _ d _ => ?_
  refine trades_keep (trades_allocate _) fun address e _ => ?_
  exact trades_bind_pure (fun _ => Control.proceed) (trades_push _)

theorem outcome_invokedynamic (index padding : UInt16) :
    Outcome (.invokedynamic index padding) a (execute (.invokedynamic index padding) a) := by
  have whole : Trades ((a.frame.classFile.pool.siteArity? index).getD 0) 1
      (execute (.invokedynamic index padding)) a := by
    refine trades_ite (trades_throw_bind trivial) ?_
    refine trades_keep (trades_ofFrame (errsOnly_concatSite _ index)) fun site b found => ?_
    rw [concatSite_arity (check_ok.1 found).1]
    exact trades_concat
  refine outcome_of_trades whole (fun control b ran => ?_) rfl
  have arity : ∃ count, a.frame.classFile.pool.siteArity? index = some count := by
    change (if padding ≠ 0 then _ else _ : Exec Control) a = _ at ran
    split at ran
    · cases ran
    · obtain ⟨site, c, found, _⟩ := bind_ok.1 ran
      exact ⟨_, concatSite_arity (check_ok.1 found).1⟩
  obtain ⟨count, known⟩ := arity
  simp [Instr.counts?, Instr.effect, Instr.index, StackEffect.counts?, known]

/-! ### Whole instructions -/

theorem outcome_execute (inside : a.frame.start ≤ a.frame.code.size) (instr : Instr) :
    Outcome instr a (execute instr a) := by
  have simple {p q : Nat} (trades : Trades p q (execute instr) a)
      (effect : instr.effect = .fixed p q) (straight : instr.branching? = none) :
      Outcome instr a (execute instr a) :=
    outcome_of_trades trades (fun _ _ _ => by rw [Instr.counts?, effect]; rfl) straight
  cases instr with
  | iconst value => exact simple (trades_andProceed (trades_push _)) rfl rfl
  | ldc index => exact simple (trades_andProceed (trades_ldc _)) rfl rfl
  | load slot => exact simple (trades_andProceed (trades_load_local slot)) rfl rfl
  | store slot => exact simple (trades_andProceed (trades_store slot)) rfl rfl
  | iaload => exact simple (trades_andProceed trades_iaload) rfl rfl
  | caload => exact simple (trades_andProceed trades_caload) rfl rfl
  | iastore => exact simple (trades_andProceed trades_iastore) rfl rfl
  | castore => exact simple (trades_andProceed trades_castore) rfl rfl
  | pop => exact simple (trades_andProceed (trades_map _ trades_pop)) rfl rfl
  | dup => exact simple (trades_andProceed trades_dup) rfl rfl
  | arithmetic op => exact simple (trades_andProceed (trades_arithmetic op)) rfl rfl
  | iinc slot delta => exact simple (trades_andProceed (trades_iinc slot delta)) rfl rfl
  | branchZero comparison offset => exact outcome_branchZero comparison offset
  | branchInts comparison offset => exact outcome_branchInts comparison offset
  | goto offset => exact outcome_goto offset
  | ireturn => exact simple (trades_bind_pure _ trades_popInt) rfl rfl
  | areturn => exact simple (trades_bind_pure _ trades_popAny) rfl rfl
  | leave => exact simple (trades_pure _) rfl rfl
  | getstatic index => exact outcome_getstatic inside index
  | putstatic index => exact outcome_putstatic inside index
  | getfield index => exact simple (trades_getfield index) rfl rfl
  | putfield index => exact simple (trades_putfield index) rfl rfl
  | invokevirtual index =>
    exact outcome_call rfl rfl rfl rfl fun method type _ => trades_invokeOnReceiver method type
  | invokespecial index =>
    exact outcome_call rfl rfl rfl rfl fun method type _ =>
      trades_ite (trades_skipConstructor method type) (trades_invokeOnReceiver method type)
  | invokestatic index =>
    exact outcome_call rfl rfl rfl rfl fun method type _ => trades_invoke method type
  | invokedynamic index padding => exact outcome_invokedynamic index padding
  | new index => exact outcome_new inside index
  | newarray code => exact simple (trades_andProceed (trades_newarray code)) rfl rfl
  | arraylength => exact simple (trades_andProceed trades_arraylength) rfl rfl
  | monitor => exact simple (trades_andProceed trades_monitor) rfl rfl

theorem decoded_inside {top : Frame} {shared : Shared} (read : decoded ⟨top, shared⟩ = .ok instr a) :
    a.frame.start ≤ a.frame.code.size := by
  obtain ⟨code, sameBytes, same⟩ := decoded_frame read
  rw [same]
  show top.code.position ≤ code.bytes.size
  rw [sameBytes]
  exact top.code.inside

end Exec

namespace Machine

variable {machine : Machine} {top : Frame} {below : List Frame} {instr : Instr} {a b : Activation}

theorem step_undecoded {shared : Shared} {fault : Fault}
    (unread : Exec.decoded ⟨top, shared⟩ = .error fault a) :
    step ⟨top :: below, shared⟩ = .error fault ⟨a.frame :: below, a.shared⟩ := by
  rw [step_cons, Exec.instruction_eq, bind_of_error unread]

/-- A first use that has to wait is one that asks for an initializer. -/
theorem scheduled?_of_pending {className : String} {call : Control}
    (running : machine.frames = top :: below)
    (read : Exec.decoded ⟨top, machine.shared⟩ = .ok instr a)
    (executed : Exec.execute instr a = .ok call b)
    (asks : instr.prepares? a.frame.classFile.pool = some className)
    (pending : Exec.prepare className a = .ok (.pending call) b) :
    machine.scheduled? = some className := by
  obtain ⟨classFile, methodIndex, _, rfl, _⟩ := Exec.prepare_pending_ok pending
  unfold scheduled?
  simp only [running, read, executed]
  exact asks

/-- The running frame after a step that has not left it. -/
theorem apply_stays {control : Control} {frame : Frame} {shared : Shared} {later : Machine}
    (applied : apply control ⟨frame :: below, shared⟩ = .ok () later)
    (stays : below.length < later.frames.length) :
    later.frames = frame :: below ∨ ∃ callee, later.frames = callee :: frame :: below := by
  have frames := apply_frames applied
  cases control with
  | proceed => exact .inl frames
  | call classFile methodIndex arguments => exact .inr frames
  | leave value =>
    have left := length_delivered value below
    rw [← frames] at left
    omega

end Machine

end MiniJvm
