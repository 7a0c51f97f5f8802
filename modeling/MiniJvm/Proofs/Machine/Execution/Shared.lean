import MiniJvm.Proofs.Machine.Execution.Basic

/-!
The instructions that reach the shared state: access to fields, the making of objects, and calls. With them,
what every instruction does is known.
-/

namespace MiniJvm

open Effect

namespace Exec

open Shared Activation

variable {a : Activation} {native : Bool}

/-! ### Fields and objects -/

theorem ends_resolveField (index : UInt16) {stuck : Shared → Prop} (fails : stuck a.shared) :
    Ends (resolveField index) a
      (fun resolved b => Resolves a index resolved.1 resolved.2 ∧ b = a) stuck := by
  refine ends_bind (ends_pooled fails) ?_
  rintro field b ⟨named, rfl⟩
  refine ends_bind (ends_check fails) ?_
  rintro type c ⟨typed, rfl⟩
  exact ends_pure ⟨⟨named, typed⟩, rfl⟩

theorem ends_checkField (field : MemberRef) (type : FieldType) (value : Value)
    {stuck : Shared → Prop} (fails : stuck a.shared) :
    Ends (checkField field type value) a (fun _ b => value.conformsTo type = true ∧ b = a) stuck :=
  ends_ite (fun fits => ends_pure ⟨fits, rfl⟩) fun _ => ends_throw fails

theorem ends_fetchField (field : MemberRef) (type : FieldType) (address : Nat)
    {stuck : Shared → Prop} (fails : stuck a.shared) :
    Ends (fetchField field type address) a (fun _ b => ∃ value,
      a.shared.heap.getField address field.name = .ok (some value) ∧
      b = a.withStack (value :: a.frame.stack)) stuck := by
  refine ends_bind (ends_asking fails) ?_
  rintro found b ⟨read, rfl⟩
  cases found with
  | none => exact ends_throw fails
  | some value =>
    refine ends_bind (ends_checkField field type value fails) ?_
    rintro _ c ⟨_, rfl⟩
    exact ⟨value, read, rfl⟩

theorem ends_getfield (index : UInt16) :
    Ends (execute (.getfield index)) a (Executes a (.getfield index)) a.shared.Same := by
  refine ends_bind (ends_resolveField index (same_refl _)) ?_
  rintro ⟨field, type⟩ b ⟨resolves, rfl⟩
  refine ends_bind (ends_popReference _ (same_refl _)) ?_
  rintro address _ ⟨stack, shape, rfl⟩
  refine ends_bind (ends_fetchField field type address (same_refl _)) ?_
  rintro _ _ ⟨value, stored, rfl⟩
  refine ends_pure (.getfield resolves stored ?_ (same_refl _))
  exact Frame.draws_of_suffix [value] rfl rfl (subset_of_pop shape) fun _ _ member => .inr member

theorem ends_putfield (index : UInt16) :
    Ends (execute (.putfield index)) a (Executes a (.putfield index)) a.shared.Same := by
  refine ends_bind (ends_resolveField index (same_refl _)) ?_
  rintro ⟨field, type⟩ b ⟨resolves, rfl⟩
  refine ends_bind (ends_pop (same_refl _)) ?_
  rintro value _ ⟨stack, shape, rfl⟩
  refine ends_bind (ends_popReference _ (same_refl _)) ?_
  rintro address _ ⟨rest, shape', rfl⟩
  refine ends_bind (ends_checkField field type value (same_refl _)) ?_
  rintro _ _ ⟨fits, rfl⟩
  refine ends_bind (ends_setField address field.name value (same_refl _)) ?_
  rintro _ _ rfl
  have below := List.Subset.trans (subset_of_pop shape') (subset_of_pop shape)
  have receiver : b.frame.Has address (FieldType.objectTag field.className) :=
    .inl (subset_of_pop shape (mem_of_pop shape'))
  have given : b.frame.Gives [value] := by
    intro place tag member
    cases List.mem_singleton.1 member
    exact .inl (shape ▸ List.mem_cons_self ..)
  exact ends_pure (.putfield resolves receiver given fits
    (Frame.draws_of_drop rfl below) (same_refl _))

/-- Preparing a class leaves the values of the frame alone. -/
theorem draws_prepared (values : List Value) {old middle new : Frame} {code : Cursor}
    {rest others : List Value} (prepared : middle = { old with code })
    (shape : new.stack = values ++ rest) (below : rest ⊆ middle.stack)
    (locals : new.locals = middle.locals)
    (drawn : ∀ address tag, .reference address tag ∈ values →
      old.Has address tag ∨ .reference address tag ∈ others) : old.Draws others new := by
  subst prepared
  exact Frame.draws_of_suffix values locals shape below drawn

/-- What comes after the preparation of a class runs when the class is ready. -/
theorem ends_prepares {instr : Instr} {className : String} {next : Nat → Exec Control}
    (asks : instr.prepares? a.frame.classFile.pool = some className)
    (rest : ∀ address b code, Deeds true a.shared b.shared →
      b.shared.statics? className = some address → b.frame = { a.frame with code } →
      Ends (next address) b (Executes a instr) (Deeds true a.shared)) :
    Ends (prepare className >>= fun
      | .pending call => pure call
      | .ready address => next address) a (Executes a instr) (Deeds true a.shared) := by
  refine ends_bind (ends_prepare className) ?_
  rintro preparation b ⟨deeds, reached, code, prepared⟩
  cases preparation with
  | pending call =>
    obtain ⟨classFile, methodIndex, rfl, known⟩ := reached
    exact ends_pure (.pending asks deeds known
      (draws_prepared [] prepared rfl (List.Subset.refl _) rfl fun _ _ member =>
        (List.not_mem_nil member).elim))
  | ready address => exact rest address b code deeds reached prepared

theorem ends_getstatic (index : UInt16) :
    Ends (execute (.getstatic index)) a (Executes a (.getstatic index)) (Deeds true a.shared) := by
  refine ends_bind (ends_resolveField index .refl) ?_
  rintro ⟨field, type⟩ b ⟨resolves, rfl⟩
  have asks : (Instr.getstatic index).prepares? b.frame.classFile.pool = some field.className := by
    simp [Instr.prepares?, resolves.named, Except.toOption]
  refine ends_prepares asks fun address c code deeds ready prepared => ?_
  refine ends_bind (ends_fetchField field type address deeds) ?_
  rintro _ _ ⟨value, stored, rfl⟩
  refine ends_pure (.getstatic resolves deeds ready stored ?_)
  exact draws_prepared [value] prepared rfl (List.Subset.refl _) rfl fun _ _ member => .inr member

theorem ends_putstatic (index : UInt16) :
    Ends (execute (.putstatic index)) a (Executes a (.putstatic index)) (Deeds true a.shared) := by
  refine ends_bind (ends_resolveField index .refl) ?_
  rintro ⟨field, type⟩ b ⟨resolves, rfl⟩
  have asks : (Instr.putstatic index).prepares? b.frame.classFile.pool = some field.className := by
    simp [Instr.prepares?, resolves.named, Except.toOption]
  refine ends_prepares asks fun address c code deeds ready prepared => ?_
  refine ends_bind (ends_pop deeds) ?_
  rintro value _ ⟨stack, shape, rfl⟩
  refine ends_bind (ends_checkField field type value deeds) ?_
  rintro _ _ ⟨fits, rfl⟩
  refine ends_bind (ends_setField address field.name value deeds) ?_
  rintro _ _ rfl
  have given : b.frame.Gives [value] := by
    intro place tag member
    cases List.mem_singleton.1 member
    rw [prepared] at shape
    exact .inl (mem_of_pop shape)
  refine ends_pure (.putstatic resolves deeds ready given fits ?_ rfl)
  exact draws_prepared [] prepared rfl (subset_of_pop shape) rfl fun _ _ member =>
    (List.not_mem_nil member).elim

theorem ends_new (index : UInt16) :
    Ends (execute (.new index)) a (Executes a (.new index)) (Deeds true a.shared) := by
  refine ends_bind (ends_pooled .refl) ?_
  rintro className b ⟨named, rfl⟩
  refine ends_ite (fun platform => ?_) fun user => ?_
  · refine .newPlatform platform ?_ (same_reported _ _)
    exact Frame.draws_of_suffix [_] rfl rfl (List.Subset.refl _) fun _ _ member => .inr member
  · have asks : (Instr.new index).prepares? b.frame.classFile.pool = some className := by
      simp [Instr.prepares?, named, Except.toOption]
    refine ends_prepares asks fun address c code deeds _ prepared => ?_
    refine ends_bind (ends_load true className fun _ same => deeds.same same) ?_
    rintro classFile d ⟨loads, known, _, sameFrame⟩
    have all : Deeds true b.shared d.shared := deeds.trans loads
    refine ends_bind (ends_check all) ?_
    rintro fields _ ⟨made, rfl⟩
    refine .new (by simpa using user) all known made ?_ (same_reported _ _)
    exact draws_prepared [_] (sameFrame.trans prepared) rfl (List.Subset.refl _) rfl
      fun _ _ member => .inr member

/-! ### Calls -/

theorem ends_popArgument (parameter : FieldType) {stuck : Shared → Prop} (fails : stuck a.shared) :
    Ends (onFrame (popArgument native parameter)) a (fun value b => ∃ operand stack,
      a.frame.stack = operand :: stack ∧ Passes native parameter operand value ∧
      b = a.withStack stack) stuck := by
  unfold popArgument
  split
  · rw [onFrame_bind]
    refine ends_bind (ends_popInt fails) ?_
    rintro int _ ⟨operand, stack, shown, shape, rfl⟩
    exact ends_pure ⟨operand, stack, shape, .int shown, rfl⟩
  · rw [onFrame_bind]
    refine ends_bind (ends_popInt fails) ?_
    rintro int _ ⟨operand, stack, shown, shape, rfl⟩
    exact ends_pure ⟨operand, stack, shape, .boolean shown, rfl⟩
  · cases native with
    | false => exact ends_throw fails
    | true =>
      rw [if_pos rfl, onFrame_bind]
      refine ends_bind (ends_popInt fails) ?_
      rintro int _ ⟨operand, stack, shown, shape, rfl⟩
      exact ends_pure ⟨operand, stack, shape, .char shown rfl, rfl⟩
  · rw [onFrame_bind]
    refine ends_bind (ends_popReference _ fails) ?_
    rintro address _ ⟨stack, shape, rfl⟩
    exact ends_pure ⟨_, stack, shape, .chars, rfl⟩
  · by_cases string : parameter.isString
    · rw [if_pos string, onFrame_bind]
      refine ends_bind (ends_popReference _ fails) ?_
      rintro address _ ⟨stack, shape, rfl⟩
      exact ends_pure ⟨_, stack, shape, .string string, rfl⟩
    · rw [if_neg string]
      exact ends_throw fails

theorem ends_popArguments (method : MemberRef) (type : MethodType) {stuck : Shared → Prop}
    (fails : stuck a.shared) :
    Ends (popArguments method type) a (fun values b => ∃ rest,
      Takes (Platform.isPlatform method.className) type.parameters values a.frame.stack rest ∧
      b = a.withStack rest) stuck := by
  unfold popArguments
  induction type.parameters with
  | nil => exact ends_pure ⟨a.frame.stack, .nil, rfl⟩
  | cons parameter others ih =>
    refine ends_bind ih ?_
    rintro values _ ⟨rest, takes, rfl⟩
    refine ends_bind (ends_popArgument parameter fails) ?_
    rintro value _ ⟨operand, stack, shape, passes, rfl⟩
    refine ends_pure ⟨stack, .cons ?_ passes, rfl⟩
    rw [← shape]
    exact takes

theorem ends_resolveMethod (index : UInt16) {stuck : Shared → Prop} (fails : stuck a.shared) :
    Ends (resolveMethod index) a (fun resolved b =>
      (a.frame.classFile.pool.methodRef index = .ok resolved.1 ∧
        MethodType.parse resolved.1.descriptor = .ok resolved.2) ∧ b = a) stuck := by
  refine ends_bind (ends_pooled fails) ?_
  rintro method b ⟨named, rfl⟩
  refine ends_bind (ends_check fails) ?_
  rintro type c ⟨typed, rfl⟩
  exact ends_pure ⟨⟨named, typed⟩, rfl⟩

theorem ends_printed (arguments : List Value) {stuck : Shared → Prop} (fails : stuck a.shared) :
    Ends (onShared (Platform.printed arguments)) a
      (fun text b => Displays a.shared.heap arguments text ∧ b = a) stuck := by
  unfold Platform.printed
  match arguments with
  | [] => exact ends_pure ⟨.nothing, rfl⟩
  | [value] =>
    refine Ends.imp (ends_asking fails) ?_
    rintro text b ⟨shown, rfl⟩
    exact ⟨.value shown, rfl⟩
  | _ :: _ :: _ => exact ends_throw fails

/-- The number of a stream tells the error stream from everything else. -/
theorem ends_streamNumber (receiver : Value) {stuck : Shared → Prop} (fails : stuck a.shared) :
    Ends (onShared (Platform.streamNumber? receiver)) a
      (fun number b => (number = some (.int 2) ↔ ErrorStream a.shared.heap receiver) ∧ b = a)
      stuck := by
  unfold Platform.streamNumber?
  cases receiver with
  | reference address tag =>
    refine Ends.imp (ends_asking fails) ?_
    rintro number b ⟨asked, rfl⟩
    obtain ⟨className, fields, there, stored⟩ := Heap.getField_eq asked
    refine ⟨⟨fun two => .intro there (stored.trans two), ?_⟩, rfl⟩
    rintro ⟨object, two⟩
    cases there.symm.trans object
    exact stored.symm.trans two
  | _ => exact ends_pure ⟨⟨nofun, nofun⟩, rfl⟩

/-- The text goes to the error stream if that is the receiver, and to the output otherwise. -/
theorem ends_run (builtIn : Platform.Native) (values : List Value) {stuck : Shared → Prop}
    (fails : stuck a.shared) :
    Ends (onShared (Platform.run builtIn values)) a (fun _ b => ∃ receiver arguments text,
      values = receiver :: arguments ∧ Displays a.shared.heap arguments text ∧
      (¬ ErrorStream a.shared.heap receiver ∧ b = a.withShared { a.shared with
          output := a.shared.output.append (written builtIn text) } ∨
        ErrorStream a.shared.heap receiver ∧
          b = a.withShared { a.shared with errors := a.shared.errors ++ written builtIn text }))
      stuck := by
  have body : Platform.run builtIn values = Platform.print (builtIn = .println) values := by
    cases builtIn with
    | println => rfl
    | print => rfl
  rw [body]
  unfold Platform.print
  cases values with
  | nil => exact ends_throw fails
  | cons receiver arguments =>
    simp only [onShared_bind]
    refine ends_bind (ends_printed arguments fails) ?_
    rintro text b ⟨shown, rfl⟩
    refine ends_bind (ends_streamNumber receiver fails) ?_
    rintro number c ⟨streams, rfl⟩
    have same : (if (decide (builtIn = .println)) = true then text ++ "\n" else text) =
        written builtIn text := by
      cases builtIn with
      | println => rfl
      | print => rfl
    rw [same]
    by_cases errors : number = some (.int 2)
    · rw [if_pos errors]
      exact ⟨receiver, arguments, text, rfl, shown, .inr ⟨streams.1 errors, rfl⟩⟩
    · rw [if_neg errors]
      unfold Ends onShared Shared.write
      by_cases room : c.shared.output.hasRoom (written builtIn text)
      · simp only [if_pos room]
        exact ⟨receiver, arguments, text, rfl, shown, .inl ⟨mt streams.2 errors, rfl⟩⟩
      · simp only [if_neg room]
        exact fails

theorem ends_dispatch {instr : Instr} {method : MemberRef} {values rest : List Value}
    (calls : Calls a instr method values rest) (given : a.frame.Gives values)
    (below : rest ⊆ a.frame.stack) :
    Ends (dispatch method values) (a.withStack rest) (Executes a instr) (Deeds false a.shared) := by
  have frame : a.frame.Draws [] (a.withStack rest).frame :=
    Frame.draws_of_drop rfl below
  refine ends_ite (fun _ => ?_) fun _ => ?_
  · unfold callNative
    cases builtIn : Platform.native? method.className method.name with
    | none => exact ends_throw .refl
    | some found =>
      refine ends_bind (ends_report _) ?_
      rintro _ _ rfl
      refine ends_bind (ends_run found values (same_reported _ _).deeds) ?_
      rintro _ b ⟨receiver, arguments, text, rfl, shown, printed⟩
      refine ends_pure (.prints calls builtIn shown ?_ ?_)
      · rcases printed with ⟨_, rfl⟩ | ⟨_, rfl⟩
        · exact frame
        · exact frame
      · rcases printed with ⟨_, rfl⟩ | ⟨_, rfl⟩
        · exact .inl ⟨_, rfl⟩
        · exact .inr ⟨_, rfl⟩
  · refine ends_bind (ends_load false method.className fun _ same => same.deeds) ?_
    rintro classFile b ⟨deeds, known, _, sameFrame⟩
    cases classFile.findMethod? method.name method.descriptor with
    | none => exact ends_throw deeds
    | some methodIndex =>
      refine ends_pure (.call calls deeds known given ?_)
      rw [sameFrame]
      exact frame

theorem Takes.gives {parameters : List FieldType} {values rest : List Value}
    (takes : Takes native parameters values a.frame.stack rest) : a.frame.Gives values :=
  fun _ _ member => .inl (takes.given member)

theorem Takes.gives_onReceiver {parameters : List FieldType} {values rest : List Value} {address : Nat}
    {tag : String} (takes : Takes native parameters values a.frame.stack (.reference address tag :: rest)) :
    a.frame.Gives (.reference address tag :: values) := by
  intro place kind member
  rcases List.mem_cons.1 member with same | other
  · exact .inl (takes.rest_subset (same ▸ List.mem_cons_self ..))
  · exact takes.gives place kind other

/-- A call on a receiver, whichever instruction makes it, is known by what its dispatch does. -/
theorem ends_invokeOnReceiver {instr : Instr} {method : MemberRef} {type : MethodType}
    {done : Control → Activation → Prop} {stuck : Shared → Prop} (fails : stuck a.shared)
    (calls : ∀ values rest address tag, Takes (Platform.isPlatform method.className) type.parameters
      values a.frame.stack (.reference address tag :: rest) →
      Calls a instr method (.reference address tag :: values) rest)
    (dispatches : ∀ values rest, Calls a instr method values rest → a.frame.Gives values →
      rest ⊆ a.frame.stack → Ends (dispatch method values) (a.withStack rest) done stuck) :
    Ends (invokeOnReceiver method type) a done stuck := by
  refine ends_bind (ends_popArguments method type fails) ?_
  rintro values _ ⟨_, takes, rfl⟩
  refine ends_bind (ends_popAny fails) ?_
  rintro ⟨address, tag⟩ _ ⟨stack, rfl, rfl⟩
  refine ends_ite (fun _ => ends_throw_bind fails) fun _ => ?_
  exact dispatches _ stack (calls values stack address tag takes) takes.gives_onReceiver
    (List.Subset.trans (List.subset_cons_self _ _) takes.rest_subset)

theorem ends_skipConstructor (method : MemberRef) (type : MethodType) {stuck : Shared → Prop}
    (fails : stuck a.shared) :
    Ends (skipConstructor method type) a (fun control b => control = .proceed ∧
      ∃ rest shared, rest ⊆ a.frame.stack ∧ a.shared.Same shared ∧
        b = (a.withStack rest).withShared shared) stuck := by
  refine ends_bind (ends_popArguments method type fails) ?_
  rintro values _ ⟨rest, takes, rfl⟩
  refine ends_bind (ends_popAny fails) ?_
  rintro ⟨address, tag⟩ _ ⟨stack, shape, rfl⟩
  exact ⟨rfl, stack, _, List.Subset.trans (subset_of_pop shape) takes.rest_subset, same_reported _ _, rfl⟩

theorem ends_call {instr : Instr} {index : UInt16} {onReceiver : Bool}
    {done : Control → Activation → Prop} {stuck : Shared → Prop}
    (calls : instr.calls? = some (index, onReceiver)) (fails : stuck a.shared)
    (skips : ∀ method rest shared, a.frame.classFile.pool.methodRef index = .ok method →
      method.name = constructorName → rest ⊆ a.frame.stack → a.shared.Same shared →
        done .proceed ((a.withStack rest).withShared shared))
    (dispatches : ∀ method values rest, a.frame.classFile.pool.methodRef index = .ok method →
      Calls a instr method values rest → a.frame.Gives values → rest ⊆ a.frame.stack →
        Ends (dispatch method values) (a.withStack rest) done stuck) :
    Ends (execute instr) a done stuck := by
  cases instr with
  | invokestatic given =>
    cases calls
    refine ends_bind (ends_resolveMethod index fails) ?_
    rintro ⟨method, type⟩ b ⟨⟨named, typed⟩, rfl⟩
    refine ends_bind (ends_popArguments method type fails) ?_
    rintro values _ ⟨rest, takes, rfl⟩
    exact dispatches method values rest named (.static named typed takes) takes.gives takes.rest_subset
  | invokevirtual given =>
    cases calls
    refine ends_bind (ends_resolveMethod index fails) ?_
    rintro ⟨method, type⟩ b ⟨⟨named, typed⟩, rfl⟩
    exact ends_invokeOnReceiver fails (fun _ _ _ _ takes => .virtual named typed takes)
      fun values rest => dispatches method values rest named
  | invokespecial given =>
    cases calls
    refine ends_bind (ends_resolveMethod index fails) ?_
    rintro ⟨method, type⟩ b ⟨⟨named, typed⟩, rfl⟩
    refine ends_ite (fun constructor => ?_) fun _ => ?_
    · refine Ends.imp (ends_skipConstructor method type fails) ?_
      rintro _ _ ⟨rfl, rest, shared, below, same, rfl⟩
      exact skips method rest shared named constructor below same
    · exact ends_invokeOnReceiver fails (fun _ _ _ _ takes => .special named typed takes)
        fun values rest => dispatches method values rest named
  | _ => cases calls

theorem ends_invoke {instr : Instr} {index : UInt16} {onReceiver : Bool}
    (calls : instr.calls? = some (index, onReceiver)) :
    Ends (execute instr) a (Executes a instr) (Deeds false a.shared) := by
  refine ends_call calls .refl (fun _ _ _ _ _ below same => ?_) fun _ _ _ _ => ends_dispatch
  exact works_stack [] rfl below (gives_none _) rfl same

theorem ends_popOperand (parameter : FieldType) {stuck : Shared → Prop} (fails : stuck a.shared) :
    Ends (popOperand parameter) a
      (fun _ b => ∃ stack, stack ⊆ a.frame.stack ∧ b = a.withStack stack) stuck := by
  have int {α : Type} (f : Int32 → α) : Ends (popInt >>= fun int => pure (f int)) a
      (fun _ b => ∃ stack, stack ⊆ a.frame.stack ∧ b = a.withStack stack) stuck := by
    refine ends_bind (ends_popInt fails) ?_
    rintro int _ ⟨_, stack, _, shape, rfl⟩
    exact ends_pure ⟨stack, subset_of_pop shape, rfl⟩
  unfold popOperand
  split
  · exact int _
  · exact int _
  · exact int _
  · refine ends_ite (fun _ => ?_) fun _ => ends_throw fails
    refine ends_bind (ends_popReference _ fails) ?_
    rintro address _ ⟨stack, shape, rfl⟩
    refine Ends.imp (ends_asking fails) ?_
    rintro text _ ⟨_, rfl⟩
    exact ⟨stack, subset_of_pop shape, rfl⟩

theorem ends_popOperands (parameters : List FieldType) {stuck : Shared → Prop}
    (fails : stuck a.shared) :
    Ends (fromLast popOperand parameters) a
      (fun _ b => ∃ stack, stack ⊆ a.frame.stack ∧ b = a.withStack stack) stuck := by
  induction parameters with
  | nil => exact ends_pure ⟨a.frame.stack, List.Subset.refl _, rfl⟩
  | cons parameter others ih =>
    refine ends_bind ih ?_
    rintro texts _ ⟨rest, below, rfl⟩
    refine ends_bind (ends_popOperand parameter fails) ?_
    rintro text _ ⟨stack, below', rfl⟩
    exact ends_pure ⟨stack, List.Subset.trans below' below, rfl⟩

theorem ends_invokedynamic (index padding : UInt16) :
    Ends (execute (.invokedynamic index padding)) a (Executes a (.invokedynamic index padding))
      a.shared.Same := by
  refine ends_ite (fun _ => ends_throw_bind (same_refl _)) fun _ => ?_
  refine ends_bind (ends_check (same_refl _)) ?_
  rintro site b ⟨_, rfl⟩
  refine ends_bind (ends_popOperands site.parameters (same_refl _)) ?_
  rintro operands _ ⟨rest, below, rfl⟩
  refine ends_bind (ends_check (same_refl _)) ?_
  rintro text _ ⟨_, rfl⟩
  refine .makes (.str text) (by simp) ?_ ⟨_, rfl⟩
  exact Frame.draws_of_suffix [_] rfl rfl below fun _ _ member => .inr member

end Exec

/-- What an instruction may do to the shared state before it fails. -/
def Instr.Touches (instr : Instr) (old new : Shared) : Prop :=
  match instr with
  | .getstatic _ | .putstatic _ | .new _ => Shared.Deeds true old new
  | .invokestatic _ | .invokevirtual _ | .invokespecial _ => Shared.Deeds false old new
  | _ => old.Same new

namespace Exec

open Shared

theorem ends_execute (instr : Instr) (a : Activation) :
    Ends (execute instr) a (Executes a instr) (instr.Touches a.shared) := by
  cases instr with
  | iconst value => exact ends_iconst value
  | ldc index => exact ends_ldc index
  | load slot => exact ends_load_local slot
  | store slot => exact ends_store slot
  | iaload => exact ends_iaload
  | caload => exact ends_caload
  | iastore => exact ends_iastore
  | castore => exact ends_castore
  | pop => exact ends_pop_top
  | dup => exact ends_dup
  | arithmetic op => exact ends_arithmetic op
  | iinc slot delta => exact ends_iinc slot delta
  | branchZero comparison offset => exact ends_branchZero comparison offset
  | branchInts comparison offset => exact ends_branchInts comparison offset
  | goto offset => exact ends_goto offset
  | ireturn => exact ends_ireturn
  | areturn => exact ends_areturn
  | leave => exact ends_leave
  | getstatic index => exact ends_getstatic index
  | putstatic index => exact ends_putstatic index
  | getfield index => exact ends_getfield index
  | putfield index => exact ends_putfield index
  | invokevirtual index => exact ends_invoke rfl
  | invokespecial index => exact ends_invoke rfl
  | invokestatic index => exact ends_invoke rfl
  | invokedynamic index padding => exact ends_invokedynamic index padding
  | new index => exact ends_new index
  | newarray code => exact ends_newarray code
  | arraylength => exact ends_arraylength
  | monitor => exact ends_monitor

theorem ends_fetch (a : Activation) :
    Ends fetch a (fun _ b => b.shared = a.shared) a.shared.Same := by
  have opened : Ends (onFrame Frame.nextOpcode) a (fun _ b => b.shared = a.shared) a.shared.Same :=
    ends_frame (same_refl _) fun _ _ _ => rfl
  refine ends_bind opened ?_
  intro found b same
  cases found with
  | some opcode => exact ends_pure same
  | none =>
    show a.shared.Same b.shared
    rw [same]
    exact same_refl _

/-- Fetching and decoding do nothing to the shared state but report, even when they fail. -/
theorem ends_decoded (a : Activation) :
    Ends decoded a (fun _ b => a.shared.Same b.shared) a.shared.Same := by
  refine ends_bind (ends_fetch a) ?_
  intro opcode b same
  have reported : Ends (reportStart opcode) b (fun _ c => a.shared.Same c.shared) a.shared.Same := by
    show a.shared.Same (b.shared.reported _)
    rw [same]
    exact same_reported _ _
  refine ends_bind reported ?_
  intro _ c still
  exact ends_frame still fun _ _ _ => still

end Exec

end MiniJvm
