import MiniJvm.Proofs.Machine.Deed

/-!
What an instruction does when it succeeds, and what it may have done to the shared state when it fails.
Every reference that a frame holds after an instruction was there before, has been read from a field, or is
that of an object that the instruction has made.
-/

namespace MiniJvm

open Effect

/-- A field that has been read is that of an instance. -/
theorem Heap.getField_eq {heap : Heap} {address : Nat} {name : String} {found : Option Value}
    (read : heap.getField address name = .ok found) :
    ∃ className fields, heap.objects[address]? = some (.instanceOf className fields) ∧
      fields.get? name = found := by
  unfold getField Heap.fields get at read
  cases there : heap.objects[address]? with
  | none =>
    rw [there] at read
    cases read
  | some object =>
    rw [there] at read
    cases object with
    | instanceOf className fields => exact ⟨className, fields, rfl, Except.ok.inj read⟩
    | _ => cases read

namespace Frame

def Has (frame : Frame) (address : Nat) (tag : String) : Prop :=
  .reference address tag ∈ frame.stack ∨ some (.reference address tag) ∈ frame.locals

def Gives (frame : Frame) (values : List Value) : Prop :=
  ∀ address tag, .reference address tag ∈ values → frame.Has address tag

/-- The references of a later frame are held by the earlier one or are among some other values. -/
def Draws (old : Frame) (others : List Value) (new : Frame) : Prop :=
  ∀ address tag, new.Has address tag → old.Has address tag ∨ .reference address tag ∈ others

variable {old new : Frame} {others : List Value}

theorem draws_of_stack (locals : new.locals = old.locals)
    (stack : ∀ address tag, .reference address tag ∈ new.stack →
      old.Has address tag ∨ .reference address tag ∈ others) : old.Draws others new := by
  rintro address tag (onStack | inLocals)
  · exact stack address tag onStack
  · exact .inl (.inr (locals ▸ inLocals))

theorem draws_of_drop (locals : new.locals = old.locals) (below : new.stack ⊆ old.stack) :
    old.Draws others new :=
  draws_of_stack locals fun _ _ member => .inl (.inl (below member))

theorem draws_of_suffix (values : List Value) (locals : new.locals = old.locals) {rest : List Value}
    (shape : new.stack = values ++ rest) (below : rest ⊆ old.stack)
    (drawn : ∀ address tag, .reference address tag ∈ values →
      old.Has address tag ∨ .reference address tag ∈ others) : old.Draws others new := by
  refine draws_of_stack locals fun address tag member => ?_
  rw [shape] at member
  rcases List.mem_append.1 member with given | kept
  · exact drawn address tag given
  · exact .inl (.inl (below kept))

end Frame

/-- The pool index of a call, and whether it is made on a receiver. -/
def Instr.calls? : Instr → Option (UInt16 × Bool)
  | .invokestatic index => some (index, false)
  | .invokevirtual index | .invokespecial index => some (index, true)
  | _ => none

/-- What an instruction hands to the stack of frames without a call. -/
def Frame.Yields (frame : Frame) : Control → Prop
  | .proceed => True
  | .leave value => frame.Gives value.toList
  | .call .. => False

namespace Exec

open Shared Activation

/-- The value that is handed over for an operand. Chars are taken by built-in methods only. -/
inductive Passes (native : Bool) : FieldType → Value → Value → Prop
  | int {operand : Value} {int : Int32} (shown : operand.toInt? = some int) :
      Passes native .int operand (.int int)
  | boolean {operand : Value} {int : Int32} (shown : operand.toInt? = some int) :
      Passes native .boolean operand (.boolean (int != 0))
  | char {operand : Value} {int : Int32} (shown : operand.toInt? = some int)
      (allowed : native = true) : Passes native .char operand (.char int.toUInt32.toUInt16)
  | chars {address : Nat} : Passes native (.array .char) (.reference address Value.charArrayTag)
      (.reference address Value.charArrayTag)
  | string {type : FieldType} {address : Nat} (string : type.isString = true) :
      Passes native type (.reference address Value.stringTag) (.reference address Value.stringTag)

/-- The values that are handed over for some parameters, and what is left of the operand stack. The operand
of the last parameter lies on top. -/
inductive Takes (native : Bool) : List FieldType → List Value → List Value → List Value → Prop
  | nil {stack : List Value} : Takes native [] [] stack stack
  | cons {parameter : FieldType} {parameters : List FieldType} {operand value : Value}
      {values stack rest : List Value}
      (others : Takes native parameters values stack (operand :: rest))
      (first : Passes native parameter operand value) :
      Takes native (parameter :: parameters) (value :: values) stack rest

/-- The method that a call names, all values that it is called with, and what is left of the operand stack.
Calls on a receiver have it in front of the arguments. -/
inductive Calls (a : Activation) : Instr → MemberRef → List Value → List Value → Prop
  | static {index : UInt16} {method : MemberRef} {type : MethodType} {values rest : List Value}
      (named : a.frame.classFile.pool.methodRef index = .ok method)
      (typed : MethodType.parse method.descriptor = .ok type)
      (taken : Takes (Platform.isPlatform method.className) type.parameters values a.frame.stack rest) :
      Calls a (.invokestatic index) method values rest
  | virtual {index : UInt16} {method : MemberRef} {type : MethodType} {values rest : List Value}
      {address : Nat} {tag : String} (named : a.frame.classFile.pool.methodRef index = .ok method)
      (typed : MethodType.parse method.descriptor = .ok type)
      (taken : Takes (Platform.isPlatform method.className) type.parameters values a.frame.stack
        (.reference address tag :: rest)) :
      Calls a (.invokevirtual index) method (.reference address tag :: values) rest
  | special {index : UInt16} {method : MemberRef} {type : MethodType} {values rest : List Value}
      {address : Nat} {tag : String} (named : a.frame.classFile.pool.methodRef index = .ok method)
      (typed : MethodType.parse method.descriptor = .ok type)
      (taken : Takes (Platform.isPlatform method.className) type.parameters values a.frame.stack
        (.reference address tag :: rest)) :
      Calls a (.invokespecial index) method (.reference address tag :: values) rest

structure Resolves (a : Activation) (index : UInt16) (field : MemberRef) (type : FieldType) : Prop where
  named : a.frame.classFile.pool.fieldRef index = .ok field
  typed : FieldType.parse field.descriptor = .ok type

/-- The text of what follows the receiver of a built-in method: nothing, or one value. -/
inductive Displays (heap : Heap) : List Value → String → Prop
  | nothing : Displays heap [] ""
  | value {value : Value} {text : String} (shown : heap.display value = .ok text) :
      Displays heap [value] text

/-- A reference to the print stream of errors. What is printed on any other receiver comes to the output. -/
inductive ErrorStream (heap : Heap) : Value → Prop
  | intro {address : Nat} {tag className : String} {fields : Fields}
      (object : heap.objects[address]? = some (.instanceOf className fields))
      (number : fields.get? "fd" = some (.int 2)) : ErrorStream heap (.reference address tag)

def written (native : Platform.Native) (text : String) : String :=
  match native with
  | .println => text ++ "\n"
  | .print => text

/-- What an instruction that succeeds has done. -/
inductive Executes (a : Activation) : Instr → Control → Activation → Prop
  | works {instr : Instr} {control : Control} {b : Activation} (frame : a.frame.Draws [] b.frame)
      (yields : a.frame.Yields control) (same : a.shared.Same b.shared) : Executes a instr control b
  | makes {instr : Instr} (object : HeapObject) {b : Activation}
      (plain : ∀ className fields, object ≠ .instanceOf className fields)
      (frame : a.frame.Draws [.reference a.shared.heap.size object.kind] b.frame)
      (same : Same { a.shared with heap := a.shared.heap.push object } b.shared) :
      Executes a instr .proceed b
  | iastore {array slot : Nat} {index value : Int32} {b : Activation}
      (inside : a.shared.heap.intSlot array index = .ok slot) (frame : a.frame.Draws [] b.frame)
      (same : Same { a.shared with heap := a.shared.heap.setInt array slot value } b.shared) :
      Executes a .iastore .proceed b
  | castore {array slot : Nat} {index : Int32} {unit : UInt16} {b : Activation}
      (inside : a.shared.heap.charSlot array index = .ok slot) (frame : a.frame.Draws [] b.frame)
      (same : Same { a.shared with heap := a.shared.heap.setChar array slot unit } b.shared) :
      Executes a .castore .proceed b
  | getfield {index : UInt16} {field : MemberRef} {type : FieldType} {address : Nat} {value : Value}
      {b : Activation} (resolves : Resolves a index field type)
      (stored : a.shared.heap.getField address field.name = .ok (some value))
      (frame : a.frame.Draws [value] b.frame) (same : a.shared.Same b.shared) :
      Executes a (.getfield index) .proceed b
  | putfield {index : UInt16} {field : MemberRef} {type : FieldType} {address : Nat} {value : Value}
      {b : Activation} (resolves : Resolves a index field type)
      (receiver : a.frame.Has address (FieldType.objectTag field.className))
      (given : a.frame.Gives [value]) (fits : value.conformsTo type = true)
      (frame : a.frame.Draws [] b.frame)
      (same : Same { a.shared with heap := a.shared.heap.setField address field.name value } b.shared) :
      Executes a (.putfield index) .proceed b
  | getstatic {index : UInt16} {field : MemberRef} {type : FieldType} {address : Nat} {value : Value}
      {b : Activation} (resolves : Resolves a index field type) (deeds : Deeds true a.shared b.shared)
      (ready : b.shared.statics? field.className = some address)
      (stored : b.shared.heap.getField address field.name = .ok (some value))
      (frame : a.frame.Draws [value] b.frame) : Executes a (.getstatic index) .proceed b
  | putstatic {index : UInt16} {field : MemberRef} {type : FieldType} {address : Nat} {value : Value}
      {shared : Shared} {b : Activation} (resolves : Resolves a index field type)
      (deeds : Deeds true a.shared shared) (ready : shared.statics? field.className = some address)
      (given : a.frame.Gives [value]) (fits : value.conformsTo type = true)
      (frame : a.frame.Draws [] b.frame)
      (stores : b.shared = { shared with heap := shared.heap.setField address field.name value }) :
      Executes a (.putstatic index) .proceed b
  | pending {instr : Instr} {className : String} {classFile : ClassFile} {methodIndex : Nat}
      {b : Activation} (asks : instr.prepares? a.frame.classFile.pool = some className)
      (deeds : Deeds true a.shared b.shared)
      (known : b.shared.findClass? className = some classFile) (frame : a.frame.Draws [] b.frame) :
      Executes a instr (.call classFile methodIndex []) b
  | newPlatform {index : UInt16} {className : String} {b : Activation}
      (platform : Platform.isPlatform className = true)
      (frame : a.frame.Draws [.reference a.shared.heap.size (FieldType.objectTag className)] b.frame)
      (same : Same { a.shared with heap := a.shared.heap.push (.instanceOf className []) } b.shared) :
      Executes a (.new index) .proceed b
  | new {index : UInt16} {className : String} {classFile : ClassFile} {fields : Fields}
      {shared : Shared} {b : Activation} (user : Platform.isPlatform className = false)
      (deeds : Deeds true a.shared shared) (known : shared.findClass? className = some classFile)
      (made : defaultFields false classFile.fields = .ok fields)
      (frame : a.frame.Draws [.reference shared.heap.size (FieldType.objectTag className)] b.frame)
      (same : Same { shared with heap := shared.heap.push (.instanceOf className fields) } b.shared) :
      Executes a (.new index) .proceed b
  | call {instr : Instr} {method : MemberRef} {values rest : List Value} {classFile : ClassFile}
      {methodIndex : Nat} {b : Activation} (calls : Calls a instr method values rest)
      (deeds : Deeds false a.shared b.shared)
      (known : b.shared.findClass? method.className = some classFile)
      (given : a.frame.Gives values) (frame : a.frame.Draws [] b.frame) :
      Executes a instr (.call classFile methodIndex values) b
  | prints {instr : Instr} {method : MemberRef} {receiver : Value} {arguments rest : List Value}
      {native : Platform.Native} {text : String} {b : Activation}
      (calls : Calls a instr method (receiver :: arguments) rest)
      (builtIn : Platform.native? method.className method.name = some native)
      (shown : Displays a.shared.heap arguments text) (frame : a.frame.Draws [] b.frame)
      (same : Same { a.shared with output := a.shared.output.append (written native text) } b.shared ∨
        Same { a.shared with errors := a.shared.errors ++ written native text } b.shared) :
      Executes a instr .proceed b

variable {a : Activation} {native : Bool}

theorem Passes.reference {parameter : FieldType} {operand value : Value}
    (passes : Passes native parameter operand value) {address : Nat} {tag : String}
    (reference : value = .reference address tag) : operand = .reference address tag := by
  cases passes with
  | chars => exact reference
  | string _ => exact reference
  | _ => cases reference

theorem Takes.rest_subset {parameters : List FieldType} {values stack rest : List Value}
    (takes : Takes native parameters values stack rest) : rest ⊆ stack := by
  induction takes with
  | nil => exact List.Subset.refl _
  | cons _ _ ih => exact List.Subset.trans (List.subset_cons_self _ _) ih

theorem Takes.given {parameters : List FieldType} {values stack rest : List Value}
    (takes : Takes native parameters values stack rest) {address : Nat} {tag : String}
    (member : .reference address tag ∈ values) : .reference address tag ∈ stack := by
  induction takes with
  | nil => cases member
  | cons others first ih =>
    rcases List.mem_cons.1 member with same | other
    · rw [← first.reference same.symm]
      exact others.rest_subset (List.mem_cons_self ..)
    · exact ih other

/-! ### Instructions that work within the frame -/

theorem works_stack {instr : Instr} {b : Activation} (values : List Value) {rest : List Value}
    (shape : b.frame.stack = values ++ rest) (below : rest ⊆ a.frame.stack)
    (given : a.frame.Gives values) (locals : b.frame.locals = a.frame.locals)
    (same : a.shared.Same b.shared) : Executes a instr .proceed b :=
  .works (Frame.draws_of_suffix values locals shape below fun address tag member =>
    .inl (given address tag member)) trivial same

theorem subset_of_pop {stack rest : List Value} {value : Value} (shape : stack = value :: rest) :
    rest ⊆ stack :=
  shape ▸ List.subset_cons_self _ _

theorem mem_of_pop {stack rest : List Value} {value : Value} (shape : stack = value :: rest) :
    value ∈ stack :=
  shape ▸ List.mem_cons_self ..

theorem gives_int (frame : Frame) (int : Int32) : frame.Gives [.int int] := by
  intro address tag member
  simp at member

theorem gives_char (frame : Frame) (unit : UInt16) : frame.Gives [.char unit] := by
  intro address tag member
  simp at member

theorem gives_none (frame : Frame) : frame.Gives [] := by
  intro address tag member
  cases member

theorem ends_iconst (value : Int32) :
    Ends (execute (.iconst value)) a (Executes a (.iconst value)) a.shared.Same :=
  ends_andProceed (works_stack [.int value] rfl (List.Subset.refl _) (gives_int _ value) rfl (same_refl _))

theorem ends_ldc (index : UInt8) :
    Ends (execute (.ldc index)) a (Executes a (.ldc index)) a.shared.Same := by
  refine ends_andProceed (ends_bind (ends_pooled (same_refl _)) ?_)
  rintro constant b ⟨_, rfl⟩
  cases constant with
  | integer value => exact works_stack [.int value] rfl (List.Subset.refl _) (gives_int _ value) rfl (same_refl _)
  | string textIndex text =>
    refine ends_bind (ends_allocate _) ?_
    rintro address _ ⟨rfl, rfl⟩
    refine .makes (.str text) (by simp) ?_ (same_refl _)
    exact Frame.draws_of_suffix [_] rfl rfl (List.Subset.refl _) fun _ _ member => .inr member
  | _ => exact ends_throw (same_refl _)

theorem ends_load_local (slot : Nat) :
    Ends (execute (.load slot)) a (Executes a (.load slot)) a.shared.Same := by
  refine ends_andProceed (ends_bind (ends_getLocal slot (same_refl _)) ?_)
  rintro value b ⟨found, rfl⟩
  refine works_stack [value] rfl (List.Subset.refl _) (fun address tag member => ?_) rfl (same_refl _)
  cases List.mem_singleton.1 member
  exact .inr (List.mem_of_getElem? found)

theorem ends_store (slot : Nat) :
    Ends (execute (.store slot)) a (Executes a (.store slot)) a.shared.Same := by
  refine ends_andProceed (ends_bind (ends_pop (same_refl _)) ?_)
  rintro value _ ⟨stack, shape, rfl⟩
  refine (ends_setLocal slot value (same_refl _)).imp ?_
  rintro _ _ rfl
  refine .works (fun address tag has => .inl ?_) trivial (same_refl _)
  rcases has with onStack | inLocals
  · exact .inl (shape ▸ List.mem_cons_of_mem _ onStack)
  · rcases List.mem_or_eq_of_mem_set inLocals with old | new
    · exact .inr old
    · cases new
      exact .inl (shape ▸ List.mem_cons_self ..)

theorem ends_iaload : Ends (execute .iaload) a (Executes a .iaload) a.shared.Same := by
  refine ends_andProceed (ends_bind (ends_popInt (same_refl _)) ?_)
  rintro index _ ⟨_, stack, _, shape, rfl⟩
  refine ends_bind (ends_popReference _ (same_refl _)) ?_
  rintro array _ ⟨rest, shape', rfl⟩
  refine ends_bind (ends_asking (same_refl _)) ?_
  rintro value _ ⟨_, rfl⟩
  have below := List.Subset.trans (subset_of_pop shape') (subset_of_pop shape)
  exact works_stack [.int value] rfl below (gives_int _ value) rfl (same_refl _)

theorem ends_caload : Ends (execute .caload) a (Executes a .caload) a.shared.Same := by
  refine ends_andProceed (ends_bind (ends_popInt (same_refl _)) ?_)
  rintro index _ ⟨_, stack, _, shape, rfl⟩
  refine ends_bind (ends_popReference _ (same_refl _)) ?_
  rintro array _ ⟨rest, shape', rfl⟩
  refine ends_bind (ends_asking (same_refl _)) ?_
  rintro unit _ ⟨_, rfl⟩
  have below := List.Subset.trans (subset_of_pop shape') (subset_of_pop shape)
  exact works_stack [.char unit] rfl below (gives_char _ unit) rfl (same_refl _)

theorem ends_setInt (array : Nat) (index value : Int32) {b : Activation} {stuck : Shared → Prop}
    (fails : stuck b.shared) :
    Ends (onShared (Shared.setInt array index value)) b (fun _ c => ∃ slot,
      b.shared.heap.intSlot array index = .ok slot ∧
      c = b.withShared { b.shared with heap := b.shared.heap.setInt array slot value }) stuck := by
  unfold Shared.setInt
  rw [onShared_bind]
  refine ends_bind (ends_asking fails) ?_
  rintro slot _ ⟨inside, rfl⟩
  exact ⟨slot, inside, rfl⟩

theorem ends_setChar (array : Nat) (index : Int32) (unit : UInt16) {b : Activation}
    {stuck : Shared → Prop} (fails : stuck b.shared) :
    Ends (onShared (Shared.setChar array index unit)) b (fun _ c => ∃ slot,
      b.shared.heap.charSlot array index = .ok slot ∧
      c = b.withShared { b.shared with heap := b.shared.heap.setChar array slot unit }) stuck := by
  unfold Shared.setChar
  rw [onShared_bind]
  refine ends_bind (ends_asking fails) ?_
  rintro slot _ ⟨inside, rfl⟩
  exact ⟨slot, inside, rfl⟩

theorem ends_setField (address : Nat) (name : String) (value : Value) {b : Activation}
    {stuck : Shared → Prop} (fails : stuck b.shared) :
    Ends (onShared (Shared.setField address name value)) b
      (fun _ c => c = b.withShared { b.shared with heap := b.shared.heap.setField address name value })
      stuck := by
  unfold Shared.setField
  rw [onShared_bind]
  refine ends_bind (ends_asking fails) ?_
  rintro fields _ ⟨_, rfl⟩
  rfl

theorem ends_iastore : Ends (execute .iastore) a (Executes a .iastore) a.shared.Same := by
  refine ends_andProceed (ends_bind (ends_popInt (same_refl _)) ?_)
  rintro value _ ⟨_, stack, _, shape, rfl⟩
  refine ends_bind (ends_popInt (same_refl _)) ?_
  rintro index _ ⟨_, stack', _, shape', rfl⟩
  refine ends_bind (ends_popReference _ (same_refl _)) ?_
  rintro array _ ⟨rest, shape'', rfl⟩
  refine ends_map _ ((ends_setInt array index value (same_refl _)).imp ?_)
  rintro _ _ ⟨slot, inside, rfl⟩
  have below := List.Subset.trans (subset_of_pop shape'')
    (List.Subset.trans (subset_of_pop shape') (subset_of_pop shape))
  exact .iastore inside (Frame.draws_of_drop rfl below) (same_refl _)

theorem ends_castore : Ends (execute .castore) a (Executes a .castore) a.shared.Same := by
  refine ends_andProceed (ends_bind (ends_popInt (same_refl _)) ?_)
  rintro value _ ⟨_, stack, _, shape, rfl⟩
  refine ends_bind (ends_popInt (same_refl _)) ?_
  rintro index _ ⟨_, stack', _, shape', rfl⟩
  refine ends_bind (ends_popReference _ (same_refl _)) ?_
  rintro array _ ⟨rest, shape'', rfl⟩
  refine ends_map _ ((ends_setChar array index _ (same_refl _)).imp ?_)
  rintro _ _ ⟨slot, inside, rfl⟩
  have below := List.Subset.trans (subset_of_pop shape'')
    (List.Subset.trans (subset_of_pop shape') (subset_of_pop shape))
  exact .castore inside (Frame.draws_of_drop rfl below) (same_refl _)

theorem ends_pop_top : Ends (execute .pop) a (Executes a .pop) a.shared.Same := by
  refine ends_andProceed (ends_map _ ((ends_pop (same_refl _)).imp ?_))
  rintro value _ ⟨stack, shape, rfl⟩
  exact works_stack [] rfl (subset_of_pop shape) (gives_none _) rfl (same_refl _)

theorem ends_dup : Ends (execute .dup) a (Executes a .dup) a.shared.Same := by
  refine ends_andProceed (ends_frame (same_refl _) fun _ frame copied => ?_)
  unfold Frame.dup at copied
  split at copied
  next value stack shape =>
    cases copied
    refine works_stack [value, value] rfl (subset_of_pop shape) (fun address tag member => ?_) rfl
      (same_refl _)
    have same : .reference address tag = value := by simpa using member
    exact .inl (shape ▸ same ▸ List.mem_cons_self ..)
  next => cases copied

theorem ends_arithmetic (op : Arithmetic) :
    Ends (execute (.arithmetic op)) a (Executes a (.arithmetic op)) a.shared.Same := by
  refine ends_andProceed (ends_bind (ends_popInt (same_refl _)) ?_)
  rintro right _ ⟨_, stack, _, shape, rfl⟩
  refine ends_bind (ends_popInt (same_refl _)) ?_
  rintro left _ ⟨_, rest, _, shape', rfl⟩
  refine ends_bind (ends_check (same_refl _)) ?_
  rintro result _ ⟨_, rfl⟩
  have below := List.Subset.trans (subset_of_pop shape') (subset_of_pop shape)
  exact works_stack [.int result] rfl below (gives_int _ result) rfl (same_refl _)

theorem ends_iinc (slot : Nat) (delta : Int8) :
    Ends (execute (.iinc slot delta)) a (Executes a (.iinc slot delta)) a.shared.Same := by
  refine ends_andProceed (ends_bind (ends_getLocal slot (same_refl _)) ?_)
  rintro value b ⟨_, rfl⟩
  cases value with
  | int value =>
    refine (ends_setLocal slot _ (same_refl _)).imp ?_
    rintro _ _ rfl
    refine .works (fun address tag has => .inl ?_) trivial (same_refl _)
    rcases has with onStack | inLocals
    · exact .inl onStack
    · rcases List.mem_or_eq_of_mem_set inLocals with old | new
      · exact .inr old
      · cases new
  | _ => exact ends_throw (same_refl _)

/-- A branch that pops its operands and then jumps or does not. -/
theorem ends_branch {instr : Instr} {b : Activation} {stack : List Value} (holds : Bool) (offset : Int)
    (below : stack ⊆ a.frame.stack) (same : b = a.withStack stack) :
    Ends (branch holds offset) b (fun _ c => Executes a instr .proceed c) a.shared.Same := by
  subst same
  cases holds with
  | false => exact works_stack [] rfl below (gives_none _) rfl (same_refl _)
  | true =>
    refine Ends.imp (ends_jump offset (same_refl _)) ?_
    rintro _ _ ⟨code, rfl⟩
    exact works_stack [] rfl below (gives_none _) rfl (same_refl _)

theorem ends_branchZero (comparison : Comparison) (offset : Int) :
    Ends (execute (.branchZero comparison offset)) a (Executes a (.branchZero comparison offset))
      a.shared.Same := by
  refine ends_andProceed (ends_bind (ends_popInt (same_refl _)) ?_)
  rintro int b ⟨_, stack, _, shape, same⟩
  exact ends_branch _ offset (subset_of_pop shape) same

theorem ends_branchInts (comparison : Comparison) (offset : Int) :
    Ends (execute (.branchInts comparison offset)) a (Executes a (.branchInts comparison offset))
      a.shared.Same := by
  refine ends_andProceed (ends_bind (ends_popInt (same_refl _)) ?_)
  rintro right _ ⟨_, stack, _, shape, rfl⟩
  refine ends_bind (ends_popInt (same_refl _)) ?_
  rintro left b ⟨_, rest, _, shape', same⟩
  exact ends_branch _ offset (List.Subset.trans (subset_of_pop shape') (subset_of_pop shape)) same

theorem ends_goto (offset : Int) :
    Ends (execute (.goto offset)) a (Executes a (.goto offset)) a.shared.Same :=
  ends_andProceed (ends_branch true offset (List.Subset.refl _) rfl)

theorem ends_ireturn : Ends (execute .ireturn) a (Executes a .ireturn) a.shared.Same := by
  refine ends_bind (ends_popInt (same_refl _)) ?_
  rintro int _ ⟨_, stack, _, shape, rfl⟩
  exact ends_pure (.works (Frame.draws_of_drop rfl (subset_of_pop shape))
    (gives_int _ int) (same_refl _))

theorem ends_areturn : Ends (execute .areturn) a (Executes a .areturn) a.shared.Same := by
  refine ends_bind (ends_popAny (same_refl _)) ?_
  rintro ⟨address, tag⟩ _ ⟨stack, shape, rfl⟩
  refine ends_pure (.works (Frame.draws_of_drop rfl (subset_of_pop shape)) ?_ (same_refl _))
  intro place kind member
  cases List.mem_singleton.1 member
  exact .inl (shape ▸ List.mem_cons_self ..)

theorem ends_leave : Ends (execute .leave) a (Executes a .leave) a.shared.Same :=
  ends_pure (.works (fun _ _ has => .inl has) (gives_none _) (same_refl _))

theorem zeroArray_plain {code : UInt8} {count : Nat} {array : HeapObject}
    (made : zeroArray code count = .ok array) (className : String) (fields : Fields) :
    array ≠ .instanceOf className fields := by
  unfold zeroArray at made
  split at made
  · cases made
    simp
  · split at made
    · cases made
      simp
    · cases made

theorem ends_newarray (code : UInt8) :
    Ends (execute (.newarray code)) a (Executes a (.newarray code)) a.shared.Same := by
  refine ends_andProceed (ends_bind (ends_popInt (same_refl _)) ?_)
  rintro count _ ⟨_, stack, _, shape, rfl⟩
  refine ends_ite (fun _ => ends_throw_bind (same_refl _)) fun _ => ?_
  refine ends_bind (ends_check (same_refl _)) ?_
  rintro array _ ⟨made, rfl⟩
  refine ends_bind (ends_allocate array) ?_
  rintro address _ ⟨rfl, rfl⟩
  refine .makes array (zeroArray_plain made) ?_ (same_refl _)
  exact Frame.draws_of_suffix [_] rfl rfl (subset_of_pop shape) fun _ _ member => .inr member

theorem ends_arraylength : Ends (execute .arraylength) a (Executes a .arraylength) a.shared.Same := by
  refine ends_andProceed (ends_bind (ends_popAny (same_refl _)) ?_)
  rintro ⟨array, tag⟩ _ ⟨stack, shape, rfl⟩
  refine ends_bind (ends_asking (same_refl _)) ?_
  rintro length _ ⟨_, rfl⟩
  exact works_stack [.int _] rfl (subset_of_pop shape) (gives_int _ _) rfl (same_refl _)

theorem ends_monitor : Ends (execute .monitor) a (Executes a .monitor) a.shared.Same := by
  refine ends_andProceed (ends_map _ ((ends_popAny (same_refl _)).imp ?_))
  rintro popped _ ⟨stack, shape, rfl⟩
  exact works_stack [] rfl (subset_of_pop shape) (gives_none _) rfl (same_refl _)

end Exec

end MiniJvm
