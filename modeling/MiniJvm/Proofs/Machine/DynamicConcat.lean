import MiniJvm.Proofs.Concat.Recipe
import MiniJvm.Proofs.Constant.Linking
import MiniJvm.Proofs.Machine.Opcode
import MiniJvm.Proofs.Machine.Operands
import MiniJvm.Proofs.Machine.UsableIndices

/-!
String concatenation by a dynamic call, from the operand stack to the new string. The call site leads over
the table of bootstrap methods to a recipe and its constants, and its descriptor tells how the operands are
to be shown. What is pushed is a reference to the one string that is new.
-/

namespace MiniJvm

open Effect Activation

/-- The text that a recipe takes for a constant. -/
def Constant.text? : Constant → Option String
  | .string _ text => some text
  | .integer value => some (toString value.toInt)
  | _ => none

def Pool.text? (pool : Pool) (index : UInt16) : Option String :=
  (pool.get index).toOption.bind Constant.text?

namespace Exec

/-- How a recipe shows an operand. It is the type of the parameter that decides, not the kind of value: a
char is the 16 bits of an int, and half of a surrogate pair is shown as the replacement character. -/
inductive Shows (heap : Heap) : FieldType → Value → String → Prop
  | int {operand : Value} {int : Int32} (seen : operand.toInt? = some int) :
      Shows heap .int operand (toString int.toInt)
  | boolean {operand : Value} {int : Int32} (seen : operand.toInt? = some int) :
      Shows heap .boolean operand (if int = 0 then "false" else "true")
  | char {operand : Value} {int : Int32} {unit : Nat} (seen : operand.toInt? = some int)
      (narrow : (unit : Int) = int.toInt % 65536) (whole : unit < 0xd800 ∨ 0xe000 ≤ unit) :
      Shows heap .char operand (String.singleton (Char.ofNat unit))
  | surrogate {operand : Value} {int : Int32} {unit : Nat} (seen : operand.toInt? = some int)
      (narrow : (unit : Int) = int.toInt % 65536) (half : 0xd800 ≤ unit ∧ unit < 0xe000) :
      Shows heap .char operand (String.singleton (Char.ofNat 0xfffd))
  | string {type : FieldType} {address : Nat} {text : String} (string : type.isString = true)
      (there : heap.objects[address]? = some (.str text)) :
      Shows heap type (.reference address Value.stringTag) text

/-- What a call site says. Its bootstrap method takes the recipe and behind it the constants. -/
inductive Describes (classFile : ClassFile) (index : UInt16) : ConcatSite → Prop
  | intro {callSite : CallSite} {table : List BootstrapMethod} {bootstrap : BootstrapMethod}
      {handle : MethodHandle} {recipeIndex textIndex : UInt16} {others : List UInt16} {recipe : String}
      {constants : List String} {type : MethodType} {returned : FieldType}
      (site : classFile.pool.get index = .ok (.invokeDynamic callSite))
      (named : callSite.nameAndType.name = concatName)
      (kept : classFile.bootstrapMethods? = some table)
      (entry : table[callSite.bootstrapIndex.toNat]? = some bootstrap)
      (handled : classFile.pool.methodHandle bootstrap.handleIndex = .ok handle)
      (known : handle.reference.name = concatName)
      (arguments : bootstrap.arguments = recipeIndex :: others)
      (first : classFile.pool.get recipeIndex = .ok (.string textIndex recipe))
      (rest : others.map classFile.pool.text? = constants.map some)
      (typed : MethodType.parse callSite.nameAndType.descriptor = .ok type)
      (returns : type.returns = some returned) (string : returned.isString = true) :
      Describes classFile index ⟨recipe, constants, type.parameters⟩

/-- What a concatenation makes of a heap and an operand stack. The operands are taken, each is shown as the
parameter at its own position asks for, and their texts and the constants fill the recipe. The only object
that is new is the text, and a reference to it lies where the operands were. -/
inductive Concatenates (site : ConcatSite) (heap : Heap) (stack : List Value) :
    Heap → List Value → Prop
  | intro {operands base : List Value} {texts : List String}
      (shape : stack = operands.reverse ++ base)
      (shown : Each (Shows heap) site.parameters operands texts)
      (suits : Concat.Suits site.recipe.toList texts site.constants) :
      Concatenates site heap stack
        (heap.push (.str (Concat.filled site.recipe.toList texts site.constants)))
        (.reference heap.size Value.stringTag :: base)

/-! ### The call site -/

variable {classFile : ClassFile} {pool : Pool} {index padding : UInt16} {a b : Activation}

theorem recipeText_ok {text : String} (found : recipeText pool index = .ok text) :
    ∃ textIndex, pool.get index = .ok (.string textIndex text) := by
  obtain ⟨constant, got, chosen⟩ := except_bind_ok.1 found
  cases constant with
  | string textIndex text =>
    cases chosen
    exact ⟨textIndex, got⟩
  | _ => cases chosen

theorem toOption_constantText (pool : Pool) (index : UInt16) :
    (constantText pool index).toOption = pool.text? index := by
  unfold constantText Pool.text?
  cases pool.get index with
  | error fault => rfl
  | ok constant =>
    cases constant with
    | _ => rfl

theorem recipeParts_ok {arguments : List UInt16} {recipe : String} {constants : List String}
    (found : recipeParts pool arguments = .ok (recipe, constants)) :
    ∃ recipeIndex textIndex others, arguments = recipeIndex :: others ∧
      pool.get recipeIndex = .ok (.string textIndex recipe) ∧
      others.map pool.text? = constants.map some := by
  cases arguments with
  | nil => cases found
  | cons recipeIndex others =>
    obtain ⟨text, first, rest⟩ := except_bind_ok.1 found
    obtain ⟨texts, behind, last⟩ := except_bind_ok.1 rest
    cases last
    obtain ⟨textIndex, got⟩ := recipeText_ok first
    have each := congrArg (List.map Except.toOption) (mapM_ok_iff_map.1 behind)
    have asked : Except.toOption ∘ constantText pool = pool.text? :=
      funext (toOption_constantText pool)
    rw [List.map_map, List.map_map, asked] at each
    exact ⟨recipeIndex, textIndex, others, rfl, got, each⟩

theorem concatBootstrap_ok {site : CallSite} {bootstrap : BootstrapMethod}
    (found : concatBootstrap classFile site = .ok bootstrap) :
    site.nameAndType.name = concatName ∧ ∃ table handle,
      classFile.bootstrapMethods? = some table ∧
      table[site.bootstrapIndex.toNat]? = some bootstrap ∧
      classFile.pool.methodHandle bootstrap.handleIndex = .ok handle ∧
      handle.reference.name = concatName := by
  unfold concatBootstrap at found
  split at found
  · cases found
  next named =>
    dsimp only at found
    split at found
    · cases found
    next entry there =>
      obtain ⟨handle, handled, rest⟩ := except_bind_ok.1 found
      split at rest
      · cases rest
      next known =>
        cases rest
        refine ⟨Decidable.not_not.1 named, ?_⟩
        cases kept : classFile.bootstrapMethods? with
        | none => simp [kept] at there
        | some table =>
          rw [kept] at there
          exact ⟨table, handle, rfl, there, handled, Decidable.not_not.1 known⟩

theorem concatParameters_ok {site : CallSite} {parameters : List FieldType}
    (found : concatParameters site = .ok parameters) : ∃ type returned,
      MethodType.parse site.nameAndType.descriptor = .ok type ∧ type.returns = some returned ∧
      returned.isString = true ∧ parameters = type.parameters := by
  obtain ⟨type, typed, chosen⟩ := except_bind_ok.1 found
  split at chosen
  next returned returns =>
    split at chosen
    next string =>
      cases chosen
      exact ⟨type, returned, typed, returns, string, rfl⟩
    next => cases chosen
  next => cases chosen

theorem describes_of_concatSite {site : ConcatSite} (found : concatSite classFile index = .ok site) :
    Describes classFile index site := by
  obtain ⟨callSite, looked, rest⟩ := except_bind_ok.1 found
  obtain ⟨bootstrap, chosen, rest⟩ := except_bind_ok.1 rest
  obtain ⟨⟨recipe, constants⟩, parted, rest⟩ := except_bind_ok.1 rest
  obtain ⟨parameters, typing, last⟩ := except_bind_ok.1 rest
  cases last
  obtain ⟨named, table, handle, kept, entry, handled, known⟩ := concatBootstrap_ok chosen
  obtain ⟨recipeIndex, textIndex, others, arguments, first, behind⟩ := recipeParts_ok parted
  obtain ⟨type, returned, typed, returns, string, rfl⟩ := concatParameters_ok typing
  exact .intro (Pool.callSite_ok.1 looked) named kept entry handled known arguments first behind typed
    returns string

/-! ### The operands -/

theorem unitText_eq (unit : UInt16) : Utf16.unitText unit = String.singleton
    (if 0xd800 ≤ unit.toNat ∧ unit.toNat < 0xe000 then Char.ofNat 0xfffd
      else Char.ofNat unit.toNat) := by
  have halves : (Utf16.isHigh unit || Utf16.isLow unit) = true ↔
      0xd800 ≤ unit.toNat ∧ unit.toNat < 0xe000 := by
    simp only [Utf16.isHigh, Utf16.isLow, Bool.or_eq_true, Bool.and_eq_true, decide_eq_true_eq]
    omega
  have alone : Utf16.unitText unit =
      String.singleton ((Utf16.single unit).getD (Char.ofNat 0xfffd)) := rfl
  rw [alone, Utf16.single]
  simp only [halves]
  split
  · rfl
  · rfl

theorem shows_char {heap : Heap} {operand : Value} {int : Int32}
    (seen : operand.toInt? = some int) :
    Shows heap .char operand (Utf16.unitText int.toUInt32.toUInt16) := by
  have narrow := toNat_narrowed int
  rw [unitText_eq]
  split
  next half => exact .surrogate seen narrow half
  next whole => exact .char seen narrow (by omega)

theorem shows_boolean {heap : Heap} {operand : Value} {int : Int32}
    (seen : operand.toInt? = some int) :
    Shows heap .boolean operand (Value.booleanText (int != 0)) := by
  have same : Value.booleanText (int != 0) = if int = 0 then "false" else "true" := by
    by_cases zero : int = 0
    · simp [zero, Value.booleanText]
    · simp [zero, Value.booleanText]
  rw [same]
  exact .boolean seen

def TakesShown (a : Activation) (parameter : FieldType) (stack : List Value) (text : String)
    (b : Activation) : Prop :=
  ∃ operand rest, stack = operand :: rest ∧ Shows a.shared.heap parameter operand text ∧
    b = a.withStack rest

theorem ends_popNumber {parameter : FieldType} {text : Int32 → String} (stack : List Value)
    {stuck : Shared → Prop} (fails : stuck a.shared)
    (shows : ∀ operand int, operand.toInt? = some int →
      Shows a.shared.heap parameter operand (text int)) :
    Ends (popInt >>= fun int => pure (text int)) (a.withStack stack)
      (TakesShown a parameter stack) stuck := by
  refine ends_bind (ends_popInt fails) ?_
  rintro int _ ⟨operand, rest, seen, shape, rfl⟩
  exact ends_pure ⟨operand, rest, shape, shows operand int seen, rfl⟩

theorem ends_popShown (parameter : FieldType) (stack : List Value) {stuck : Shared → Prop}
    (fails : stuck a.shared) :
    Ends (popOperand parameter) (a.withStack stack) (TakesShown a parameter stack) stuck := by
  unfold popOperand
  split
  next => exact ends_popNumber stack fails fun _ _ => .int
  next => exact ends_popNumber stack fails fun _ _ => shows_char
  next => exact ends_popNumber stack fails fun _ _ => shows_boolean
  next =>
    refine ends_ite (fun string => ?_) fun _ => ends_throw fails
    refine ends_bind (ends_popReference _ fails) ?_
    rintro address _ ⟨rest, shape, rfl⟩
    refine Ends.imp (ends_asking fails) ?_
    rintro text _ ⟨found, rfl⟩
    exact ⟨_, rest, shape, .string string (Heap.string_ok.1 found), rfl⟩

/-! ### The call -/

theorem ends_concatenates (index padding : UInt16) {stuck : Shared → Prop} (fails : stuck a.shared) :
    Ends (invokedynamic index padding) a (fun control b => control = .proceed ∧ ∃ site stack,
      Describes a.frame.classFile index site ∧ b.frame = { a.frame with stack } ∧
      Concatenates site a.shared.heap a.frame.stack b.shared.heap stack) stuck := by
  refine ends_ite (fun _ => ends_throw_bind fails) fun _ => ?_
  refine ends_bind (ends_check fails) ?_
  rintro site _ ⟨found, rfl⟩
  refine ends_bind (ends_fromLast (fun parameter stack => ends_popShown parameter stack fails)
    site.parameters) ?_
  rintro texts _ ⟨operands, base, shape, shown, rfl⟩
  refine ends_bind (ends_check fails) ?_
  rintro text _ ⟨filled, rfl⟩
  have spec := Concat.fill_spec site.recipe texts site.constants
  rw [filled] at spec
  obtain ⟨suits, rfl⟩ := spec
  exact ⟨rfl, site, _, describes_of_concatSite found, rfl, .intro shape shown suits⟩

end Exec

theorem Instr.length_dynamic {opcode : UInt8}
    (listed : StackEffect.ofOpcode? opcode = some .dynamic) : Instr.length opcode = 5 := by
  have other {c : Prop} [Decidable c] {effect : StackEffect} {rest : Option StackEffect}
      (apart : effect ≠ .dynamic) (same : (if c then some effect else rest) = some .dynamic) :
      rest = some .dynamic := by
    split at same
    · exact absurd (Option.some.inj same) apart
    · exact same
  unfold StackEffect.ofOpcode? at listed
  -- The dynamic call is the last entry of the table.
  iterate 10 replace listed := other (by simp) listed
  split at listed
  next dynamic =>
    subst dynamic
    decide
  next => cases listed

namespace Machine

open Exec

/-- A dynamic call that succeeds leads from its call site to a recipe. In place of its operands it leaves a
reference to a new string, which is the only new object: the recipe with each operand mark replaced by the
text of the operand of the same number, as its parameter asks for it, and each constant mark by the constant
of the same number. It goes on behind its five bytes, and nothing else changes. -/
theorem concat_pushes_text (machine later : Machine) (top : Frame) (below : List Frame)
    (index padding : UInt16) (a : Activation) (running : machine.frames = top :: below)
    (about : machine.AboutTo (.invokedynamic index padding) a) (ran : step machine = .ok () later) :
    ∃ site frame, Describes top.classFile index site ∧ later.frames = frame :: below ∧
      Concatenates site machine.shared.heap top.stack later.shared.heap frame.stack ∧
      frame.pc = top.pc + 5 ∧ frame.locals = top.locals := by
  obtain ⟨_, _, instr, a', control, b, frames, read, executed, applied⟩ := step_ok ran
  cases running.symm.trans frames
  obtain ⟨rfl, rfl⟩ := about.unique ⟨top, below, running, read⟩
  have ends : Ends (invokedynamic index padding) a _ (fun _ => True) :=
    ends_concatenates index padding trivial
  obtain ⟨rfl, site, stack, described, sameFrame, concatenates⟩ := ends.done executed
  cases applied
  obtain ⟨_, _, decodedFrame⟩ := decoded_frame read
  obtain ⟨opcode, _, moved, encodes⟩ := decoded_encodes read
  rw [Instr.length_dynamic encodes.effect] at moved
  have pc : b.frame.pc = a.frame.pc := by rw [sameFrame]; rfl
  refine ⟨site, b.frame, ?_, rfl, ?_, pc.trans moved, ?_⟩
  · rw [decodedFrame] at described
    exact described
  · rw [(decoded_sameStore read).heap, decodedFrame] at concatenates
    rw [sameFrame]
    exact concatenates
  · rw [sameFrame, decodedFrame]

/-- A class whose entry point joins an int, a char, a boolean and a string with one constant. The string has
a character that would be a mark if it were looked at again. -/
def labelBytes : Array UInt8 :=
  (Layout.u4 ClassFile.magic ++ Layout.u2 0 ++ Layout.u2 52 ++
    Entry.encodePool [.utf8 "Label", .classRef 1, .utf8 mainName, .utf8 mainDescriptor, .utf8 "Code",
      .utf8 "BootstrapMethods", .utf8 concatName,
      .utf8 "(ICZLjava/lang/String;)Ljava/lang/String;", .nameAndType 7 8, .methodRef 2 9,
      .methodHandle 6 10, .utf8 "\x01/\x02\x01\x01\x01", .string 12, .integer 9, .utf8 "a\x01",
      .string 15, .invokeDynamic 0 9] ++
    Layout.u2 0 ++ Layout.u2 2 ++ Layout.u2 0 ++ Layout.u2 0 ++ Layout.counted Member.layout [] ++
    Layout.counted Member.layout
      [⟨mainFlags, 3, 4, mainName, mainDescriptor,
        [.code 5 5 1 #[16, 7, 16, 251, 16, 65, 5, 18, 16, 186, 0, 17, 0, 0] [] []]⟩] ++
    Attribute.layoutAll [.bootstrapMethods 6 [⟨11, [13, 14]⟩]]).toArray

def labelMachine : Machine :=
  after [.define labelBytes, .start 0 "Label", .step, .step, .step, .step, .step]
    (fresh "" Disk.empty Sink.unbounded 0)

/-- Two, shown as a boolean, is true, and the mark in the string stays as it is. -/
theorem label_concatenated :
    labelMachine.frames.map Frame.stack =
      [[.reference 0 Value.stringTag, .int 2, .int 65, .int (-5), .int 7]] ∧
    (final (step labelMachine)).shared.heap.objects.toList = [.str "a\x01", .str "-5/9Atruea\x01"] ∧
    ∃ top site frame, labelMachine.frames = [top] ∧ Describes top.classFile 17 site ∧
      (final (step labelMachine)).frames = [frame] ∧
      Concatenates site labelMachine.shared.heap top.stack
        (final (step labelMachine)).shared.heap frame.stack ∧
      frame.pc = top.pc + 5 := by
  have facts :
      labelMachine.frames.map Frame.stack =
        [[.reference 0 Value.stringTag, .int 2, .int 65, .int (-5), .int 7]] ∧
      (final (step labelMachine)).shared.heap.objects.toList =
        [.str "a\x01", .str "-5/9Atruea\x01"] ∧
      labelMachine.frames.map (fun top => value? (decoded ⟨top, labelMachine.shared⟩)) =
        [some (.invokedynamic 17 0)] ∧
      value? (step labelMachine) = some () := by
    decide +kernel
  obtain ⟨stacked, joined, decodes, succeeds⟩ := facts
  obtain ⟨top, running⟩ := List.length_eq_one_iff.1 (by simpa using congrArg List.length stacked)
  have read : value? (decoded ⟨top, labelMachine.shared⟩) = some (.invokedynamic 17 0) := by
    simpa [running] using decodes
  obtain ⟨site, frame, described, frames, concatenates, pc, _⟩ :=
    concat_pushes_text labelMachine _ top [] 17 0 _ running ⟨top, [], running, eq_ok_of_value? read⟩
      (eq_ok_of_value? succeeds)
  exact ⟨stacked, joined, top, site, frame, running, described, frames, concatenates, pc⟩

end Machine

end MiniJvm
