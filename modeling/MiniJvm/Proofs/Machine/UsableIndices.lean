import MiniJvm.Proofs.Machine.FieldTypes
import MiniJvm.Proofs.Machine.FrameIntegrity

/-!
The indices that a class keeps. All of them have been looked up when the class was read, those of attributes
inside of code too, so that each is found again with the same result. A dynamic call uses the indices of the
table of bootstrap methods without a check of its own; as these are among them, the only index that can
fail it is the operand of its instruction.
-/

namespace MiniJvm

open Effect

theorem Effect.errsOnly_bind_of_ok {ε α β : Type} {allowed : ε → Prop} {first : Except ε α}
    {next : α → Except ε β} (start : ErrsOnly allowed first)
    (rest : ∀ value, first = .ok value → ErrsOnly allowed (next value)) :
    ErrsOnly allowed (first >>= next) := by
  cases first with
  | ok value => exact rest value rfl
  | error cause =>
    intro e failed
    cases failed
    exact start rfl

/-- The given attributes and, at any depth, those inside of code. -/
inductive Attribute.Within (attributes : List Attribute) : Attribute → Prop
  | here {self : Attribute} (member : self ∈ attributes) : Within attributes self
  | inside {nameIndex maxStack maxLocals : UInt16} {bytes : Array UInt8} {handlers : List Handler}
      {nested : List Attribute} {self : Attribute}
      (outer : Within attributes (.code nameIndex maxStack maxLocals bytes handlers nested))
      (member : self ∈ nested) : Within attributes self

theorem Attribute.Within.wellFormed {pool : Pool} {attributes : List Attribute} {self : Attribute}
    (within : Within attributes self) (each : ∀ outer ∈ attributes, outer.WellFormed pool) :
    self.WellFormed pool := by
  induction within with
  | here member => exact each _ member
  | inside _ member ih =>
    cases ih with
    | code _ _ _ _ _ nested => exact nested _ member

theorem Pool.get_usable {pool : Pool} {index : UInt16} {constant : Constant}
    (got : pool.get index = .ok constant) : constant ≠ .unusable := by
  unfold get at got
  split at got
  · cases got
  · split at got
    · cases got
    next usable _ =>
      cases got
      exact usable
    · cases got

/-- A constant is loadable when its slot is usable and it is neither a text nor a name with a type. -/
theorem Pool.checkLoadable_ok {pool : Pool} {index : UInt16} :
    pool.checkLoadable index = .ok () ↔
      ∃ constant, pool.get index = .ok constant ∧
        constant.kind ∉ [.unusable, .utf8, .nameAndType] := by
  unfold checkLoadable
  rw [except_bind_ok]
  refine exists_congr fun constant => and_congr_right fun got => ?_
  have usable := get_usable got
  cases constant with
  | unusable => exact absurd rfl usable
  | utf8 text => simp [Constant.kind, Constant.entry, Entry.kind, throw, throwThe, MonadExceptOf.throw]
  | nameAndType pair =>
    simp [Constant.kind, Constant.entry, Entry.kind, throw, throwThe, MonadExceptOf.throw]
  | _ => simp [Constant.kind, Constant.entry, Entry.kind, pure, Except.pure]

theorem Pool.callSite_ok {pool : Pool} {index : UInt16} {site : CallSite} :
    pool.callSite index = .ok site ↔ pool.get index = .ok (.invokeDynamic site) := by
  unfold callSite
  rw [except_bind_ok]
  constructor
  · rintro ⟨constant, got, chosen⟩
    cases constant with
    | invokeDynamic found =>
      cases chosen
      exact got
    | _ => cases chosen
  · intro got
    exact ⟨_, got, rfl⟩

namespace ClassFile

/-- The attributes of a class, of its fields and of its methods, at any depth. -/
def Keeps (classFile : ClassFile) (self : Attribute) : Prop :=
  Attribute.Within classFile.attributes self ∨
    ∃ member ∈ classFile.fields ++ classFile.methods, Attribute.Within member.attributes self

/-- Every index that the class keeps leads to what it has to lead to, and to the text on record. -/
structure Usable (classFile : ClassFile) : Prop where
  name : ∃ ref, classFile.pool.classRef classFile.thisClass = .ok ref ∧ ref.name = classFile.name
  superName : classFile.superClass ≠ 0 →
    ∃ ref, classFile.pool.classRef classFile.superClass = .ok ref ∧
      classFile.superName? = some ref.name
  members : ∀ member ∈ classFile.fields ++ classFile.methods,
    classFile.pool.utf8 member.nameIndex = .ok member.name ∧
      classFile.pool.utf8 member.descriptorIndex = .ok member.descriptor
  attributes : ∀ self, classFile.Keeps self → classFile.pool.utf8 self.nameIndex = .ok self.name
  sources : ∀ nameIndex textIndex text, classFile.Keeps (.sourceFile nameIndex textIndex text) →
    classFile.pool.utf8 textIndex = .ok text
  handles : ∀ nameIndex methods, classFile.Keeps (.bootstrapMethods nameIndex methods) →
    ∀ method ∈ methods, ∃ handle, classFile.pool.methodHandle method.handleIndex = .ok handle
  arguments : ∀ nameIndex methods, classFile.Keeps (.bootstrapMethods nameIndex methods) →
    ∀ method ∈ methods, ∀ index ∈ method.arguments,
      ∃ constant, classFile.pool.get index = .ok constant ∧
        constant.kind ∉ [.unusable, .utf8, .nameAndType]

variable {classFile : ClassFile}

theorem Linked.masked (linked : classFile.Linked) : classFile.masked.Linked := by
  have members {members : List Member} (each : ∀ member ∈ members, member.Linked classFile.pool) :
      ∀ member ∈ members.map Member.masked, member.Linked classFile.pool := by
    intro member listed
    obtain ⟨stored, there, rfl⟩ := List.mem_map.1 listed
    have formed := each stored there
    exact ⟨formed.name, formed.descriptor, formed.attributes⟩
  exact ⟨linked.pool, linked.name, linked.superClass, members linked.fields, members linked.methods,
    linked.attributes⟩

theorem Accepted.linked (accepted : classFile.Accepted) : classFile.Linked := by
  obtain ⟨bytes, parsed⟩ := accepted
  obtain ⟨stored, wellFormed, _, rfl⟩ := parse_eq_ok.1 parsed
  exact wellFormed.linked.masked

theorem Linked.member (linked : classFile.Linked) {member : Member}
    (listed : member ∈ classFile.fields ++ classFile.methods) : member.Linked classFile.pool := by
  rcases List.mem_append.1 listed with field | method
  · exact linked.fields member field
  · exact linked.methods member method

theorem Linked.kept (linked : classFile.Linked) {self : Attribute} (kept : classFile.Keeps self) :
    self.WellFormed classFile.pool := by
  rcases kept with within | ⟨member, listed, within⟩
  · exact within.wellFormed linked.attributes
  · exact within.wellFormed (linked.member listed).attributes

theorem Linked.bootstrap (linked : classFile.Linked) {nameIndex : UInt16}
    {methods : List BootstrapMethod} (kept : classFile.Keeps (.bootstrapMethods nameIndex methods))
    {method : BootstrapMethod} (listed : method ∈ methods) : method.WellFormed classFile.pool := by
  cases linked.kept kept with
  | bootstrapMethods _ _ each => exact each method listed

theorem Linked.bootstrap_at (linked : classFile.Linked) {place : Nat} {method : BootstrapMethod}
    (found : (classFile.bootstrapMethods?.getD [])[place]? = some method) :
    method.WellFormed classFile.pool := by
  cases table : classFile.bootstrapMethods? with
  | none => simp [table] at found
  | some methods =>
    obtain ⟨self, listed, isTable⟩ := List.exists_of_findSome?_eq_some table
    rw [table] at found
    cases self with
    | bootstrapMethods nameIndex stored =>
      cases isTable
      exact linked.bootstrap (.inl (.here listed)) (List.mem_of_getElem? found)
    | _ => cases isTable

theorem Linked.usable (linked : classFile.Linked) : classFile.Usable where
  name := by
    obtain ⟨ref, found, named⟩ := except_bind_ok.1 linked.name
    exact ⟨ref, found, Except.ok.inj named⟩
  superName := by
    intro nonzero
    obtain ⟨ref, found⟩ := linked.superClass.resolve_left nonzero
    refine ⟨ref, found, ?_⟩
    unfold superName? Pool.className
    rw [if_neg nonzero, found]
    rfl
  members := by
    intro member listed
    have formed := linked.member listed
    exact ⟨formed.name, formed.descriptor⟩
  attributes := by
    intro self kept
    exact (linked.kept kept).named
  sources := by
    intro nameIndex textIndex text kept
    cases linked.kept kept with
    | sourceFile _ found => exact found
  handles := by
    intro nameIndex methods kept method listed
    exact (linked.bootstrap kept listed).handle
  arguments := by
    intro nameIndex methods kept method listed index argument
    exact Pool.checkLoadable_ok.1 ((linked.bootstrap kept listed).loadable index argument)

end ClassFile

/-! ### Dynamic calls -/

/-- The cause is something else than an index into a constant pool. -/
def Fault.Unbroken : Fault → Prop
  | .brokenReference .. => False
  | _ => True

theorem Heap.string_unbroken (heap : Heap) (address : Nat) :
    ErrsOnly Fault.Unbroken (heap.string address) := by
  unfold string
  refine errsOnly_bind ?_ fun object => ?_
  · unfold get
    split
    · exact errsOnly_ok _
    · exact errsOnly_error trivial
  · cases object with
    | str text => exact errsOnly_ok _
    | _ => exact errsOnly_error trivial

theorem Pool.callSite_error {pool : Pool} {index : UInt16} {fault : Fault}
    (failed : pool.callSite index = .error fault) :
    ∃ wanted met, fault = .brokenReference index wanted met := by
  unfold callSite get at failed
  split at failed
  · cases failed
    exact ⟨_, _, rfl⟩
  · split at failed
    · cases failed
      exact ⟨_, _, rfl⟩
    next constant _ _ =>
      cases constant with
      | invokeDynamic site => cases failed
      | _ =>
        cases failed
        exact ⟨_, _, rfl⟩
    · cases failed
      exact ⟨_, _, rfl⟩

namespace Exec

variable {a : Activation} {classFile : ClassFile} {index padding : UInt16}

theorem popInt_unbroken : FailsOnly Fault.Unbroken popInt := by
  refine failsOnly_onFrame (failsOnly_bind (Frame.failsOnly_pop trivial) fun value => ?_)
  cases value.toInt? with
  | some int => exact failsOnly_pure int
  | none => exact failsOnly_throw trivial

theorem popReference_unbroken (tag : String) : FailsOnly Fault.Unbroken (popReference tag) :=
  failsOnly_onFrame (Frame.failsOnly_popReference trivial (fun _ _ => trivial) tag)

theorem popOperand_unbroken (parameter : FieldType) :
    FailsOnly Fault.Unbroken (popOperand parameter) := by
  have asked (address : Nat) :
      FailsOnly Fault.Unbroken (onShared (Shared.asking (·.string address))) := by
    refine failsOnly_onShared ?_
    intro shared later fault failed
    unfold Shared.asking at failed
    split at failed
    · cases failed
    next refused =>
      cases failed
      exact Heap.string_unbroken _ _ refused
  unfold popOperand
  split
  · exact failsOnly_bind popInt_unbroken fun _ => failsOnly_pure _
  · exact failsOnly_bind popInt_unbroken fun _ => failsOnly_pure _
  · exact failsOnly_bind popInt_unbroken fun _ => failsOnly_pure _
  · exact failsOnly_ite (failsOnly_bind (popReference_unbroken _) asked) (failsOnly_throw trivial)

theorem popOperands_unbroken (parameters : List FieldType) :
    FailsOnly Fault.Unbroken (fromLast popOperand parameters) := by
  induction parameters with
  | nil => exact failsOnly_pure []
  | cons parameter others ih =>
    refine failsOnly_bind ih fun results => ?_
    exact failsOnly_bind (popOperand_unbroken parameter) fun _ => failsOnly_pure _

theorem recipeText_unbroken {pool : Pool} (loadable : pool.checkLoadable index = .ok ()) :
    ErrsOnly Fault.Unbroken (recipeText pool index) := by
  obtain ⟨constant, got, _⟩ := Pool.checkLoadable_ok.1 loadable
  unfold recipeText
  rw [got]
  cases constant with
  | string textIndex text => exact errsOnly_ok text
  | _ => exact errsOnly_error trivial

theorem constantText_unbroken {pool : Pool} (loadable : pool.checkLoadable index = .ok ()) :
    ErrsOnly Fault.Unbroken (constantText pool index) := by
  obtain ⟨constant, got, _⟩ := Pool.checkLoadable_ok.1 loadable
  unfold constantText
  rw [got]
  cases constant with
  | string textIndex text => exact errsOnly_ok text
  | integer value => exact errsOnly_ok _
  | _ => exact errsOnly_error trivial

theorem recipeParts_unbroken {pool : Pool} {arguments : List UInt16}
    (loadable : ∀ index ∈ arguments, pool.checkLoadable index = .ok ()) :
    ErrsOnly Fault.Unbroken (recipeParts pool arguments) := by
  cases arguments with
  | nil => exact errsOnly_error trivial
  | cons recipe others =>
    obtain ⟨first, rest⟩ := List.forall_mem_cons.1 loadable
    refine errsOnly_bind (recipeText_unbroken first) fun text => ?_
    refine errsOnly_bind (errsOnly_mapM ?_) fun _ => errsOnly_ok _
    intro index member
    exact constantText_unbroken (rest index member)

theorem concatBootstrap_unbroken (linked : classFile.Linked) (site : CallSite) :
    ErrsOnly Fault.Unbroken (concatBootstrap classFile site) := by
  refine errsOnly_ite (errsOnly_error trivial) ?_
  cases found : (classFile.bootstrapMethods?.getD [])[site.bootstrapIndex.toNat]? with
  | none => exact errsOnly_error trivial
  | some bootstrap =>
    obtain ⟨handle, resolved⟩ := (linked.bootstrap_at found).handle
    refine errsOnly_bind ?_ fun handle => ?_
    · rw [resolved]
      exact errsOnly_ok handle
    · exact errsOnly_ite (errsOnly_error trivial) (errsOnly_ok _)

theorem concatBootstrap_wellFormed (linked : classFile.Linked) {site : CallSite}
    {bootstrap : BootstrapMethod} (chosen : concatBootstrap classFile site = .ok bootstrap) :
    bootstrap.WellFormed classFile.pool := by
  unfold concatBootstrap at chosen
  split at chosen
  · cases chosen
  dsimp only at chosen
  split at chosen
  · cases chosen
  next method found =>
    obtain ⟨handle, _, rest⟩ := except_bind_ok.1 chosen
    split at rest
    · cases rest
    · cases rest
      exact linked.bootstrap_at found

/-- Once the call site is found, no index is broken: the arguments of its bootstrap method have been looked
up before, too. -/
theorem concatSite_broken (linked : classFile.Linked) :
    ErrsOnly (fun fault => fault.Unbroken ∨ classFile.pool.callSite index = .error fault)
      (concatSite classFile index) := by
  refine errsOnly_bind_of_ok (fun fault failed => .inr failed) fun site _ => ?_
  refine ErrsOnly.mono ?_ fun _ => Or.inl
  refine errsOnly_bind_of_ok (concatBootstrap_unbroken linked site) fun bootstrap chosen => ?_
  have loadable := (concatBootstrap_wellFormed linked chosen).loadable
  refine errsOnly_bind (recipeParts_unbroken loadable) fun _ => ?_
  refine errsOnly_bind ?_ fun _ => errsOnly_ok _
  exact errsOnly_concatParameters (fun _ => trivial) (fun _ => trivial) site

/-- What comes behind the call site does not look at the constant pool. -/
theorem concat_unbroken (site : ConcatSite) : FailsOnly Fault.Unbroken (do
    let operands ← fromLast popOperand site.parameters
    let text ← check (Concat.fill site.recipe operands site.constants)
    onShared (Shared.report (.concatenated site.recipe operands text))
    let address ← onShared (Shared.allocate (.str text))
    push (.reference address Value.stringTag)
    return Control.proceed) := by
  refine failsOnly_bind (popOperands_unbroken site.parameters) fun operands => ?_
  refine failsOnly_bind (failsOnly_check ?_) fun text => ?_
  · exact errsOnly_fill (fun _ => trivial) _ operands _
  intro a b fault failed
  cases failed

theorem check_error {α : Type} {result : Except Fault α} {fault : Fault} {b : Activation}
    (failed : check result a = .error fault b) : result = .error fault := by
  unfold check at failed
  cases result with
  | ok value => cases failed
  | error cause =>
    cases failed
    rfl

/-- A dynamic call comes upon a broken index exactly when it has no call site. -/
theorem invokedynamic_broken_iff (linked : a.frame.classFile.Linked) {wrong : UInt16} {wanted : Wanted}
    {met : Found} :
    (∃ b, invokedynamic index padding a = .error (.brokenReference wrong wanted met) b) ↔
      padding = 0 ∧
        a.frame.classFile.pool.callSite index = .error (.brokenReference wrong wanted met) := by
  unfold invokedynamic
  by_cases padded : padding ≠ 0
  · rw [if_pos padded]
    simp only [padded, false_and, iff_false]
    rintro ⟨b, failed⟩
    cases failed
  rw [if_neg padded]
  simp only [ne_eq, not_not] at padded
  simp only [padded, true_and]
  constructor
  · rintro ⟨b, failed⟩
    rcases bind_error.1 failed with unfound | ⟨site, c, _, later⟩
    · have refused := check_error unfound
      exact (concatSite_broken linked refused).resolve_left id
    · exact (concat_unbroken site later).elim
  · intro unfound
    refine ⟨a, bind_error.2 (.inl ?_)⟩
    have refused : concatSite a.frame.classFile index = .error (.brokenReference wrong wanted met) := by
      unfold concatSite
      rw [unfound]
      rfl
    simp only [ofFrame, check, refused]

end Exec

namespace Machine

open Exec

variable {machine : Machine} {index padding : UInt16} {a : Activation}

theorem step_broken_iff (linked : a.frame.classFile.Linked)
    (about : machine.AboutTo (.invokedynamic index padding) a) {wrong : UInt16} {wanted : Wanted}
    {met : Found} :
    (∃ later, step machine = .error (.brokenReference wrong wanted met) later) ↔
      padding = 0 ∧
        a.frame.classFile.pool.callSite index = .error (.brokenReference wrong wanted met) := by
  rw [← invokedynamic_broken_iff linked]
  obtain ⟨frames, shared⟩ := machine
  obtain ⟨top, below, running, read⟩ := about
  cases running
  have executes : execute (.invokedynamic index padding) a = invokedynamic index padding a := rfl
  rw [step_decoded read, executes]
  cases ran : invokedynamic index padding a with
  | error fault b => simp
  | ok control b =>
    cases proceeds_invokedynamic index padding ran
    constructor
    · rintro ⟨later, failed⟩
      cases failed
    · rintro ⟨later, failed⟩
      cases failed

/-- Every class that is read keeps usable indices only. After every history that enters only class files that
have been read, a dynamic call that is well padded comes upon a broken index exactly when its operand is not
the index of a call site, and then it names its operand. -/
theorem kept_indices_usable :
    (∀ bytes classFile, ClassFile.parse bytes = .ok classFile → classFile.Usable) ∧
    ∀ classpath disk output logLimit operations,
      (∀ classFile, .enterMain classFile ∈ operations → classFile.Accepted) →
      ∀ machine, machine = after operations (fresh classpath disk output logLimit) →
      ∀ index padding a, machine.AboutTo (.invokedynamic index padding) a →
        ((∃ wrong wanted met later, step machine = .error (.brokenReference wrong wanted met) later) ↔
          padding = 0 ∧ ∀ site, a.frame.classFile.pool.get index ≠ .ok (.invokeDynamic site)) ∧
        ∀ wrong wanted met later, step machine = .error (.brokenReference wrong wanted met) later →
          wrong = index := by
  constructor
  · intro bytes classFile parsed
    exact (ClassFile.Accepted.linked ⟨bytes, parsed⟩).usable
  intro classpath disk output logLimit operations accepted machine reached index padding a about
  have supplied : Supplied (Available classpath disk operations) classpath Intact machine :=
    reached ▸ supplied_intact accepted
  have linked := (intact_aboutTo supplied.sound supplied.frames about).2.linked
  refine ⟨⟨?_, ?_⟩, ?_⟩
  · rintro ⟨wrong, wanted, met, later, failed⟩
    obtain ⟨unpadded, refused⟩ := (step_broken_iff linked about).1 ⟨later, failed⟩
    refine ⟨unpadded, ?_⟩
    intro site got
    rw [Pool.callSite_ok.2 got] at refused
    cases refused
  · rintro ⟨unpadded, other⟩
    cases looked : a.frame.classFile.pool.callSite index with
    | ok site => exact absurd (Pool.callSite_ok.1 looked) (other site)
    | error fault =>
      obtain ⟨wanted, met, rfl⟩ := Pool.callSite_error looked
      obtain ⟨later, failed⟩ := (step_broken_iff linked about).2 ⟨unpadded, looked⟩
      exact ⟨index, wanted, met, later, failed⟩
  · intro wrong wanted met later failed
    obtain ⟨_, refused⟩ := (step_broken_iff linked about).1 ⟨later, failed⟩
    obtain ⟨_, _, same⟩ := Pool.callSite_error refused
    cases same
    rfl

/-- A class whose entry point makes a dynamic call, and then another one of a string constant. -/
def joinBytes : Array UInt8 :=
  (Layout.u4 ClassFile.magic ++ Layout.u2 0 ++ Layout.u2 52 ++
    Entry.encodePool [.utf8 "Join", .classRef 1, .utf8 mainName, .utf8 mainDescriptor, .utf8 "Code",
      .utf8 "BootstrapMethods", .utf8 concatName, .utf8 "()Ljava/lang/String;", .nameAndType 7 8,
      .methodRef 2 9, .methodHandle 6 10, .utf8 "hi", .string 12, .invokeDynamic 0 9] ++
    Layout.u2 0 ++ Layout.u2 2 ++ Layout.u2 0 ++ Layout.u2 0 ++ Layout.counted Member.layout [] ++
    Layout.counted Member.layout
      [⟨mainFlags, 3, 4, mainName, mainDescriptor,
        [.code 5 2 1 #[186, 0, 14, 0, 0, 186, 0, 13, 0, 0] [] []]⟩] ++
    Attribute.layoutAll [.bootstrapMethods 6 [⟨11, [13]⟩]]).toArray

def joinMachine : Machine :=
  after [.define joinBytes, .start 0 "Join", .step] (fresh "" Disk.empty Sink.unbounded 0)

theorem join_indices_usable :
    (∃ classFile, ClassFile.parse joinBytes = .ok classFile ∧ classFile.Usable) ∧
      joinMachine.shared.heap.string 0 = .ok "hi" ∧
      ∃ wrong wanted met later, step joinMachine = .error (.brokenReference wrong wanted met) later ∧
        wrong = 13 := by
  have facts : (ClassFile.parse joinBytes).toOption.isSome = true ∧
      joinMachine.shared.heap.string 0 = .ok "hi" ∧
      joinMachine.frames.map (fun top => value? (decoded ⟨top, joinMachine.shared⟩)) =
        [some (.invokedynamic 13 0)] ∧
      joinMachine.frames.map (fun top =>
        ((final (decoded ⟨top, joinMachine.shared⟩)).frame.classFile.pool.get 13).toOption) =
        [some (.string 12 "hi")] := by
    decide +kernel
  obtain ⟨parses, joined, decodes, constant⟩ := facts
  obtain ⟨usable, broken⟩ := kept_indices_usable
  obtain ⟨top, running⟩ := List.length_eq_one_iff.1 (by simpa using congrArg List.length decodes)
  rw [running] at decodes constant
  have read := eq_ok_of_value? (List.cons.inj decodes).1
  have entersNone : ∀ classFile, Operation.enterMain classFile ∈
      [Operation.define joinBytes, .start 0 "Join", .step] → classFile.Accepted := by
    intro classFile member
    simp at member
  obtain ⟨fails, names⟩ := broken "" Disk.empty Sink.unbounded 0 _ entersNone joinMachine rfl 13 0 _
    ⟨top, [], running, read⟩
  refine ⟨?_, joined, ?_⟩
  · cases parsed : ClassFile.parse joinBytes with
    | error fault => simp [parsed, Except.toOption] at parses
    | ok classFile => exact ⟨classFile, rfl, usable _ _ parsed⟩
  · have other : ∀ site, (final (decoded ⟨top, joinMachine.shared⟩)).frame.classFile.pool.get 13 ≠
        .ok (.invokeDynamic site) := by
      intro site got
      simp [got, Except.toOption] at constant
    obtain ⟨wrong, wanted, met, later, failed⟩ := fails.2 ⟨rfl, other⟩
    exact ⟨wrong, wanted, met, later, failed, names _ _ _ _ failed⟩

end Machine

end MiniJvm
