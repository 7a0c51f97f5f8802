import MiniJvm.Proofs.Machine.Step

/-!
What the first use of a class does. Reading a static field, writing one and making an object prepare the
class they name; they go on only when it is ready, and hand over the call of its initializer otherwise.
-/

namespace MiniJvm

open Effect

/-- A class that is found is the one that its name stands for. It is known from then on, and finding it
leaves the objects and the static instances alone. -/
theorem Shared.load_ok {name : String} {shared later : Shared} {found : ClassFile}
    (loaded : load name shared = .ok found later) :
    shared.lookup name = .ok found ∧ later.findClass? name = some found ∧ SameStore shared later := by
  have same := sameStore_load name shared
  rw [loaded] at same
  unfold load at loaded
  unfold lookup
  cases known : shared.findClass? name with
  | some stored =>
    rw [known] at loaded
    cases loaded
    exact ⟨rfl, known, same⟩
  | none =>
    rw [known] at loaded
    dsimp only at loaded ⊢
    cases read : classOnDisk shared.classpath shared.disk name with
    | ok onDisk =>
      rw [read] at loaded
      cases loaded
      refine ⟨rfl, ?_, same⟩
      have named := Exec.classOnDisk_name read
      unfold findClass? at known ⊢
      rw [List.find?_append, known]
      simp [named]
    | error fault =>
      rw [read] at loaded
      cases loaded

namespace Exec

variable {α : Type} {a b : Activation}

theorem check_ok {result : Except Fault α} {value : α} :
    check result a = .ok value b ↔ result = .ok value ∧ b = a := by
  unfold check
  cases result with
  | ok found =>
    constructor
    · intro ran
      cases ran
      exact ⟨rfl, rfl⟩
    · rintro ⟨same, rfl⟩
      cases same
      rfl
  | error fault => simp

theorem pooled_ok {find : Pool → Except Fault α} {value : α} :
    pooled find a = .ok value b ↔ find a.frame.classFile.pool = .ok value ∧ b = a :=
  check_ok

theorem onShared_ok {action : Shared.Action α} {value : α} (ran : onShared action a = .ok value b) :
    action a.shared = .ok value b.shared ∧ b.frame = a.frame := by
  unfold onShared at ran
  cases result : action a.shared with
  | ok found shared =>
    rw [result] at ran
    cases ran
    exact ⟨rfl, rfl⟩
  | error fault shared =>
    rw [result] at ran
    cases ran

theorem onFrame_ok {action : Frame.Action α} {value : α} (ran : onFrame action a = .ok value b) :
    action a.frame = .ok value b.frame ∧ b.shared = a.shared := by
  unfold onFrame at ran
  cases result : action a.frame with
  | ok found frame =>
    rw [result] at ran
    cases ran
    exact ⟨rfl, rfl⟩
  | error fault frame =>
    rw [result] at ran
    cases ran

theorem resolveField_ok {index : UInt16} {field : MemberRef} {type : FieldType}
    (found : resolveField index a = .ok (field, type) b) :
    a.frame.classFile.pool.fieldRef index = .ok field ∧ b = a := by
  obtain ⟨reference, c, first, rest⟩ := bind_ok.1 found
  obtain ⟨looked, rfl⟩ := pooled_ok.1 first
  obtain ⟨parsed, d, second, last⟩ := bind_ok.1 rest
  obtain ⟨_, rfl⟩ := check_ok.1 second
  obtain ⟨same, rfl⟩ := pure_ok.1 last
  cases same
  exact ⟨looked, rfl⟩

theorem resolveMethod_found {index : UInt16} {method : MemberRef} {type : MethodType}
    (found : resolveMethod index a = .ok (method, type) b) :
    a.frame.classFile.pool.methodRef index = .ok method ∧
      MethodType.parse method.descriptor = .ok type ∧ b = a := by
  obtain ⟨reference, c, first, rest⟩ := bind_ok.1 found
  obtain ⟨looked, rfl⟩ := pooled_ok.1 first
  obtain ⟨parsed, d, second, last⟩ := bind_ok.1 rest
  obtain ⟨shown, rfl⟩ := check_ok.1 second
  obtain ⟨same, rfl⟩ := pure_ok.1 last
  cases same
  exact ⟨looked, shown, rfl⟩

structure Registers (className : String) (fields : Fields) (old new : Shared) : Prop where
  heap : new.heap = old.heap.push (.instanceOf className fields)
  statics : new.statics = old.statics ++ [(className, old.heap.size)]

/-- The first use of a class that is read from a file. Its initializer, if there is one, is to be called,
and the instruction is to be started over; otherwise the class is ready. -/
theorem prepareFirst_ok {className : String} {preparation : Preparation}
    (user : Platform.isPlatform className = false)
    (ran : prepareFirst className a = .ok preparation b) :
    ∃ classFile fields, a.shared.lookup className = .ok classFile ∧
      b.shared.findClass? className = some classFile ∧
      defaultFields true classFile.fields = .ok fields ∧ Registers className fields a.shared b.shared ∧
      match classFile.findMethod? initializerName initializerDescriptor with
      | some methodIndex =>
        preparation = .pending (.call classFile methodIndex []) ∧
          Frame.restart a.frame = .ok () b.frame
      | none => preparation = .ready a.shared.heap.size ∧ b.frame = a.frame := by
  unfold prepareFirst at ran
  rw [if_neg (by simp [user])] at ran
  obtain ⟨classFile, c, loading, afterLoading⟩ := bind_ok.1 ran
  obtain ⟨loaded, sameFrame⟩ := onShared_ok loading
  obtain ⟨found, known, sameStore⟩ := Shared.load_ok loaded
  obtain ⟨fields, d, defaults, afterDefaults⟩ := bind_ok.1 afterLoading
  obtain ⟨made, rfl⟩ := check_ok.1 defaults
  obtain ⟨address, e, making, afterMaking⟩ := bind_ok.1 afterDefaults
  cases making
  obtain ⟨_, f, reporting, last⟩ := bind_ok.1 afterMaking
  cases reporting
  have registers {later : Shared} (heap : later.heap = d.shared.heap.push (.instanceOf className fields))
      (statics : later.statics = d.shared.statics ++ [(className, d.shared.heap.size)]) :
      Registers className fields a.shared later :=
    ⟨by rw [heap, sameStore.heap], by rw [statics, sameStore.heap, sameStore.statics]⟩
  refine ⟨classFile, fields, found, ?_⟩
  cases initializer : classFile.findMethod? initializerName initializerDescriptor with
  | none =>
    rw [initializer] at last
    obtain ⟨rfl, rfl⟩ := pure_ok.1 last
    refine ⟨known, made, registers rfl rfl, ?_, sameFrame⟩
    rw [sameStore.heap]
  | some methodIndex =>
    rw [initializer] at last
    obtain ⟨_, g, restarting, pending⟩ := bind_ok.1 last
    obtain ⟨rfl, rfl⟩ := pure_ok.1 pending
    obtain ⟨restarted, sameShared⟩ := onFrame_ok restarting
    refine ⟨?_, made, ?_, rfl, ?_⟩
    · rw [sameShared]
      exact known
    · rw [sameShared]
      exact registers rfl rfl
    · rw [← sameFrame]
      exact restarted

theorem prepare_known {className : String} {address : Nat}
    (known : a.shared.statics? className = some address) :
    prepare className a = .ok (.ready address) a := by
  unfold prepare
  rw [known]

theorem prepare_pending {className : String} {call : Control}
    (ran : prepare className a = .ok (.pending call) b) :
    a.shared.statics? className = none ∧ Platform.isPlatform className = false ∧
      prepareFirst className a = .ok (.pending call) b := by
  cases known : a.shared.statics? className with
  | some address =>
    rw [prepare_known known] at ran
    cases ran
  | none =>
    unfold prepare at ran
    rw [known] at ran
    refine ⟨rfl, ?_, ran⟩
    cases platform : Platform.isPlatform className with
    | false => rfl
    | true =>
      unfold prepareFirst at ran
      rw [if_pos platform] at ran
      obtain ⟨fields, c, _, making⟩ := bind_ok.1 ran
      obtain ⟨address, d, _, ready⟩ := bind_ok.1 making
      cases (pure_ok.1 ready).1

/-- What has been done when a call has to come first: the class is known, its static instance is registered
and the instruction is back at its start. -/
theorem prepare_pending_ok {className : String} {call : Control}
    (ran : prepare className a = .ok (.pending call) b) :
    ∃ classFile methodIndex fields, call = .call classFile methodIndex [] ∧
      a.shared.lookup className = .ok classFile ∧ b.shared.findClass? className = some classFile ∧
      classFile.findMethod? initializerName initializerDescriptor = some methodIndex ∧
      Registers className fields a.shared b.shared ∧ Frame.restart a.frame = .ok () b.frame := by
  obtain ⟨_, user, first⟩ := prepare_pending ran
  obtain ⟨classFile, fields, found, known, _, registers, outcome⟩ := prepareFirst_ok user first
  cases initializer : classFile.findMethod? initializerName initializerDescriptor with
  | none =>
    rw [initializer] at outcome
    cases outcome.1
  | some methodIndex =>
    rw [initializer] at outcome
    cases outcome.1
    exact ⟨classFile, methodIndex, fields, rfl, found, known, initializer, registers, outcome.2⟩

end Exec

/-- The class that an instruction prepares before anything else. -/
def Instr.prepares? (pool : Pool) : Instr → Option String
  | .getstatic index => (pool.fieldRef index).toOption.map (·.className)
  | .putstatic index => (pool.fieldRef index).toOption.map (·.className)
  | .new index => (pool.className index).toOption
  | _ => none

namespace Exec

variable {a b : Activation}

theorem prepare_then {className : String} {next : Nat → Exec Control} {control : Control}
    (proceeds : ∀ address c d, next address c = .ok control d → control = .proceed)
    (ran : (prepare className >>= fun
      | .pending call => pure call
      | .ready address => next address) a = .ok control b) :
    (control = .proceed ∧ ∃ address c, prepare className a = .ok (.ready address) c) ∨
      prepare className a = .ok (.pending control) b := by
  obtain ⟨preparation, c, prepared, rest⟩ := bind_ok.1 ran
  cases preparation with
  | ready address => exact .inl ⟨proceeds address c b rest, address, c, prepared⟩
  | pending call =>
    obtain ⟨rfl, rfl⟩ := pure_ok.1 rest
    exact .inr prepared

/-- An instruction that prepares a class goes on when the class is ready. Otherwise preparing is all that
it does. -/
theorem execute_prepares {instr : Instr} {className : String} {control : Control}
    (asks : instr.prepares? a.frame.classFile.pool = some className)
    (ran : execute instr a = .ok control b) :
    (control = .proceed ∧ (Platform.isPlatform className = true ∨
      ∃ address c, prepare className a = .ok (.ready address) c)) ∨
    prepare className a = .ok (.pending control) b := by
  have weaken {name : String} (outcome :
      (control = .proceed ∧ ∃ address c, prepare name a = .ok (.ready address) c) ∨
        prepare name a = .ok (.pending control) b) :
      (control = .proceed ∧ (Platform.isPlatform name = true ∨
        ∃ address c, prepare name a = .ok (.ready address) c)) ∨
      prepare name a = .ok (.pending control) b := outcome.imp_left (And.imp_right .inr)
  cases instr with
  | getstatic index =>
    obtain ⟨⟨field, type⟩, c, resolving, preparing⟩ := bind_ok.1 ran
    obtain ⟨looked, rfl⟩ := resolveField_ok resolving
    have same : field.className = className := by
      simpa [Instr.prepares?, looked, Except.toOption] using asks
    rw [← same]
    refine weaken (prepare_then (fun address d e reading => ?_) preparing)
    obtain ⟨_, f, _, last⟩ := bind_ok.1 reading
    exact (pure_ok.1 last).1.symm
  | putstatic index =>
    obtain ⟨⟨field, type⟩, c, resolving, preparing⟩ := bind_ok.1 ran
    obtain ⟨looked, rfl⟩ := resolveField_ok resolving
    have same : field.className = className := by
      simpa [Instr.prepares?, looked, Except.toOption] using asks
    rw [← same]
    refine weaken (prepare_then (fun address d e writing => ?_) preparing)
    obtain ⟨value, f, _, checking⟩ := bind_ok.1 writing
    obtain ⟨_, g, _, storing⟩ := bind_ok.1 checking
    obtain ⟨_, h, _, last⟩ := bind_ok.1 storing
    exact (pure_ok.1 last).1.symm
  | new index =>
    obtain ⟨name, c, naming, preparing⟩ := bind_ok.1 ran
    obtain ⟨looked, rfl⟩ := pooled_ok.1 naming
    have same : name = className := by
      simpa [Instr.prepares?, looked, Except.toOption] using asks
    subst same
    by_cases platform : Platform.isPlatform name
    · rw [if_pos platform] at preparing
      obtain ⟨_, d, _, last⟩ := bind_ok.1 preparing
      exact .inl ⟨(pure_ok.1 last).1.symm, .inl platform⟩
    · rw [if_neg platform] at preparing
      refine weaken (prepare_then (fun address d e making => ?_) preparing)
      obtain ⟨classFile, f, _, defaulting⟩ := bind_ok.1 making
      obtain ⟨fields, g, _, allocating⟩ := bind_ok.1 defaulting
      obtain ⟨_, h, _, last⟩ := bind_ok.1 allocating
      exact (pure_ok.1 last).1.symm
  | _ => cases asks

/-- The first use of a class that has an initializer: whatever the instruction is, it asks for the call
and is to be started over. -/
theorem execute_initializes {instr : Instr} {className : String} {control : Control}
    {classFile : ClassFile} {methodIndex : Nat}
    (asks : instr.prepares? a.frame.classFile.pool = some className)
    (user : Platform.isPlatform className = false)
    (unprepared : a.shared.statics? className = none)
    (found : a.shared.lookup className = .ok classFile)
    (initializer : classFile.findMethod? initializerName initializerDescriptor = some methodIndex)
    (ran : execute instr a = .ok control b) :
    control = .call classFile methodIndex [] ∧ Frame.restart a.frame = .ok () b.frame ∧
      ∃ fields, defaultFields true classFile.fields = .ok fields ∧
        Registers className fields a.shared b.shared := by
  have first {preparation : Preparation} {c : Activation}
      (prepared : prepare className a = .ok preparation c) :
      preparation = .pending (.call classFile methodIndex []) ∧
        Frame.restart a.frame = .ok () c.frame ∧
        ∃ fields, defaultFields true classFile.fields = .ok fields ∧
          Registers className fields a.shared c.shared := by
    unfold prepare at prepared
    rw [unprepared] at prepared
    obtain ⟨other, fields, looked, _, made, registers, outcome⟩ := prepareFirst_ok user prepared
    have same : classFile = other := Except.ok.inj (found.symm.trans looked)
    subst same
    rw [initializer] at outcome
    exact ⟨outcome.1, outcome.2, fields, made, registers⟩
  rcases execute_prepares asks ran with ⟨_, platform | ⟨address, c, ready⟩⟩ | pending
  · rw [user] at platform
    cases platform
  · cases (first ready).1
  · obtain ⟨same, restarted, registers⟩ := first pending
    cases same
    exact ⟨rfl, restarted, registers⟩

end Exec

end MiniJvm
