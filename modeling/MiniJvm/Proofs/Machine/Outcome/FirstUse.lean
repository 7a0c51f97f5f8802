import MiniJvm.Proofs.Machine.Outcome.Branch

/-!
How the first use of a class comes out. Static instances are registered only when a class is prepared.
-/

namespace MiniJvm

open Effect

namespace Exec

open Activation

variable {a b : Activation} {instr : Instr} {p q : Nat}

theorem restart_ne_error (inside : a.frame.start ≤ a.frame.code.size) (fault : Fault) :
    onFrame Frame.restart a ≠ .error fault b := by
  have bounds : (0 : Int) ≤ a.frame.start ∧ (a.frame.start : Int) ≤ a.frame.code.bytes.size := by
    unfold Cursor.size at inside
    omega
  have same : Frame.restart a.frame = EStateM.map (fun _ => ())
      (Frame.reading (Cursor.jumpTo a.frame.start)) a.frame := rfl
  unfold onFrame
  rw [same]
  unfold EStateM.map Frame.reading Cursor.jumpTo
  rw [dif_pos bounds]
  exact nofun

theorem trades_platformStatics (className : String) :
    Trades 0 0 (onShared (Platform.statics className)) a := by
  unfold Platform.statics
  by_cases system : className = Platform.systemClass
  · simp only [if_pos system, onShared_bind]
    exact trades_keep (trades_allocate _) fun _ _ _ => trades_keep (trades_allocate _) fun _ _ _ =>
      trades_pure _
  · rw [if_neg system]
    exact trades_pure _

/-- A class that is ready after its first use needs no initializer. -/
theorem prepareFirst_ready {className : String} {address : Nat}
    (ran : prepareFirst className a = .ok (.ready address) b) :
    b.frame = a.frame ∧ a.shared.Settles b.shared := by
  by_cases platform : Platform.isPlatform className
  · unfold prepareFirst at ran
    rw [if_pos platform] at ran
    obtain ⟨fields, c, building, rest⟩ := bind_ok.1 ran
    obtain ⟨address, d, making, ready⟩ := bind_ok.1 rest
    cases making
    obtain ⟨_, rfl⟩ := pure_ok.1 ready
    have calm := ((trades_platformStatics className).done building).2.shared
    refine ⟨(onShared_ok building).2, [(className, c.shared.heap.size)], ?_, fun entry member => ?_⟩
    · rw [← calm.statics]
    · cases List.mem_singleton.1 member
      exact .inl platform
  · obtain ⟨classFile, fields, _, known, _, registers, outcome⟩ :=
      prepareFirst_ok (Bool.eq_false_iff.2 platform) ran
    split at outcome
    next => cases outcome.1
    next bare =>
      refine ⟨outcome.2, [(className, a.shared.heap.size)], registers.statics, fun entry member => ?_⟩
      cases List.mem_singleton.1 member
      exact .inr ⟨classFile, known, bare⟩

/-- Preparing fails before the static instance is registered. -/
theorem prepareFirst_error {className : String} {fault : Fault}
    (inside : a.frame.start ≤ a.frame.code.size)
    (failed : prepareFirst className a = .error fault b) :
    a.shared.Calm b.shared ∧ ¬ fault.IsStray := by
  unfold prepareFirst at failed
  split at failed
  · rcases bind_error.1 failed with early | ⟨fields, c, _, late⟩
    · exact (trades_platformStatics className).failed early
    · rcases bind_error.1 late with making | ⟨address, d, _, ready⟩
      · cases making
      · cases ready
  · rcases bind_error.1 failed with unread | ⟨classFile, c, loading, afterLoading⟩
    · exact (trades_load className).failed unread
    obtain ⟨_, sameFrame⟩ := onShared_ok loading
    have loaded := ((trades_load className).done loading).2.shared
    rcases bind_error.1 afterLoading with refused | ⟨fields, d, defaults, afterDefaults⟩
    · obtain ⟨calm, direct⟩ :=
        (trades_check (errsOnly_defaultFields true classFile.fields)).failed refused
      exact ⟨loaded.trans calm, direct⟩
    obtain ⟨_, rfl⟩ := check_ok.1 defaults
    rcases bind_error.1 afterDefaults with making | ⟨address, e, making, afterMaking⟩
    · cases making
    cases making
    rcases bind_error.1 afterMaking with reporting | ⟨_, f, reporting, last⟩
    · cases reporting
    cases reporting
    -- Only starting the instruction over is left, which cannot fail.
    rw [← sameFrame] at inside
    cases initializer : classFile.findMethod? initializerName initializerDescriptor with
    | none =>
      rw [initializer] at last
      cases last
    | some methodIndex =>
      rw [initializer] at last
      rcases bind_error.1 last with stuck | ⟨_, g, _, pending⟩
      · refine absurd stuck (restart_ne_error ?_ fault)
        exact inside
      · cases pending

theorem prepare_settles (className : String) (inside : a.frame.start ≤ a.frame.code.size) :
    match prepare className a with
    | .ok (.ready _) b => b.frame = a.frame ∧ a.shared.Settles b.shared
    | .ok (.pending _) _ => True
    | .error fault b => a.shared.Settles b.shared ∧ ¬ fault.IsStray := by
  unfold prepare
  cases a.shared.statics? className with
  | some address => exact ⟨rfl, Shared.settles_of_calm a.shared.calm_refl⟩
  | none =>
    dsimp only
    split
    next ran => exact prepareFirst_ready ran
    next => trivial
    next failed =>
      obtain ⟨calm, direct⟩ := prepareFirst_error inside failed
      exact ⟨Shared.settles_of_calm calm, direct⟩

/-- An instruction that prepares a class first and then trades. -/
theorem outcome_prepares {className : String} {next : Nat → Exec Control}
    (inside : a.frame.start ≤ a.frame.code.size)
    (asks : instr.prepares? a.frame.classFile.pool = some className)
    (counts : instr.counts? a.frame.classFile.pool = some (p, q))
    (straight : instr.branching? = none)
    (trades : ∀ address b, Trades p q (next address) b) :
    Outcome instr a ((prepare className >>= fun
      | .pending call => pure call
      | .ready address => next address) a) := by
  have undecided : instr.decides? a.frame.stack = none := by simp [Instr.decides?, straight]
  have prepared := prepare_settles className inside
  cases ran : prepare className a with
  | error fault b =>
    rw [ran] at prepared
    rw [bind_of_error ran]
    exact .fails undecided prepared.1 prepared.2
  | ok preparation b =>
    rw [bind_of_ok ran]
    cases preparation with
    | pending call => exact .rewinds undecided asks ran
    | ready address =>
      rw [ran] at prepared
      obtain ⟨sameFrame, settles⟩ := prepared
      dsimp only
      cases last : next address b with
      | ok control c =>
        obtain ⟨trade, steady⟩ := (trades address b).done last
        obtain ⟨stack, locals, frame⟩ := steady.frame
        rw [sameFrame] at trade frame
        exact .trades counts undecided trade ⟨stack, locals, frame⟩ (settles.calm steady.shared)
      | error fault c =>
        obtain ⟨calm, direct⟩ := (trades address b).failed last
        exact .fails undecided (settles.calm calm) direct

theorem outcome_resolves {index : UInt16} {next : MemberRef × FieldType → Exec Control}
    (straight : instr.branching? = none)
    (rest : ∀ field type, a.frame.classFile.pool.fieldRef index = .ok field →
      Outcome instr a (next (field, type) a)) :
    Outcome instr a ((resolveField index >>= next) a) := by
  cases resolved : resolveField index a with
  | error fault b =>
    obtain ⟨calm, direct⟩ := (trades_resolveField index).failed resolved
    rw [bind_of_error resolved]
    exact .fails (by simp [Instr.decides?, straight]) (Shared.settles_of_calm calm) direct
  | ok found b =>
    obtain ⟨field, type⟩ := found
    obtain ⟨looked, rfl⟩ := resolveField_ok resolved
    rw [bind_of_ok resolved]
    exact rest field type looked

theorem outcome_getstatic (inside : a.frame.start ≤ a.frame.code.size) (index : UInt16) :
    Outcome (.getstatic index) a (execute (.getstatic index) a) := by
  apply outcome_resolves rfl
  intro field type looked
  have asks : (Instr.getstatic index).prepares? a.frame.classFile.pool = some field.className := by
    simp [Instr.prepares?, looked, Except.toOption]
  exact outcome_prepares inside asks rfl rfl fun address b =>
    trades_bind_pure (fun _ => Control.proceed) (trades_fetchField field type address)

theorem outcome_putstatic (inside : a.frame.start ≤ a.frame.code.size) (index : UInt16) :
    Outcome (.putstatic index) a (execute (.putstatic index) a) := by
  apply outcome_resolves rfl
  intro field type looked
  have asks : (Instr.putstatic index).prepares? a.frame.classFile.pool = some field.className := by
    simp [Instr.prepares?, looked, Except.toOption]
  exact outcome_prepares inside asks rfl rfl fun address b =>
    trades_take trades_pop fun value c _ => trades_storeField field type address value

theorem outcome_new (inside : a.frame.start ≤ a.frame.code.size) (index : UInt16) :
    Outcome (.new index) a (execute (.new index) a) := by
  show Outcome _ a ((pooled (·.className index) >>= _) a)
  cases named : pooled (·.className index) a with
  | error fault b =>
    obtain ⟨calm, direct⟩ := (trades_pooled (Pool.errsOnly_className _ index)).failed named
    rw [bind_of_error named]
    exact .fails rfl (Shared.settles_of_calm calm) direct
  | ok className b =>
    obtain ⟨looked, rfl⟩ := pooled_ok.1 named
    rw [bind_of_ok named]
    have asks : (Instr.new index).prepares? b.frame.classFile.pool = some className := by
      simp [Instr.prepares?, looked, Except.toOption]
    by_cases platform : Platform.isPlatform className
    · rw [if_pos platform]
      exact outcome_of_trades (trades_bind_pure (fun _ => Control.proceed)
        (trades_makeInstance className [])) (fun _ _ _ => rfl) rfl
    · rw [if_neg platform]
      refine outcome_prepares inside asks rfl rfl fun address c => ?_
      refine trades_keep (trades_load className) fun classFile d _ => ?_
      refine trades_keep (trades_check (errsOnly_defaultFields false classFile.fields))
        fun fields e _ => ?_
      exact trades_bind_pure (fun _ => Control.proceed) (trades_makeInstance className fields)

end Exec

end MiniJvm
