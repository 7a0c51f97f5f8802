import MiniJvm.Proofs.Machine.Abandonment.Unbroken

/-!
What becomes of initializers. The static instance of a class is registered before its initializer is
entered and stays registered whatever happens then. A class is used half-initialized exactly when its
initializer was abandoned, and none is as long as every run comes to its end.
-/

namespace MiniJvm

open Effect

namespace Machine

open Ledger

/-- The next step uses a class that has an initializer, a static field of it or the class itself, and
completes without asking for the initializer. -/
def UsesDirectly (machine : Machine) (name : String) : Prop :=
  ∃ instr a classFile methodIndex later, machine.AboutTo instr a ∧
    instr.prepares? a.frame.classFile.pool = some name ∧
    machine.shared.lookup name = .ok classFile ∧
    classFile.findMethod? Exec.initializerName Exec.initializerDescriptor = some methodIndex ∧
    step machine = .ok () later ∧ machine.scheduled? = none

variable {machine later : Machine} {ledger : Ledger} {name : String}

theorem UsesDirectly.prepared (uses : machine.UsesDirectly name)
    (user : Platform.isPlatform name = false) : name ∈ machine.prepared := by
  obtain ⟨instr, a, classFile, methodIndex, later, about, asks, found, initializer, ran, direct⟩ := uses
  obtain ⟨_, _, _, _, control, b, running, read, executed, _⟩ := step_ok ran
  obtain ⟨_, _, shape, readAlready⟩ := about
  cases running.symm.trans shape
  cases read.symm.trans readAlready
  by_contra unprepared
  obtain ⟨opcode, started, _, _, reported⟩ := Exec.decoded_ok.1 read
  have absent : a.shared.statics? name = none := by
    rw [reported]
    exact statics?_eq_none_iff.2 unprepared
  have foundNow : a.shared.lookup name = .ok classFile := by
    rw [reported]
    exact found
  obtain ⟨rfl, _⟩ := Exec.execute_initializes asks user absent foundNow initializer executed
  unfold scheduled? at direct
  simp only [running, read, executed, asks] at direct
  cases direct

theorem UsesDirectly.not_settled (uses : machine.UsesDirectly name)
    (user : Platform.isPlatform name = false) : ¬ machine.shared.Settled name := by
  obtain ⟨_, _, classFile, methodIndex, _, _, _, found, initializer, _⟩ := uses
  rintro (platform | ⟨known, there, bare⟩)
  · rw [user] at platform
    cases platform
  · unfold Shared.lookup at found
    rw [there] at found
    cases found
    rw [bare] at initializer
    cases initializer

theorem UsesDirectly.accounted (uses : machine.UsesDirectly name)
    (accounts : ledger.Accounts machine) :
    (ledger.Runs machine name ∨ name ∈ ledger.completed) ↔
      Platform.isPlatform name = false ∧ name ∉ ledger.abandoned := by
  rw [accounts.runs_iff]
  have once := accounts.once
  unfold names at once
  constructor
  · intro runs
    have asked : name ∈ ledger.names := by
      unfold names
      simp only [List.mem_append]
      exact runs.imp_right .inl
    refine ⟨(accounts.asked name asked).2, fun abandoned => ?_⟩
    -- No name stands in two columns.
    rw [← List.append_assoc] at once
    exact (List.nodup_append.1 once).2.2 name (List.mem_append.2 runs) name abandoned rfl
  · rintro ⟨user, unbroken⟩
    have asked := (accounts.prepared name (uses.prepared user)).resolve_left (uses.not_settled user)
    unfold names at asked
    simp only [List.mem_append] at asked
    rcases asked with running | completed | abandoned
    · exact .inl running
    · exact .inr completed
    · exact absurd abandoned unbroken

/-- Along every history, a class that has an initializer and is used without a call of it is half-initialized
exactly when the initializer was abandoned: it neither runs nor has it returned. Names of built-in classes
stand for those whatever has been defined under them, and their initializers are never asked for. As long as
every run comes to its end, no initializer is abandoned. -/
theorem half_initialized_iff_abandoned (classpath : String) (disk : Disk) (output : Sink)
    (logLimit : Nat) (operations : List Operation) (machine : Machine) (ledger : Ledger)
    (history : machine = after operations (fresh classpath disk output logLimit))
    (kept : ledger = Ledger.along operations (fresh classpath disk output logLimit)) :
    (∀ name, machine.UsesDirectly name →
      ((ledger.Runs machine name ∨ name ∈ ledger.completed) ↔
        Platform.isPlatform name = false ∧ name ∉ ledger.abandoned)) ∧
    (Unbroken operations (fresh classpath disk output logLimit) → ledger.abandoned = []) := by
  subst history kept
  have accounts := Ledger.accounts_along classpath disk output logLimit operations
  refine ⟨fun name uses => uses.accounted accounts, fun unbroken => ?_⟩
  exact Ledger.abandoned_unbroken operations (fresh_sound classpath disk output logLimit)
    Ledger.accounts_empty rfl unbroken

theorem usesDirectly_of {machine : Machine} {instr : Instr} {name : String} {methodIndex : Nat}
    (decodes : machine.frames.map (fun top => value? (Exec.decoded ⟨top, machine.shared⟩)) = [some instr])
    (asks : machine.frames.map (fun top => instr.prepares? top.classFile.pool) = [some name])
    (initializer : (machine.shared.lookup name).toOption.bind
      (·.findMethod? Exec.initializerName Exec.initializerDescriptor) = some methodIndex)
    (succeeds : value? (step machine) = some ()) (direct : machine.scheduled? = none) :
    machine.UsesDirectly name := by
  obtain ⟨top, running⟩ := List.length_eq_one_iff.1 (by simpa using congrArg List.length decodes)
  simp only [running, List.map_cons, List.map_nil, List.cons.injEq, and_true] at decodes asks
  have read := eq_ok_of_value? decodes
  obtain ⟨code, _, same⟩ := Exec.decoded_frame read
  obtain ⟨classFile, found, declared⟩ := Option.bind_eq_some_iff.1 initializer
  refine ⟨instr, _, classFile, methodIndex, _, ⟨top, [], running, read⟩, ?_, ?_, declared,
    eq_ok_of_value? succeeds, direct⟩
  · rw [same]
    exact asks
  · cases looked : machine.shared.lookup name with
    | error fault =>
      rw [looked] at found
      cases found
    | ok stored =>
      rw [looked] at found
      cases found
      rfl

def startedTwice (bytes : Array UInt8) : List Operation :=
  [.define bytes, .start 10 "Counter", .start 0 "Counter"]

def againMachine (bytes : Array UInt8) : Machine :=
  after (startedTwice bytes) (fresh "" Disk.empty Sink.unbounded 0)

def againLedger (bytes : Array UInt8) : Ledger :=
  Ledger.along (startedTwice bytes) (fresh "" Disk.empty Sink.unbounded 0)

theorem counter_used_initialized :
    (againMachine counterBytes).UsesDirectly "Counter" ∧
      ((againLedger counterBytes).Runs (againMachine counterBytes) "Counter" ∨
        "Counter" ∈ (againLedger counterBytes).completed) ∧
      (againLedger counterBytes).running = [none] := by
  have facts :
      (againMachine counterBytes).frames.map
        (fun top => value? (Exec.decoded ⟨top, (againMachine counterBytes).shared⟩)) =
          [some (.getstatic 6)] ∧
      (againMachine counterBytes).frames.map
        (fun top => Instr.prepares? top.classFile.pool (.getstatic 6)) = [some "Counter"] ∧
      ((againMachine counterBytes).shared.lookup "Counter").toOption.bind
        (·.findMethod? Exec.initializerName Exec.initializerDescriptor) = some 1 ∧
      value? (step (againMachine counterBytes)) = some () ∧
      (againMachine counterBytes).scheduled? = none ∧
      (againLedger counterBytes).running = [none] ∧ (againLedger counterBytes).abandoned = [] := by
    decide +kernel
  obtain ⟨decodes, asks, initializer, succeeds, direct, unmarked, unabandoned⟩ := facts
  have uses := usesDirectly_of decodes asks initializer succeeds direct
  refine ⟨uses, ?_, unmarked⟩
  refine ((half_initialized_iff_abandoned "" Disk.empty Sink.unbounded 0 (startedTwice counterBytes)
    (againMachine counterBytes) (againLedger counterBytes) rfl rfl).1 "Counter" uses).2 ⟨by decide, ?_⟩
  rw [unabandoned]
  exact List.not_mem_nil

/-- The class with another initializer, which pops from an empty operand stack. -/
def brokenBytes : Array UInt8 :=
  counterBytes.setIfInBounds (counterBytes.size - 7) 87

/-- The initializer fails in the first run, and the second run uses the class all the same. -/
theorem counter_used_half_initialized :
    (againMachine brokenBytes).UsesDirectly "Counter" ∧
      ¬ ((againLedger brokenBytes).Runs (againMachine brokenBytes) "Counter" ∨
        "Counter" ∈ (againLedger brokenBytes).completed) := by
  have facts :
      (againMachine brokenBytes).frames.map
        (fun top => value? (Exec.decoded ⟨top, (againMachine brokenBytes).shared⟩)) =
          [some (.getstatic 6)] ∧
      (againMachine brokenBytes).frames.map
        (fun top => Instr.prepares? top.classFile.pool (.getstatic 6)) = [some "Counter"] ∧
      ((againMachine brokenBytes).shared.lookup "Counter").toOption.bind
        (·.findMethod? Exec.initializerName Exec.initializerDescriptor) = some 1 ∧
      value? (step (againMachine brokenBytes)) = some () ∧
      (againMachine brokenBytes).scheduled? = none ∧
      (againLedger brokenBytes).running = [none] ∧ (againLedger brokenBytes).completed = [] := by
    decide +kernel
  obtain ⟨decodes, asks, initializer, succeeds, direct, unmarked, uncompleted⟩ := facts
  refine ⟨usesDirectly_of decodes asks initializer succeeds direct, ?_⟩
  rintro (⟨index, frame, _, marks, _⟩ | completed)
  · rw [unmarked] at marks
    cases List.mem_singleton.1 (List.mem_of_getElem? marks)
  · rw [uncompleted] at completed
    cases completed

end Machine

end MiniJvm
