import MiniJvm.Proofs.Machine.IntegerValues.Instruction
import MiniJvm.Proofs.Machine.ReferenceSafety

/-!
Ints, booleans and chars of the same integer value are interchangeable for integer instructions. Two
machines that differ in nothing but the form of such values in the running frame take the same steps, with
one exception: an increment wants its local variable to hold an int.
-/

namespace MiniJvm

open Effect

namespace Machine

/-- The machines differ in values of the running frame that stand for the same integers. -/
inductive Alike : Machine → Machine → Prop
  | idle {shared : Shared} : Alike ⟨[], shared⟩ ⟨[], shared⟩
  | running {top top' : Frame} {below : List Frame} {shared : Shared} (tops : top.Alike top') :
      Alike ⟨top :: below, shared⟩ ⟨top' :: below, shared⟩

def HoldsInt (machine : Machine) (slot : Nat) : Prop :=
  ∃ top below, machine.frames = top :: below ∧ top.HoldsInt slot

variable {machine other : Machine} {top : Frame} {instr : Instr} {a b : Activation} {slot : Nat}
  {delta : Int8}

theorem alike_refl (machine : Machine) : machine.Alike machine := by
  obtain ⟨frames, shared⟩ := machine
  cases frames with
  | nil => exact .idle
  | cons top below => exact .running (Frame.alike_refl top)

theorem Alike.agree_step (alike : machine.Alike other) (about : machine.AboutTo instr a)
    (about' : other.AboutTo instr b) (integer : instr.IsInteger)
    (agree : Agree Activation.Alike Eq (Exec.execute instr a) (Exec.execute instr b)) :
    Agree Alike Eq (step machine) (step other) := by
  obtain ⟨top, below, running, read⟩ := about
  obtain ⟨top', below', running', read'⟩ := about'
  cases alike with
  | idle => cases running
  | running tops =>
    cases running
    cases running'
    rw [step_decoded read, step_decoded read']
    have straight (control c) (ran : Exec.execute instr a = .ok control c) :=
      Exec.not_call_of_integer integer ran
    generalize Exec.execute instr a = left, Exec.execute instr b = right at agree straight ⊢
    cases agree with
    | @error fault fault' c d akin states =>
      obtain ⟨frame, shared⟩ := c
      obtain ⟨frame', _⟩ := d
      cases states.shared
      exact .error akin (.running states.frame)
    | @ok control control' c d same states =>
      obtain ⟨frame, shared⟩ := c
      obtain ⟨frame', _⟩ := d
      cases states.shared
      cases same
      rcases straight control _ rfl with rfl | ⟨value, rfl⟩
      · exact .ok rfl (.running states.frame)
      · -- The frames that differ are gone, and the value that is handed over is the same.
        have frames := states.frame
        dsimp only at frames ⊢
        cases frames with
        | intro onStack inLocals =>
          rw [apply_leave, apply_leave]
          exact .ok rfl (alike_refl _)

/-- The same instruction comes next in both machines, or both fail before there is one. -/
theorem Alike.decodes (alike : machine.Alike other) :
    (∃ instr a b, machine.AboutTo instr a ∧ other.AboutTo instr b ∧ a.Alike b) ∨
      ((∀ instr a, ¬ machine.AboutTo instr a) ∧ Agree Alike Eq (step machine) (step other)) := by
  cases alike with
  | idle =>
    refine .inr ⟨fun instr a about => ?_, .error (Fault.akin_refl _) .idle⟩
    obtain ⟨_, _, impossible, _⟩ := about
    cases impossible
  | @running top top' below shared tops =>
    have together : Activation.Alike ⟨top, shared⟩ ⟨top', shared⟩ := ⟨tops, rfl⟩
    have decodes := Exec.agrees_decoded together
    generalize left : Exec.decoded ⟨top, shared⟩ = first, right : Exec.decoded ⟨top', shared⟩ = second
      at decodes
    cases decodes with
    | @ok instr instr' a b same states =>
      cases same
      exact .inl ⟨instr, a, b, ⟨top, below, rfl, left⟩, ⟨top', below, rfl, right⟩, states⟩
    | @error fault fault' a b akin states =>
      obtain ⟨frame, shared'⟩ := a
      obtain ⟨frame', _⟩ := b
      cases states.shared
      rw [step_undecoded left, step_undecoded right]
      refine .inr ⟨fun instr c about => ?_, .error akin (.running states.frame)⟩
      obtain ⟨_, _, shape, read⟩ := about
      cases shape
      cases left.symm.trans read

theorem AboutTo.holdsInt_iff (about : machine.AboutTo instr a) :
    machine.HoldsInt slot ↔ a.frame.HoldsInt slot := by
  obtain ⟨top, below, running, read⟩ := about
  obtain ⟨code, _, same⟩ := Exec.decoded_frame read
  unfold HoldsInt
  rw [running, same]
  constructor
  · rintro ⟨_, _, shape, held⟩
    cases shape
    exact held
  · intro held
    exact ⟨top, below, rfl, held⟩

theorem step_iinc (about : machine.AboutTo (.iinc slot delta) a) :
    (∃ value later, step machine = .ok value later) ↔ machine.HoldsInt slot := by
  rw [about.holdsInt_iff]
  obtain ⟨frames, shared⟩ := machine
  obtain ⟨top, below, rfl, read⟩ := about
  rw [step_decoded read]
  constructor
  · rintro ⟨_, later, ran⟩
    cases executed : Exec.execute (.iinc slot delta) a with
    | error fault b =>
      rw [executed] at ran
      cases ran
    | ok control b =>
      obtain ⟨_, c, increments, _⟩ := bind_ok.1 executed
      exact Exec.iinc_ok.1 ⟨c, increments⟩
  · intro held
    obtain ⟨c, increments⟩ := Exec.iinc_ok.2 held
    have executed : Exec.execute (.iinc slot delta) a = .ok .proceed c :=
      bind_ok.2 ⟨(), c, increments, rfl⟩
    rw [executed]
    exact ⟨_, _, rfl⟩

/-- Machines that differ in nothing but whether integers are ints, booleans or chars take the same step
through integer code, exactly when no increment finds an int in one of them and another form of it in the
other. The same step means the same branch, the same fault but for the form that was found, and machines
that differ in nothing else again. -/
theorem integer_forms_interchangeable (machine other : Machine) (alike : machine.Alike other)
    (integer : ∀ instr a, machine.AboutTo instr a → instr.IsInteger) :
    Agree Alike Eq (step machine) (step other) ↔
      ∀ slot delta a, machine.AboutTo (.iinc slot delta) a →
        (machine.HoldsInt slot ↔ other.HoldsInt slot) := by
  rcases alike.decodes with ⟨instr, a, b, about, about', states⟩ | ⟨nothing, agree⟩
  · have kind := integer instr a about
    constructor
    · intro agree slot delta c increments
      obtain ⟨rfl, rfl⟩ := about.unique increments
      rw [← step_iinc about, ← step_iinc about']
      exact agree.succeeds_iff
    · intro same
      refine alike.agree_step about about' kind (Exec.agree_execute kind states ?_)
      rintro slot delta rfl
      rw [← about.holdsInt_iff, ← about'.holdsInt_iff]
      exact same slot delta a about
  · exact ⟨fun _ slot delta a about => absurd about (nothing _ a), fun _ => agree⟩

/-- An entry point that takes a char from an array into its local variable, adds one to it on the operand
stack, and then increments the local variable. -/
def charMain : ClassFile :=
  { arrayMain with
    methods :=
      [⟨mainFlags, 0, 0, mainName, mainDescriptor,
        [.code 0 2 1 #[4, 188, 5, 3, 52, 59, 26, 4, 96, 87, 132, 0, 1, 177] [] []]⟩] }

def charMachine (steps : Nat) : Machine :=
  after (.enterMain charMain :: List.replicate steps .step) (fresh "" Disk.empty Sink.unbounded 0)

def withValues (machine : Machine) (stack : List Value) (locals : List (Option Value)) : Machine :=
  { machine with frames := machine.frames.map fun frame => { frame with stack, locals } }

theorem alike_withValues {stack : List Value} {locals : List (Option Value)}
    (running : machine.frames = [top]) (onStack : List.Forall₂ Value.Alike top.stack stack)
    (inLocals : List.Forall₂ (Option.Rel Value.Alike) top.locals locals) :
    machine.Alike (machine.withValues stack locals) := by
  obtain ⟨_, shared⟩ := machine
  cases running
  exact .running (.intro onStack inLocals)

theorem aboutTo_of_decodes (running : machine.frames = [top])
    (decodes : value? (Exec.decoded ⟨top, machine.shared⟩) = some instr) :
    ∃ a, machine.AboutTo instr a :=
  ⟨_, top, [], running, eq_ok_of_value? decodes⟩

/-- One is added to a char as it is added to the int that the char stands for. -/
theorem char_sum_interchangeable :
    (charMachine 7).frames.map Frame.stack = [[.int 1, .char 0]] ∧
      Agree Alike Eq (step (charMachine 7))
        (step ((charMachine 7).withValues [.int 1, .int 0] [some (.int 0)])) := by
  have facts :
      (charMachine 7).frames.map Frame.stack = [[.int 1, .char 0]] ∧
      (charMachine 7).frames.map Frame.locals = [[some (.char 0)]] ∧
      (charMachine 7).frames.map
        (fun top => value? (Exec.decoded ⟨top, (charMachine 7).shared⟩)) =
          [some (.arithmetic .add)] := by
    decide +kernel
  obtain ⟨operands, slots, decodes⟩ := facts
  refine ⟨operands, ?_⟩
  obtain ⟨top, running⟩ := List.length_eq_one_iff.1 (by simpa using congrArg List.length operands)
  simp only [running, List.map_cons, List.map_nil, List.cons.injEq, and_true]
    at operands slots decodes
  have zero : (Value.char 0).Alike (.int 0) := .inr ⟨0, rfl, rfl⟩
  have alike : (charMachine 7).Alike
      ((charMachine 7).withValues [.int 1, .int 0] [some (.int 0)]) := by
    apply alike_withValues running
    · rw [operands]
      exact .cons (Value.alike_refl _) (.cons zero .nil)
    · rw [slots]
      exact .cons (.some zero) .nil
  obtain ⟨a, about⟩ := aboutTo_of_decodes running decodes
  refine (integer_forms_interchangeable _ _ alike fun instr b next => ?_).2 fun slot delta b next => ?_
  · rw [← (about.unique next).1]
    trivial
  · cases (about.unique next).1

/-- A char in a local variable is not incremented, although the int that it stands for is. -/
theorem char_increment_refused :
    (charMachine 9).Alike ((charMachine 9).withValues [] [some (.int 0)]) ∧
      (∀ instr a, (charMachine 9).AboutTo instr a → instr.IsInteger) ∧
      fault? (step (charMachine 9)) = some (.typeMismatch "I" "C") ∧
      value? (step ((charMachine 9).withValues [] [some (.int 0)])) = some () := by
  have facts :
      (charMachine 9).frames.map Frame.stack = [[]] ∧
      (charMachine 9).frames.map Frame.locals = [[some (.char 0)]] ∧
      (charMachine 9).frames.map
        (fun top => value? (Exec.decoded ⟨top, (charMachine 9).shared⟩)) = [some (.iinc 0 1)] ∧
      fault? (step (charMachine 9)) = some (.typeMismatch "I" "C") ∧
      value? (step ((charMachine 9).withValues [] [some (.int 0)])) = some () := by
    decide +kernel
  obtain ⟨operands, slots, decodes, refused, taken⟩ := facts
  obtain ⟨top, running⟩ := List.length_eq_one_iff.1 (by simpa using congrArg List.length operands)
  simp only [running, List.map_cons, List.map_nil, List.cons.injEq, and_true]
    at operands slots decodes
  obtain ⟨a, about⟩ := aboutTo_of_decodes running decodes
  refine ⟨alike_withValues running ?_ ?_, fun instr b next => ?_, refused, taken⟩
  · rw [operands]
    exact .nil
  · rw [slots]
    exact .cons (.some (.inr ⟨0, rfl, rfl⟩)) .nil
  · rw [← (about.unique next).1]
    trivial

end Machine

end MiniJvm
