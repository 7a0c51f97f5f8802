import Mathlib.Data.Int.ModEq
import MiniJvm.Proofs.Machine.Execution.Step
import MiniJvm.Proofs.Machine.IntegerValues.Instruction
import MiniJvm.Proofs.Machine.ReferenceSafety

/-!
Integer instructions as integer arithmetic. Sums, differences, products and shifts to the left are exact up
to multiples of 2^32, shifts to the right round down, and a remainder has the sign of its dividend. Each of
these determines the 32-bit integer that the instruction leaves. Only a remainder by zero leaves none.
-/

namespace MiniJvm

open Effect

namespace Arithmetic

def opcode : Arithmetic → UInt8
  | .add => 96
  | .sub => 100
  | .mul => 104
  | .rem => 112
  | .shl => 120
  | .shr => 122
  | .ushr => 124

theorem plain?_opcode (op : Arithmetic) : Instr.plain? op.opcode = some (.arithmetic op) := by
  cases op with
  | _ => rfl

/-! ### Operations on integers -/

/-- How far a count shifts: a negative one counts from 32 downwards. -/
def distance (count : Int) : Nat :=
  (count % 32).toNat

/-- What an operation gives, said of integers. -/
def Gives (op : Arithmetic) (a b r : Int) : Prop :=
  match op with
  | .add => r ≡ a + b [ZMOD 2 ^ 32]
  | .sub => r ≡ a - b [ZMOD 2 ^ 32]
  | .mul => r ≡ a * b [ZMOD 2 ^ 32]
  | .rem => ∃ q, a = q * b + r ∧ |r| < |b| ∧ (r = 0 ∨ r.sign = a.sign)
  | .shl => r ≡ a * 2 ^ distance b [ZMOD 2 ^ 32]
  | .shr => r = a.fdiv (2 ^ distance b)
  | .ushr => r ≡ (a % 2 ^ 32).fdiv (2 ^ distance b) [ZMOD 2 ^ 32]

theorem bmod_modEq (x : Int) : x.bmod (2 ^ 32) ≡ x [ZMOD 2 ^ 32] :=
  Int.bmod_emod

theorem eq_of_modEq {r s : Int32} (same : r.toInt ≡ s.toInt [ZMOD 2 ^ 32]) : r = s := by
  have lowR := r.le_toInt
  have highR := r.toInt_lt
  have lowS := s.le_toInt
  have highS := s.toInt_lt
  have equal : r.toInt % 2 ^ 32 = s.toInt % 2 ^ 32 := same
  exact Int32.toInt_inj.1 (by omega)

theorem side_of_sign {a r : Int} (sign : r = 0 ∨ r.sign = a.sign) :
    (0 ≤ a → 0 ≤ r) ∧ (a ≤ 0 → r ≤ 0) := by
  rcases sign with rfl | same
  · exact ⟨fun _ => Int.le_refl 0, fun _ => Int.le_refl 0⟩
  · exact ⟨fun up => Int.sign_nonneg_iff.1 (same ▸ Int.sign_nonneg_iff.2 up),
      fun down => Int.sign_nonpos_iff.1 (same ▸ Int.sign_nonpos_iff.2 down)⟩

/-- Two remainders of one dividend stand on the same side of zero, so that they are less than a divisor
apart. -/
theorem rem_unique {a b r s : Int} (left : Gives .rem a b r) (right : Gives .rem a b s) : r = s := by
  obtain ⟨p, shapeR, smallR, signR⟩ := left
  obtain ⟨q, shapeS, smallS, signS⟩ := right
  obtain ⟨upR, downR⟩ := side_of_sign signR
  obtain ⟨upS, downS⟩ := side_of_sign signS
  simp only [Int.abs_eq_natAbs] at smallR smallS
  have divides : b ∣ r - s := ⟨q - p, by rw [Int.mul_sub, Int.mul_comm b q, Int.mul_comm b p]; omega⟩
  have small : (r - s).natAbs < b.natAbs := by omega
  exact Int.sub_eq_zero.1 (Int.eq_zero_of_dvd_of_natAbs_lt_natAbs divides small)

theorem Gives.unique {op : Arithmetic} {a b : Int} {r s : Int32} (left : op.Gives a b r.toInt)
    (right : op.Gives a b s.toInt) : r = s := by
  cases op with
  | rem => exact Int32.toInt_inj.1 (rem_unique left right)
  | shr => exact Int32.toInt_inj.1 (left.trans right.symm)
  | _ => exact eq_of_modEq (Int.ModEq.trans left (Int.ModEq.symm right))

/-! ### Operations on 32-bit integers -/

theorem unsigned_eq (x : BitVec 32) : (x.toNat : Int) = x.toInt % 2 ^ 32 := by
  have small : (x.toNat : Int) < 2 ^ 32 := by exact_mod_cast x.isLt
  rw [BitVec.toInt_eq_toNat_bmod, (bmod_modEq _).eq, Int.emod_eq_of_lt (Int.natCast_nonneg _) small]

theorem distance_signed (b : Int32) : (b.toBitVec.smod 32).toNat = distance b.toInt := by
  have unsigned := unsigned_eq (b.toBitVec.smod 32)
  have signed : (b.toBitVec.smod 32).toInt = b.toInt % 32 := by
    rw [BitVec.toInt_smod]
    exact Int.fmod_eq_emod_of_nonneg _ (by decide)
  unfold distance
  omega

theorem distance_unsigned (b : Int32) : b.toBitVec.toNat % 32 = distance b.toInt := by
  have unsigned : (b.toBitVec.toNat : Int) = b.toInt % 2 ^ 32 := unsigned_eq b.toBitVec
  unfold distance
  omega

theorem rem_gives (a : Int32) {b : Int32} (nonzero : b ≠ 0) :
    Gives .rem a.toInt b.toInt (a % b).toInt := by
  rw [Int32.toInt_mod]
  have divisor : b.toInt ≠ 0 := fun zero => nonzero (Int32.toInt_inj.1 zero)
  refine ⟨a.toInt.tdiv b.toInt, (Int.tdiv_mul_add_tmod _ _).symm, ?_, ?_⟩
  · rw [Int.abs_eq_natAbs, Int.abs_eq_natAbs, Int.natAbs_tmod]
    exact_mod_cast Nat.mod_lt _ (Int.natAbs_pos.2 divisor)
  · rw [Int.sign_tmod]
    split
    next divides => exact .inl (Int.tmod_eq_zero_of_dvd divides)
    · exact .inr rfl

theorem shl_gives (a b : Int32) : Gives .shl a.toInt b.toInt (a <<< b).toInt := by
  have shifted : (a <<< b).toInt = (a.toBitVec <<< distance b.toInt).toInt := by
    show (a <<< b).toBitVec.toInt = _
    rw [Int32.toBitVec_shiftLeft, BitVec.shiftLeft_eq', distance_signed]
  show _ ≡ _ [ZMOD _]
  rw [shifted, BitVec.toInt_shiftLeft, Nat.shiftLeft_eq, Int.natCast_mul, unsigned_eq]
  push_cast
  exact (bmod_modEq _).trans (Int.ModEq.mul_right _ (Int.mod_modEq _ _))

theorem shr_gives (a b : Int32) : Gives .shr a.toInt b.toInt (a >>> b).toInt := by
  show (a >>> b).toBitVec.toInt = _
  rw [Int32.toBitVec_shiftRight, BitVec.sshiftRight_eq', distance_signed, BitVec.toInt_sshiftRight,
    Int.shiftRight_eq_div_pow, Int.fdiv_eq_ediv_of_nonneg _ (Int.pow_nonneg (by decide))]
  push_cast
  rfl

theorem ushr_gives (a b : Int32) :
    Gives .ushr a.toInt b.toInt (a.toUInt32 >>> b.toUInt32).toInt32.toInt := by
  have shifted : ((a.toUInt32 >>> b.toUInt32).toNat : Int) =
      (a.toInt % 2 ^ 32).fdiv (2 ^ distance b.toInt) := by
    have unsigned : (a.toBitVec.toNat : Int) = a.toInt % 2 ^ 32 := unsigned_eq a.toBitVec
    rw [UInt32.toNat_shiftRight, Nat.shiftRight_eq_div_pow]
    show ((a.toBitVec.toNat / 2 ^ (b.toBitVec.toNat % 32) : Nat) : Int) = _
    rw [distance_unsigned, Int.fdiv_eq_ediv_of_nonneg _ (Int.pow_nonneg (by decide)), ← unsigned]
    push_cast
    rfl
  have signed := unsigned_eq (a.toUInt32 >>> b.toUInt32).toInt32.toBitVec
  show _ ≡ _ [ZMOD _]
  rw [← shifted]
  exact (Int.mod_modEq _ _).symm.trans (congrArg (· % 2 ^ 32) signed.symm)

theorem apply_gives {op : Arithmetic} {a b result : Int32} (applied : op.apply a b = .ok result) :
    op.Gives a.toInt b.toInt result.toInt := by
  cases op with
  | add =>
    cases applied
    show _ ≡ _ [ZMOD _]
    rw [Int32.toInt_add]
    exact bmod_modEq _
  | sub =>
    cases applied
    show _ ≡ _ [ZMOD _]
    rw [Int32.toInt_sub]
    exact bmod_modEq _
  | mul =>
    cases applied
    show _ ≡ _ [ZMOD _]
    rw [Int32.toInt_mul]
    exact bmod_modEq _
  | rem =>
    by_cases zero : b = 0
    · rw [apply, if_pos zero] at applied
      cases applied
    · rw [apply, if_neg zero] at applied
      cases applied
      exact rem_gives a zero
  | shl =>
    cases applied
    exact shl_gives a b
  | shr =>
    cases applied
    exact shr_gives a b
  | ushr =>
    cases applied
    exact ushr_gives a b

theorem apply_cases (op : Arithmetic) (a b : Int32) :
    (op = .rem ∧ b = 0 ∧ op.apply a b = .error .divisionByZero) ∨
      (¬ (op = .rem ∧ b = 0) ∧ ∃ result, op.apply a b = .ok result) := by
  cases op with
  | rem =>
    by_cases zero : b = 0
    · exact .inl ⟨rfl, zero, if_pos zero⟩
    · exact .inr ⟨fun both => zero both.2, _, if_neg zero⟩
  | _ => exact .inr ⟨nofun, _, rfl⟩

end Arithmetic

namespace Exec

variable (a : Activation) {left right : Value} {rest : List Value} {x y : Int32}

/-- Both operands are popped, the second one first. -/
theorem arithmetic_eq (op : Arithmetic) (shape : a.frame.stack = right :: left :: rest)
    (shownLeft : left.toInt? = some x) (shownRight : right.toInt? = some y) :
    arithmetic op a = (check (op.apply x y) >>= fun result => push (.int result)) (a.withStack rest) := by
  have second : popInt a = .ok y (a.withStack (left :: rest)) :=
    popInt_iff.2 ⟨right, _, shape, shownRight, rfl⟩
  have first : popInt (a.withStack (left :: rest)) = .ok x (a.withStack rest) :=
    popInt_iff.2 ⟨left, rest, rfl, shownLeft, rfl⟩
  unfold arithmetic
  rw [bind_of_ok second, bind_of_ok first]

theorem arithmetic_ok {op : Arithmetic} {result : Int32} (shape : a.frame.stack = right :: left :: rest)
    (shownLeft : left.toInt? = some x) (shownRight : right.toInt? = some y)
    (applied : op.apply x y = .ok result) :
    execute (.arithmetic op) a = .ok .proceed (a.withStack (.int result :: rest)) := by
  refine bind_ok.2 ⟨(), _, ?_, rfl⟩
  rw [arithmetic_eq a op shape shownLeft shownRight, applied]
  rfl

theorem arithmetic_error {op : Arithmetic} {fault : Fault} (shape : a.frame.stack = right :: left :: rest)
    (shownLeft : left.toInt? = some x) (shownRight : right.toInt? = some y)
    (applied : op.apply x y = .error fault) :
    execute (.arithmetic op) a = .error fault (a.withStack rest) := by
  refine bind_error.2 (.inl ?_)
  rw [arithmetic_eq a op shape shownLeft shownRight, applied]
  rfl

theorem increment_ok {slot : Nat} (delta : Int8) (held : a.frame.locals[slot]? = some (some (.int x))) :
    execute (.iinc slot delta) a = .ok .proceed ⟨{ a.frame with
      locals := a.frame.locals.set slot (some (.int (x + delta.toInt32))) }, a.shared⟩ :=
  bind_ok.2 ⟨(), _, iinc_of_int held, rfl⟩

/-! ### Decoding -/

theorem decoded_of_spans (shared : Shared) {top frame : Frame} {code : Cursor} {opcode : UInt8}
    {instr : Instr} (spans : top.code.Spans code [opcode])
    (decodes : Instr.decode opcode { top with start := top.pc, code } = .ok instr frame) :
    decoded ⟨top, shared⟩ = .ok instr ⟨frame, shared.reported (.instruction opcode top.pc)⟩ :=
  decoded_ok.2 ⟨opcode, _, Frame.nextOpcode_of_spans spans, decodes, rfl⟩

theorem decode_increment (frame : Frame) : Instr.decode 132 frame =
    (do return .iinc (← Frame.u1).toNat (← Frame.i1) : Frame.Action Instr) frame := rfl

end Exec

/-! ### Steps -/

namespace Machine

/-- The step leaves another operand stack and other local variables in the running frame, and goes on with
the bytes behind the instruction. Apart from the log it changes nothing else. -/
def GoesOn (machine : Machine) (stack : List Value) (locals : List (Option Value))
    (more : List UInt8) : Prop :=
  ∃ top below code log, machine.frames = top :: below ∧
    code.bytes = top.code.bytes ∧ code.rest = more ∧
    step machine = .ok () ⟨{ top with start := top.pc, code, stack, locals } :: below,
      { machine.shared with log }⟩

variable {machine : Machine} {top : Frame} {below : List Frame} {left right : Value} {rest : List Value}
  {more : List UInt8} {x y : Int32}

theorem step_arithmetic (op : Arithmetic) (running : machine.frames = top :: below)
    (coded : top.code.rest = op.opcode :: more) (shape : top.stack = right :: left :: rest)
    (shownLeft : left.toInt? = some x) (shownRight : right.toInt? = some y) :
    match op.apply x y with
    | .ok result => machine.GoesOn (.int result :: rest) top.locals more
    | .error fault => ∃ later, step machine = .error fault later := by
  obtain ⟨code, spans, behind⟩ := Cursor.spans_of_rest (show _ = [op.opcode] ++ more from coded)
  have decodes : Instr.decode op.opcode { top with start := top.pc, code } =
      .ok (.arithmetic op) { top with start := top.pc, code } := by
    unfold Instr.decode
    rw [op.plain?_opcode]
    rfl
  have read := Exec.decoded_of_spans machine.shared spans decodes
  cases applied : op.apply x y with
  | ok result =>
    have ran := step_proceeds running read (Exec.arithmetic_ok _ shape shownLeft shownRight applied)
    exact ⟨top, below, code, _, running, spans.1, behind, ran⟩
  | error fault =>
    obtain ⟨frames, shared⟩ := machine
    cases running
    rw [step_decoded read, Exec.arithmetic_error _ shape shownLeft shownRight applied]
    exact ⟨_, rfl⟩

theorem step_increment {slot delta : UInt8} (running : machine.frames = top :: below)
    (coded : top.code.rest = 132 :: slot :: delta :: more)
    (held : top.locals[slot.toNat]? = some (some (.int x))) :
    machine.GoesOn top.stack
      (top.locals.set slot.toNat (some (.int (x + delta.toInt8.toInt32)))) more := by
  obtain ⟨first, opened, behindFirst⟩ := Cursor.spans_of_rest (show _ = [132] ++ _ from coded)
  obtain ⟨second, spansSlot, behindSecond⟩ :=
    Cursor.spans_of_rest (show _ = [slot] ++ _ from behindFirst)
  obtain ⟨code, spansDelta, behind⟩ := Cursor.spans_of_rest (show _ = [delta] ++ _ from behindSecond)
  have decodes : Instr.decode 132 { top with start := top.pc, code := first } =
      .ok (.iinc slot.toNat delta.toInt8) { top with start := top.pc, code } := by
    rw [Exec.decode_increment]
    refine bind_ok.2 ⟨slot, _, Frame.u1_of_spans spansSlot, ?_⟩
    exact bind_ok.2 ⟨_, _, bind_ok.2 ⟨delta, _, Frame.u1_of_spans spansDelta, rfl⟩, rfl⟩
  have read := Exec.decoded_of_spans machine.shared opened decodes
  have ran := step_proceeds running read (Exec.increment_ok _ delta.toInt8 held)
  refine ⟨top, below, code, _, running, ?_, behind, ran⟩
  exact spansDelta.1.trans (spansSlot.1.trans opened.1)

/-- Integer instructions compute with integers, for all operands: each leaves the only 32-bit integer that
its operation gives, and only a remainder by zero leaves none. An increment adds the signed byte to its
local variable. The remainder by minus one is zero for every dividend, and an unsigned shift over a multiple
of 32 leaves its operand as it is. -/
theorem integer_instructions_exact :
    (∀ (op : Arithmetic) (machine : Machine) top below left right rest more (x y : Int32),
      machine.frames = top :: below → top.code.rest = op.opcode :: more →
      top.stack = right :: left :: rest → left.toInt? = some x → right.toInt? = some y →
        ((∃ later, step machine = .error .divisionByZero later) ↔ op = .rem ∧ y = 0) ∧
        (¬ (op = .rem ∧ y = 0) → ∃ result : Int32, op.Gives x.toInt y.toInt result.toInt ∧
          (∀ other : Int32, op.Gives x.toInt y.toInt other.toInt → other = result) ∧
          machine.GoesOn (.int result :: rest) top.locals more)) ∧
    (∀ (machine : Machine) top below slot delta more (x : Int32),
      machine.frames = top :: below → top.code.rest = 132 :: slot :: delta :: more →
      top.locals[slot.toNat]? = some (some (.int x)) →
        ∃ result : Int32, result.toInt ≡ x.toInt + delta.toInt8.toInt [ZMOD 2 ^ 32] ∧
          (∀ other : Int32, other.toInt ≡ x.toInt + delta.toInt8.toInt [ZMOD 2 ^ 32] →
            other = result) ∧
          machine.GoesOn top.stack (top.locals.set slot.toNat (some (.int result))) more) ∧
    (∀ x : Int32, Arithmetic.rem.Gives x.toInt (-1) 0) ∧
    ∀ x y : Int32, y.toInt % 32 = 0 → Arithmetic.ushr.Gives x.toInt y.toInt x.toInt := by
  refine ⟨?_, ?_, ?_, ?_⟩
  · intro op machine top below left right rest more x y running coded shape shownLeft shownRight
    have stepped := step_arithmetic op running coded shape shownLeft shownRight
    rcases op.apply_cases x y with ⟨rem, zero, fails⟩ | ⟨proper, result, applied⟩
    · rw [fails] at stepped
      exact ⟨⟨fun _ => ⟨rem, zero⟩, fun _ => stepped⟩, fun proper => absurd ⟨rem, zero⟩ proper⟩
    · rw [applied] at stepped
      have gives := Arithmetic.apply_gives applied
      refine ⟨⟨?_, fun both => absurd both proper⟩, fun _ =>
        ⟨result, gives, fun other also => also.unique gives, stepped⟩⟩
      rintro ⟨later, failed⟩
      obtain ⟨_, _, _, _, _, _, _, ran⟩ := stepped
      cases ran.symm.trans failed
  · intro machine top below slot delta more x running coded held
    have adds : (x + delta.toInt8.toInt32).toInt ≡ x.toInt + delta.toInt8.toInt [ZMOD 2 ^ 32] := by
      rw [Int32.toInt_add, Int8.toInt_toInt32]
      exact Arithmetic.bmod_modEq _
    exact ⟨_, adds, fun other also => Arithmetic.eq_of_modEq (also.trans adds.symm),
      step_increment running coded held⟩
  · intro x
    exact ⟨-x.toInt, by omega, by decide, .inl rfl⟩
  · intro x y multiple
    show _ ≡ _ [ZMOD _]
    rw [Arithmetic.distance, multiple, Int.toNat_zero, pow_zero, Int.fdiv_one]
    exact (Int.mod_modEq _ _).symm

/-- An entry point that shifts one to the far left, takes the remainder of that by minus one, keeps it in a
local variable and counts that down. -/
def extremesMain : ClassFile :=
  { arrayMain with
    methods :=
      [⟨mainFlags, 0, 0, mainName, mainDescriptor,
        [.code 0 2 1 #[4, 16, 31, 120, 2, 112, 59, 132, 0, 255, 177] [] []]⟩] }

def extremesMachine (steps : Nat) : Machine :=
  after (.enterMain extremesMain :: List.replicate steps .step) (fresh "" Disk.empty Sink.unbounded 0)

/-- The least int leaves no remainder by minus one, and what is left is counted down to minus one. -/
theorem extremes_exact :
    (extremesMachine 4).GoesOn [.int 0] [none] [59, 132, 0, 255, 177] ∧
      (extremesMachine 6).GoesOn [] [some (.int (-1))] [177] := by
  have facts :
      (extremesMachine 4).frames.map (fun top => (top.code.rest, top.stack, top.locals)) =
        [([112, 59, 132, 0, 255, 177], [.int (-1), .int (-2147483648)], [none])] ∧
      (extremesMachine 6).frames.map (fun top => (top.code.rest, top.stack, top.locals)) =
        [([132, 0, 255, 177], [], [some (.int 0)])] := by
    decide +kernel
  obtain ⟨atRem, atIncrement⟩ := facts
  obtain ⟨arithmetic, increment, byMinusOne, _⟩ := integer_instructions_exact
  constructor
  · obtain ⟨top, running⟩ := List.length_eq_one_iff.1 (by simpa using congrArg List.length atRem)
    simp only [running, List.map_cons, List.map_nil, List.cons.injEq, Prod.mk.injEq, and_true] at atRem
    obtain ⟨coded, shape, unset⟩ := atRem
    obtain ⟨result, _, only, goesOn⟩ := (arithmetic .rem (extremesMachine 4) top [] _ _ [] _
      (-2147483648) (-1) running coded shape rfl rfl).2 (by decide)
    rw [← only 0 (byMinusOne (-2147483648)), unset] at goesOn
    exact goesOn
  · obtain ⟨top, running⟩ := List.length_eq_one_iff.1 (by simpa using congrArg List.length atIncrement)
    simp only [running, List.map_cons, List.map_nil, List.cons.injEq, Prod.mk.injEq, and_true]
      at atIncrement
    obtain ⟨coded, shape, held⟩ := atIncrement
    obtain ⟨result, _, only, goesOn⟩ := increment (extremesMachine 6) top [] 0 255 [177] 0 running coded
      (by rw [held]; rfl)
    rw [← only (-1) (by decide), shape, held] at goesOn
    exact goesOn

end Machine

end MiniJvm
