import Mathlib.Tactic.SplitIfs
import MiniJvm.Proofs.Layout.Inverse
import MiniJvm.Proofs.Machine.Decoding

/-!
The instruction set by opcode: how long an instruction is, what it moves on the operand stack, and when it
branches. Decoding agrees with these tables, and a pool index or a branch offset is the word behind the
opcode.
-/

namespace MiniJvm

open Effect

/-- The number of parameters in the descriptor of a method. -/
def MethodType.arity? (descriptor : String) : Option Nat :=
  (MethodType.parse descriptor).toOption.map (·.parameters.length)

namespace Pool

def arity? (pool : Pool) (index : UInt16) : Option Nat :=
  (pool.methodRef index).toOption.bind fun method => MethodType.arity? method.descriptor

def siteArity? (pool : Pool) (index : UInt16) : Option Nat :=
  (pool.callSite index).toOption.bind fun site => MethodType.arity? site.nameAndType.descriptor

end Pool

/-- What an instruction moves on the operand stack. -/
inductive StackEffect where
  | fixed (pops pushes : Nat)
  | call (receivers : Nat)
  | dynamic
  deriving DecidableEq

namespace StackEffect

def isFixed : StackEffect → Bool
  | .fixed _ _ => true
  | _ => false

/-- How many values are taken and how many are put, if the pool knows the call. -/
def counts? (pool : Pool) (index : UInt16) : StackEffect → Option (Nat × Nat)
  | .fixed pops pushes => some (pops, pushes)
  | .call receivers => (pool.arity? index).map fun count => (count + receivers, 0)
  | .dynamic => (pool.siteArity? index).map fun count => (count, 1)

def ofOpcode? (opcode : UInt8) : Option StackEffect :=
  -- Constants, loads, `getstatic` and `new`.
  if opcode ∈ [2, 3, 4, 5, 6, 7, 8, 16, 18, 21, 25, 26, 27, 28, 29, 42, 43, 44, 45, 178, 187] then
    some (.fixed 0 1)
  -- Stores, `pop`, tests of one int, `putstatic`, monitors and returns of a value.
  else if opcode ∈ [54, 58, 59, 60, 61, 62, 75, 76, 77, 78, 87, 153, 154, 156, 158, 172, 176, 179,
      194, 195] then some (.fixed 1 0)
  else if opcode = 89 then some (.fixed 1 2)
  -- Arithmetic, shifts and loads from arrays.
  else if opcode ∈ [46, 52, 96, 100, 104, 112, 120, 122, 124] then some (.fixed 2 1)
  else if opcode ∈ [79, 85] then some (.fixed 3 0)
  -- Comparisons of two ints and `putfield`.
  else if opcode ∈ [159, 160, 161, 162, 163, 181] then some (.fixed 2 0)
  -- `iinc`, `goto` and `return`.
  else if opcode ∈ [132, 167, 177] then some (.fixed 0 0)
  -- `getfield`, `newarray` and `arraylength`.
  else if opcode ∈ [180, 188, 190] then some (.fixed 1 1)
  else if opcode = 184 then some (.call 0)
  else if opcode ∈ [182, 183] then some (.call 1)
  else if opcode = 186 then some .dynamic
  else none

end StackEffect

/-- What two ints are to each other when a comparison holds. -/
def Comparison.relates : Comparison → Int → Int → Bool
  | .eq, a, b => a = b
  | .ne, a, b => a ≠ b
  | .lt, a, b => a < b
  | .ge, a, b => b ≤ a
  | .gt, a, b => b < a
  | .le, a, b => a ≤ b

theorem Comparison.holds_eq (comparison : Comparison) (a b : Int32) :
    comparison.holds a b = comparison.relates a.toInt b.toInt := by
  cases comparison with
  | eq => simp [holds, relates, Int32.toInt_inj, Bool.beq_eq_decide_eq]
  | ne => simp [holds, relates, Int32.toInt_inj, bne, Bool.beq_eq_decide_eq]
  | lt => simp [holds, relates, Int32.lt_iff_toInt_lt]
  | ge => simp [holds, relates, Int32.le_iff_toInt_le]
  | gt => simp [holds, relates, Int32.lt_iff_toInt_lt]
  | le => simp [holds, relates, Int32.le_iff_toInt_le]

/-- What a branch depends on: nothing, one int, or two ints. -/
inductive Condition where
  | always
  | zero (comparison : Comparison)
  | ints (comparison : Comparison)
  deriving DecidableEq

namespace Condition

/-- Whether a branch is taken, if its operands are there and are ints. -/
def holds? : Condition → List Value → Option Bool
  | .always, _ => some true
  | .zero comparison, value :: _ => value.toInt?.map fun int => comparison.relates int.toInt 0
  | .ints comparison, right :: left :: _ => do
    let right ← right.toInt?
    let left ← left.toInt?
    return comparison.relates left.toInt right.toInt
  | _, _ => none

def ofOpcode? (opcode : UInt8) : Option Condition :=
  if opcode = 153 then some (.zero .eq)
  else if opcode = 154 then some (.zero .ne)
  else if opcode = 156 then some (.zero .ge)
  else if opcode = 158 then some (.zero .le)
  else if opcode = 159 then some (.ints .eq)
  else if opcode = 160 then some (.ints .ne)
  else if opcode = 161 then some (.ints .lt)
  else if opcode = 162 then some (.ints .ge)
  else if opcode = 163 then some (.ints .gt)
  else if opcode = 167 then some .always
  else none

def instr (offset : Int) : Condition → Instr
  | .always => .goto offset
  | .zero comparison => .branchZero comparison offset
  | .ints comparison => .branchInts comparison offset

end Condition

namespace Instr

/-- The number of bytes of an instruction, its opcode included. -/
def length (opcode : UInt8) : Nat :=
  if opcode ∈ [16, 18, 21, 25, 54, 58, 188] then 2
  else if opcode ∈ [132, 153, 154, 156, 158, 159, 160, 161, 162, 163, 167, 178, 179, 180, 181, 182,
      183, 184, 187] then 3
  else if opcode = 186 then 5
  else 1

def effect : Instr → StackEffect
  | .iconst _ | .ldc _ | .load _ | .getstatic _ | .new _ => .fixed 0 1
  | .store _ | .pop | .branchZero .. | .putstatic _ | .monitor | .ireturn | .areturn => .fixed 1 0
  | .dup => .fixed 1 2
  | .arithmetic _ | .iaload | .caload => .fixed 2 1
  | .iastore | .castore => .fixed 3 0
  | .branchInts .. | .putfield _ => .fixed 2 0
  | .iinc .. | .goto _ | .leave => .fixed 0 0
  | .getfield _ | .newarray _ | .arraylength => .fixed 1 1
  | .invokestatic _ => .call 0
  | .invokevirtual _ | .invokespecial _ => .call 1
  | .invokedynamic .. => .dynamic

def index : Instr → UInt16
  | .getstatic index | .putstatic index | .getfield index | .putfield index | .invokevirtual index
  | .invokespecial index | .invokestatic index | .invokedynamic index _ | .new index => index
  | _ => 0

def counts? (pool : Pool) (instr : Instr) : Option (Nat × Nat) :=
  instr.effect.counts? pool instr.index

/-- The condition and the offset of a branch. -/
def branching? : Instr → Option (Condition × Int)
  | .goto offset => some (.always, offset)
  | .branchZero comparison offset => some (.zero comparison, offset)
  | .branchInts comparison offset => some (.ints comparison, offset)
  | _ => none

/-- What the tables say of an instruction whose opcode is followed by a word. -/
structure Encodes (opcode : UInt8) (word : UInt16) (instr : Instr) : Prop where
  effect : StackEffect.ofOpcode? opcode = some instr.effect
  index : instr.index = word ∨ ∃ pops pushes, instr.effect = .fixed pops pushes
  branching : instr.branching? = (Condition.ofOpcode? opcode).map (·, word.toInt16.toInt - 3)

theorem Encodes.counts {opcode : UInt8} {word : UInt16} {instr : Instr}
    (encodes : Encodes opcode word instr) (pool : Pool) :
    instr.counts? pool = (StackEffect.ofOpcode? opcode).bind (·.counts? pool word) := by
  rw [encodes.effect]
  rcases encodes.index with same | ⟨pops, pushes, fixed⟩
  · simp [counts?, same]
  · simp [counts?, fixed, StackEffect.counts?]

theorem encodes_fixed {opcode : UInt8} {word : UInt16} {instr : Instr} {pops pushes : Nat}
    (listed : StackEffect.ofOpcode? opcode = some (.fixed pops pushes))
    (same : instr.effect = .fixed pops pushes) (straight : instr.branching? = none)
    (unconditional : Condition.ofOpcode? opcode = none) : Encodes opcode word instr where
  effect := by rw [listed, same]
  index := .inr ⟨pops, pushes, same⟩
  branching := by rw [straight, unconditional, Option.map_none]

theorem forall_opcode {P : UInt8 → Prop} (all : ∀ n < 256, P (UInt8.ofNat n)) (opcode : UInt8) :
    P opcode := by
  have holds := all opcode.toNat opcode.toNat_lt
  rwa [UInt8.ofNat_toNat] at holds

theorem plain?_table (opcode : UInt8) : ∀ instr ∈ plain? opcode,
    length opcode = 1 ∧ StackEffect.ofOpcode? opcode = some instr.effect ∧
      instr.effect.isFixed ∧ instr.branching? = none ∧ Condition.ofOpcode? opcode = none := by
  revert opcode
  apply forall_opcode
  decide +kernel

theorem encodes_plain {opcode : UInt8} {instr : Instr} (found : plain? opcode = some instr)
    (word : UInt16) : length opcode = 1 ∧ Encodes opcode word instr := by
  obtain ⟨short, listed, fixed, straight, unconditional⟩ := plain?_table opcode instr found
  refine ⟨short, ?_⟩
  cases effect : instr.effect with
  | fixed pops pushes => exact encodes_fixed (effect ▸ listed) effect straight unconditional
  | _ => simp [effect, StackEffect.isFixed] at fixed

theorem byte?_table (opcode : UInt8) :
    (byte? opcode).isSome → opcode ∈ [16, 18, 21, 25, 54, 58, 188] := by
  revert opcode
  apply forall_opcode
  decide +kernel

theorem encodes_byte {opcode : UInt8} {make : UInt8 → Instr} (found : byte? opcode = some make)
    (byte : UInt8) (word : UInt16) : length opcode = 2 ∧ Encodes opcode word (make byte) := by
  have listed := byte?_table opcode (by rw [found]; rfl)
  simp only [List.mem_cons, List.not_mem_nil, or_false] at listed
  rcases listed with rfl | rfl | rfl | rfl | rfl | rfl | rfl
  all_goals
    cases found
    exact ⟨by decide, encodes_fixed (by decide) rfl rfl (by decide)⟩

theorem pooled?_table (opcode : UInt8) :
    (pooled? opcode).isSome → opcode ∈ [178, 179, 180, 181, 182, 183, 184, 187] := by
  revert opcode
  apply forall_opcode
  decide +kernel

theorem encodes_pooled {opcode : UInt8} {make : UInt16 → Instr} (found : pooled? opcode = some make)
    (word : UInt16) : length opcode = 3 ∧ Encodes opcode word (make word) := by
  have listed := pooled?_table opcode (by rw [found]; rfl)
  simp only [List.mem_cons, List.not_mem_nil, or_false] at listed
  rcases listed with rfl | rfl | rfl | rfl | rfl | rfl | rfl | rfl
  all_goals
    cases found
    exact ⟨by decide, rfl, .inl rfl, rfl⟩

theorem branch?_eq (opcode : UInt8) :
    branch? opcode = (Condition.ofOpcode? opcode).map fun condition offset =>
      condition.instr offset := by
  unfold branch? Condition.ofOpcode?
  simp only [apply_ite (Option.map _), Option.map_some, Option.map_none]
  rfl

theorem condition_table (opcode : UInt8) : ∀ condition ∈ Condition.ofOpcode? opcode,
    length opcode = 3 ∧ StackEffect.ofOpcode? opcode = some (condition.instr 0).effect ∧
      plain? opcode = none ∧ (byte? opcode).isNone := by
  revert opcode
  apply forall_opcode
  decide +kernel

theorem encodes_branch {opcode : UInt8} {condition : Condition}
    (found : Condition.ofOpcode? opcode = some condition) (word : UInt16) :
    length opcode = 3 ∧ Encodes opcode word (condition.instr (word.toInt16.toInt - 3)) := by
  obtain ⟨three, listed, _⟩ := condition_table opcode condition found
  refine ⟨three, ?_⟩
  cases condition with
  | always => exact ⟨listed, .inr ⟨0, 0, rfl⟩, by rw [found]; rfl⟩
  | zero comparison => exact ⟨listed, .inr ⟨1, 0, rfl⟩, by rw [found]; rfl⟩
  | ints comparison => exact ⟨listed, .inr ⟨2, 0, rfl⟩, by rw [found]; rfl⟩

end Instr

/-! ### Decoding by the tables -/

namespace Frame

/-- The word behind the opcode at the program counter, zero if the code ends before. -/
def operand (frame : Frame) : UInt16 :=
  UInt16.ofNat (bigEndian ((frame.code.rest.drop 1).take 2))

variable {frame later : Frame}

theorem reading_ok {α : Type} {read : Decode α} {value : α} (ran : reading read frame = .ok value later) :
    read frame.code = .ok value later.code := by
  unfold reading at ran
  split at ran
  next found =>
    cases ran
    exact found
  next => cases ran

theorem u1_ok {byte : UInt8} (ran : u1 frame = .ok byte later) :
    frame.code.Spans later.code [byte] :=
  Cursor.u1_spans.1 (reading_ok ran)

theorem u1_of_spans {byte : UInt8} {code : Cursor} (spans : frame.code.Spans code [byte]) :
    u1 frame = .ok byte { frame with code } := by
  unfold u1 reading
  rw [Cursor.u1_spans.2 spans]

theorem nextOpcode_of_spans {opcode : UInt8} {code : Cursor} (spans : frame.code.Spans code [opcode]) :
    nextOpcode frame = .ok (some opcode) { frame with start := frame.pc, code } := by
  have moved := spans.position
  have inside := code.inside
  rw [spans.1, moved] at inside
  have more : frame.code.isExhausted = false := by
    simp only [Cursor.isExhausted, Cursor.remaining, beq_eq_false_iff_ne]
    simp only [List.length_singleton] at inside
    omega
  unfold nextOpcode
  rw [if_neg (by simp [more])]
  exact map_ok.2 ⟨opcode, u1_of_spans spans, rfl⟩

theorem u2_ok {word : UInt16} (ran : u2 frame = .ok word later) :
    later.code.position = frame.code.position + 2 ∧
      word = UInt16.ofNat (bigEndian (frame.code.rest.take 2)) := by
  have spans := Cursor.u2_spans.1 (reading_ok ran)
  refine ⟨spans.position, ?_⟩
  rw [spans.2, show 2 = (Layout.u2 word).length from rfl, List.take_left, Layout.bigEndian_u2]

end Frame

namespace Instr

/-- How an instruction can be decoded: its family and the operands that are read for it. -/
inductive Decodes (opcode : UInt8) (frame later : Frame) : Instr → Prop
  | plain {instr : Instr} (found : plain? opcode = some instr) (same : later = frame) :
      Decodes opcode frame later instr
  | byte {make : UInt8 → Instr} {operand : UInt8} (found : byte? opcode = some make)
      (read : Frame.u1 frame = .ok operand later) : Decodes opcode frame later (make operand)
  | branch {condition : Condition} {word : UInt16} (found : Condition.ofOpcode? opcode = some condition)
      (read : Frame.u2 frame = .ok word later) :
      Decodes opcode frame later (condition.instr (word.toInt16.toInt - 3))
  | pooled {make : UInt16 → Instr} {word : UInt16} (found : pooled? opcode = some make)
      (read : Frame.u2 frame = .ok word later) : Decodes opcode frame later (make word)
  | increment {middle : Frame} {slot byte : UInt8} (found : opcode = 132)
      (readSlot : Frame.u1 frame = .ok slot middle) (read : Frame.u1 middle = .ok byte later) :
      Decodes opcode frame later (.iinc slot.toNat byte.toInt8)
  | dynamic {middle : Frame} {index padding : UInt16} (found : opcode = 186)
      (readIndex : Frame.u2 frame = .ok index middle) (read : Frame.u2 middle = .ok padding later) :
      Decodes opcode frame later (.invokedynamic index padding)

theorem decodes_of_decode {opcode : UInt8} {frame later : Frame} {instr : Instr}
    (ran : decode opcode frame = .ok instr later) : Decodes opcode frame later instr := by
  unfold decode at ran
  -- The families are tried in this order.
  cases plain : plain? opcode with
  | some found =>
    rw [plain] at ran
    obtain ⟨rfl, rfl⟩ := pure_ok.1 ran
    exact .plain plain rfl
  | none =>
  cases byte : byte? opcode with
  | some make =>
    simp only [plain, byte] at ran
    obtain ⟨operand, middle, read, last⟩ := bind_ok.1 ran
    obtain ⟨rfl, rfl⟩ := pure_ok.1 last
    exact .byte byte read
  | none =>
  cases branch : branch? opcode with
  | some make =>
    simp only [plain, byte, branch] at ran
    obtain ⟨offset, middle, reading, last⟩ := bind_ok.1 ran
    obtain ⟨word, after, read, subtract⟩ := bind_ok.1 reading
    obtain ⟨rfl, rfl⟩ := pure_ok.1 subtract
    obtain ⟨rfl, rfl⟩ := pure_ok.1 last
    rw [branch?_eq] at branch
    obtain ⟨condition, known, rfl⟩ := Option.map_eq_some_iff.1 branch
    exact .branch known read
  | none =>
  cases pooled : pooled? opcode with
  | some make =>
    simp only [plain, byte, branch, pooled] at ran
    obtain ⟨word, middle, read, last⟩ := bind_ok.1 ran
    obtain ⟨rfl, rfl⟩ := pure_ok.1 last
    exact .pooled pooled read
  | none =>
  simp only [plain, byte, branch, pooled] at ran
  split_ifs at ran with increment dynamic
  · obtain ⟨slot, middle, readSlot, rest⟩ := bind_ok.1 ran
    obtain ⟨delta, after, readDelta, last⟩ := bind_ok.1 rest
    obtain ⟨byte, final, read, convert⟩ := bind_ok.1 readDelta
    obtain ⟨rfl, rfl⟩ := pure_ok.1 convert
    obtain ⟨rfl, rfl⟩ := pure_ok.1 last
    exact .increment increment readSlot read
  · obtain ⟨index, middle, readIndex, rest⟩ := bind_ok.1 ran
    obtain ⟨padding, after, readPadding, last⟩ := bind_ok.1 rest
    obtain ⟨rfl, rfl⟩ := pure_ok.1 last
    exact .dynamic dynamic readIndex readPadding
  · cases ran

theorem decode_encodes {opcode : UInt8} {frame later : Frame} {instr : Instr}
    (ran : decode opcode frame = .ok instr later) :
    later.code.position + 1 = frame.code.position + length opcode ∧
      Encodes opcode (UInt16.ofNat (bigEndian (frame.code.rest.take 2))) instr := by
  cases decodes_of_decode ran with
  | plain found same =>
    obtain ⟨one, encodes⟩ := encodes_plain found (UInt16.ofNat (bigEndian (frame.code.rest.take 2)))
    exact ⟨by rw [one, same], encodes⟩
  | @byte make operand found read =>
    obtain ⟨two, encodes⟩ :=
      encodes_byte found operand (UInt16.ofNat (bigEndian (frame.code.rest.take 2)))
    refine ⟨?_, encodes⟩
    rw [two, (Frame.u1_ok read).position]
    rfl
  | branch found read =>
    obtain ⟨moved, rfl⟩ := Frame.u2_ok read
    obtain ⟨three, encodes⟩ := encodes_branch found (UInt16.ofNat (bigEndian (frame.code.rest.take 2)))
    exact ⟨by rw [three, moved], encodes⟩
  | pooled found read =>
    obtain ⟨moved, rfl⟩ := Frame.u2_ok read
    obtain ⟨three, encodes⟩ := encodes_pooled found (UInt16.ofNat (bigEndian (frame.code.rest.take 2)))
    exact ⟨by rw [three, moved], encodes⟩
  | increment found readSlot read =>
    subst found
    refine ⟨?_, encodes_fixed (by decide) rfl rfl (by decide)⟩
    rw [(Frame.u1_ok read).position, (Frame.u1_ok readSlot).position]
    rfl
  | dynamic found readIndex read =>
    subst found
    obtain ⟨moved, rfl⟩ := Frame.u2_ok readIndex
    refine ⟨?_, rfl, .inl rfl, rfl⟩
    rw [(Frame.u2_ok read).1, moved]
    rfl

end Instr

namespace Exec

variable {top : Frame} {shared : Shared} {instr : Instr} {a : Activation}

theorem nextOpcode_spans {frame started : Frame} {opcode : UInt8}
    (ran : Frame.nextOpcode frame = .ok (some opcode) started) :
    frame.code.Spans started.code [opcode] := by
  obtain ⟨value, read, same⟩ := map_ok.1 (Frame.nextOpcode_ok ran).2
  cases same
  have spans := Frame.u1_ok read
  exact spans

/-- The instruction at the program counter is the one that its opcode and the word behind it stand for. -/
theorem decoded_encodes (read : decoded ⟨top, shared⟩ = .ok instr a) :
    ∃ opcode, top.peekOpcode? = some opcode ∧ a.frame.pc = top.pc + Instr.length opcode ∧
      Instr.Encodes opcode top.operand instr := by
  obtain ⟨opcode, started, opened, done, _⟩ := decoded_ok.1 read
  have spans := nextOpcode_spans opened
  obtain ⟨moved, encodes⟩ := Instr.decode_encodes done
  refine ⟨opcode, ?_, ?_, ?_⟩
  · unfold Frame.peekOpcode?
    rw [Cursor.u1_spans.2 spans]
  · have first := spans.position
    show a.frame.code.position = top.code.position + _
    rw [List.length_singleton] at first
    omega
  · unfold Frame.operand
    rw [spans.2]
    exact encodes

end Exec

end MiniJvm
