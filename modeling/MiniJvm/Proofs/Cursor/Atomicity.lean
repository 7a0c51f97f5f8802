import Mathlib.Data.Nat.Digits.Lemmas
import MiniJvm.Cursor.Lemmas
import MiniJvm.Proofs.Machine.Conduct.Frame

/-!
Reads and jumps in any order. A read takes all the bytes it asks for or none of them, and a jump leads to
a place between the start and the end or nowhere, so that a cursor never leaves its buffer and an operation
that fails has done nothing.
-/

namespace MiniJvm

open Effect

theorem bigEndian_concat (bytes : List UInt8) (last : UInt8) :
    bigEndian (bytes ++ [last]) = bigEndian bytes * 256 + last.toNat := by
  simp [bigEndian]

/-- Bytes are digits of base 256, the most significant one first. -/
theorem bigEndian_eq_ofDigits (bytes : List UInt8) :
    bigEndian bytes = Nat.ofDigits 256 (bytes.reverse.map UInt8.toNat) := by
  induction bytes using List.reverseRecOn with
  | nil => rfl
  | append_singleton bytes last ih =>
    rw [bigEndian_concat, ih, List.reverse_append, List.reverse_singleton, List.singleton_append,
      List.map_cons, Nat.ofDigits_cons]
    omega

theorem bigEndian_lt (bytes : List UInt8) : bigEndian bytes < 256 ^ bytes.length := by
  have digits : ∀ digit ∈ bytes.reverse.map UInt8.toNat, digit < 256 := by
    intro digit member
    obtain ⟨byte, _, rfl⟩ := List.mem_map.1 member
    exact byte.toNat_lt
  rw [bigEndian_eq_ofDigits]
  simpa using Nat.ofDigits_lt_base_pow_length (by decide) digits

namespace Cursor

inductive Operation where
  | u1
  | u2
  | u4
  | take (count : Nat)
  | fromStart (offset : UInt64)
  | fromHere (offset : Int)
  | fromEnd (offset : Int)

inductive Answer where
  | number (value : Nat)
  | bytes (copy : List UInt8)
  | position (position : Nat)

def Answer.ofDigits (bytes : List UInt8) : Answer :=
  .number (Nat.ofDigits 256 (bytes.reverse.map UInt8.toNat))

/-- What an operation needs: some bytes to make its answer of, or a place to go to. -/
inductive Demand where
  | read (count : Nat) (answer : List UInt8 → Answer)
  | seek (target : Int)

namespace Operation

def perform : Operation → Decode Answer
  | .u1 => (fun byte => .number byte.toNat) <$> Cursor.u1
  | .u2 => (fun word => .number word.toNat) <$> Cursor.u2
  | .u4 => (fun word => .number word.toNat) <$> Cursor.u4
  | .take count => (fun copy => .bytes copy.toList) <$> Cursor.take count
  | .fromStart offset => .position <$> Cursor.fromStart offset
  | .fromHere offset => .position <$> Cursor.fromHere offset
  | .fromEnd offset => .position <$> Cursor.fromEnd offset

/-- Offsets from the start are signed words: those of 2 ^ 63 and above are negative. -/
def demand (c : Cursor) : Operation → Demand
  | .u1 => .read 1 .ofDigits
  | .u2 => .read 2 .ofDigits
  | .u4 => .read 4 .ofDigits
  | .take count => .read count .bytes
  | .fromStart offset =>
    .seek (if offset.toNat < 2 ^ 63 then offset.toNat else (offset.toNat : Int) - 2 ^ 64)
  | .fromHere offset => .seek (c.position + offset)
  | .fromEnd offset => .seek (c.size + offset)

end Operation

def after (operations : List Operation) (c : Cursor) : Cursor :=
  operations.foldl (fun c operation => final (operation.perform c)) c

/-- How a demand is met: in full if that is possible, and otherwise not at all. -/
inductive Demand.Meets (c : Cursor) : Demand → EStateM.Result Fault Cursor Answer → Prop
  | read {count : Nat} {answer : List UInt8 → Answer} {d : Cursor} (enough : count ≤ c.remaining)
      (same : d.bytes = c.bytes) (moved : d.position = c.position + count) :
      Meets c (.read count answer) (.ok (answer ((c.bytes.toList.drop c.position).take count)) d)
  | short {count : Nat} {answer : List UInt8 → Answer} (few : c.remaining < count) :
      Meets c (.read count answer) (.error (.unexpectedEnd count c.remaining) c)
  | arrive {target : Int} {d : Cursor} (inside : 0 ≤ target ∧ target ≤ c.size)
      (same : d.bytes = c.bytes) (moved : d.position = target) :
      Meets c (.seek target) (.ok (.position target.toNat) d)
  | stray {target : Int} (outside : ¬ (0 ≤ target ∧ target ≤ c.size)) :
      Meets c (.seek target) (.error (.branchOutside target) c)

variable {c : Cursor}

theorem meets_take {count : Nat} {answer : List UInt8 → Answer} (make : Array UInt8 → Answer)
    (same : ∀ taken : Array UInt8, taken.size = count → make taken = answer taken.toList) :
    (Demand.read count answer).Meets c ((make <$> take count) c) := by
  have inside := c.inside
  show (Demand.read count answer).Meets c (EStateM.map make (take count) c)
  unfold EStateM.map
  by_cases fits : c.position + count ≤ c.bytes.size
  · have taken : take count c = .ok _ ⟨c.bytes, c.position + count, fits⟩ := dif_pos fits
    rw [taken]
    dsimp only
    rw [same _ (take_size taken), Array.toList_extract, List.extract_eq_take_drop,
      Nat.add_sub_cancel_left]
    exact .read (by unfold remaining; omega) rfl rfl
  · have refused : take count c = .error (.unexpectedEnd count c.remaining) c := dif_neg fits
    rw [refused]
    exact .short (by unfold remaining; omega)

/-- A word is wide enough for the number that its bytes spell. -/
theorem meets_number {count : Nat} (make : Nat → Answer)
    (same : ∀ value < 256 ^ count, make value = .number value) :
    (Demand.read count .ofDigits).Meets c ((make <$> number count) c) := by
  have whole : make <$> number count =
      (fun taken : Array UInt8 => make (bigEndian taken.toList)) <$> take count := by
    unfold number
    rw [bind_pure_comp, Functor.map_map]
  rw [whole]
  refine meets_take _ fun taken size => ?_
  have bound := bigEndian_lt taken.toList
  rw [Array.length_toList, size] at bound
  rw [same _ bound, bigEndian_eq_ofDigits]
  rfl

theorem meets_jumpTo (target : Int) :
    (Demand.seek target).Meets c ((Answer.position <$> jumpTo target) c) := by
  show (Demand.seek target).Meets c (EStateM.map Answer.position (jumpTo target) c)
  unfold EStateM.map
  by_cases inside : 0 ≤ target ∧ target ≤ c.bytes.size
  · have jumped : jumpTo target c = .ok target.toNat ⟨c.bytes, target.toNat, by omega⟩ := dif_pos inside
    rw [jumped]
    exact .arrive inside rfl (Int.toNat_of_nonneg inside.1)
  · have refused : jumpTo target c = .error (.branchOutside target) c := dif_neg inside
    rw [refused]
    exact .stray inside

theorem toInt_toInt64 (offset : UInt64) : offset.toInt64.toInt =
    if offset.toNat < 2 ^ 63 then (offset.toNat : Int) else (offset.toNat : Int) - 2 ^ 64 := by
  have signed : offset.toInt64.toInt = offset.toBitVec.toInt := rfl
  have unsigned : offset.toNat = offset.toBitVec.toNat := rfl
  rw [signed, unsigned, BitVec.toInt_eq_toNat_cond]
  split <;> split <;> omega

theorem meets_perform (operation : Operation) (c : Cursor) :
    (operation.demand c).Meets c (operation.perform c) := by
  cases operation with
  | u1 =>
    show (Demand.read 1 .ofDigits).Meets c ((_ <$> UInt8.ofNat <$> number 1) c)
    rw [Functor.map_map]
    exact meets_number _ fun value fits => by rw [UInt8.toNat_ofNat_of_lt' fits]
  | u2 =>
    show (Demand.read 2 .ofDigits).Meets c ((_ <$> UInt16.ofNat <$> number 2) c)
    rw [Functor.map_map]
    exact meets_number _ fun value fits => by rw [UInt16.toNat_ofNat_of_lt' fits]
  | u4 =>
    show (Demand.read 4 .ofDigits).Meets c ((_ <$> UInt32.ofNat <$> number 4) c)
    rw [Functor.map_map]
    exact meets_number _ fun value fits => by rw [UInt32.toNat_ofNat_of_lt' fits]
  | take count => exact meets_take _ fun taken _ => rfl
  | fromStart offset =>
    dsimp only [Operation.demand]
    rw [← toInt_toInt64]
    exact meets_jumpTo _
  | fromHere offset => exact meets_jumpTo _
  | fromEnd offset => exact meets_jumpTo _

theorem bytes_perform (operation : Operation) (c : Cursor) :
    (final (operation.perform c)).bytes = c.bytes := by
  have meets := meets_perform operation c
  generalize operation.demand c = demand, operation.perform c = result at meets
  cases meets with
  | read _ same _ => exact same
  | arrive _ same _ => exact same
  | short _ => rfl
  | stray _ => rfl

theorem bytes_after (operations : List Operation) (c : Cursor) :
    (after operations c).bytes = c.bytes := by
  induction operations generalizing c with
  | nil => rfl
  | cons operation others ih => exact (ih _).trans (bytes_perform operation c)

theorem perform_failed {operation : Operation} {fault : Fault} {d : Cursor}
    (failed : operation.perform c = .error fault d) : d = c := by
  have meets := meets_perform operation c
  rw [failed] at meets
  generalize operation.demand c = demand at meets
  cases meets with
  | short _ => rfl
  | stray _ => rfl

/-- Whatever has been asked of a cursor before, it is inside its buffer, and an operation that fails leaves
it where it is. A read gives what it makes of the bytes that come next and moves behind them if there are so
many left, and fails for want of bytes otherwise. A jump leads to its target if that is between the start and
the end, both included, and fails otherwise. -/
theorem reads_and_jumps_atomic (buffer : Array UInt8) (operations : List Operation) (c : Cursor)
    (reached : c = after operations (ofBytes buffer)) :
    c.bytes = buffer ∧ c.position ≤ buffer.size ∧
      ∀ operation : Operation, (operation.demand c).Meets c (operation.perform c) ∧
        ∀ fault d, operation.perform c = .error fault d → d = c := by
  have same : c.bytes = buffer := by
    rw [reached, bytes_after]
    rfl
  refine ⟨same, ?_, fun operation => ⟨meets_perform operation c, fun _ _ => perform_failed⟩⟩
  rw [← same]
  exact c.inside

/-- Three bytes, of which one has been read and four have been asked for in vain: the other two can be read,
and an offset whose sign bit is set leads nowhere. -/
theorem short_buffer_atomic :
    (after [.u1, .u4] (ofBytes #[1, 2, 3])).position = 1 ∧
      (∃ d, Operation.perform .u2 (after [.u1, .u4] (ofBytes #[1, 2, 3])) = .ok (.number 515) d ∧
        d.position = 3) ∧
      Operation.perform (.fromStart 0x8000000000000000) (after [.u1, .u4] (ofBytes #[1, 2, 3])) =
        .error (.branchOutside (-2 ^ 63)) (after [.u1, .u4] (ofBytes #[1, 2, 3])) := by
  obtain ⟨buffer, _, atomic⟩ := reads_and_jumps_atomic #[1, 2, 3] [.u1, .u4] _ rfl
  have start : (after [.u1, .u4] (ofBytes #[1, 2, 3])).position = 1 := by decide
  have read := (atomic .u2).1
  have jump : (Demand.seek (-2 ^ 63)).Meets _ _ := (atomic (.fromStart 0x8000000000000000)).1
  generalize after [.u1, .u4] (ofBytes #[1, 2, 3]) = c at buffer start read jump ⊢
  have left : c.remaining = 2 := by simp [remaining, buffer, start]
  refine ⟨start, ?_, ?_⟩
  · generalize Operation.perform .u2 c = result at read ⊢
    cases read with
    | read _ _ moved =>
      refine ⟨_, ?_, by rw [moved, start]⟩
      rw [buffer, start]
      rfl
    | short few => omega
  · have negative : ¬ (0 : Int) ≤ -2 ^ 63 := by decide
    generalize Operation.perform (.fromStart 0x8000000000000000) c = result, (-2 ^ 63 : Int) = target
      at jump negative ⊢
    cases jump with
    | arrive inside => exact absurd inside.1 negative
    | stray _ => rfl

end Cursor

end MiniJvm
