import MiniJvm.Cursor
import MiniJvm.Effect

/-!
What reading does to the cursor: a successful read keeps the buffer and never moves back.
-/

namespace MiniJvm.Cursor

open Effect

theorem ext {c d : Cursor} (sameBytes : c.bytes = d.bytes) (samePosition : c.position = d.position) :
    c = d := by
  cases c
  cases d
  cases sameBytes
  cases samePosition
  rfl

theorem take_ok {count : Nat} {c d : Cursor} {taken : Array UInt8} :
    take count c = .ok taken d ↔
      taken = c.bytes.extract c.position (c.position + count) ∧
        d.bytes = c.bytes ∧ d.position = c.position + count := by
  unfold take
  split
  · rename_i fits
    constructor
    · intro read
      cases read
      exact ⟨rfl, rfl, rfl⟩
    · rintro ⟨rfl, sameBytes, moved⟩
      cases d
      cases sameBytes
      cases moved
      rfl
  · rename_i short
    constructor
    · intro read
      cases read
    · rintro ⟨_, sameBytes, moved⟩
      have inside := d.inside
      rw [sameBytes, moved] at inside
      exact absurd inside short

theorem take_size {count : Nat} {c d : Cursor} {taken : Array UInt8}
    (read : take count c = .ok taken d) : taken.size = count := by
  obtain ⟨rfl, sameBytes, moved⟩ := take_ok.1 read
  have inside := d.inside
  rw [sameBytes, moved] at inside
  rw [Array.size_extract]
  omega

/-- A successful read of `read` keeps the buffer and moves forward by at least `least`. -/
def Advances {α : Type} (least : Nat) (read : Decode α) : Prop :=
  ∀ ⦃c d : Cursor⦄ ⦃value : α⦄, read c = .ok value d →
    d.bytes = c.bytes ∧ c.position + least ≤ d.position

theorem advances_take (count : Nat) : Advances count (take count) := by
  intro c d taken read
  obtain ⟨_, sameBytes, moved⟩ := take_ok.1 read
  exact ⟨sameBytes, by omega⟩

theorem advances_number (width : Nat) : Advances width (number width) := by
  intro c d value read
  obtain ⟨taken, u, first, last⟩ := bind_ok.1 read
  cases (pure_ok.1 last).2
  exact advances_take width first

theorem advances_map {α β : Type} {least : Nat} {read : Decode α} (f : α → β)
    (moves : Advances least read) : Advances least (f <$> read) := by
  intro c d value run
  obtain ⟨a, first, _⟩ := map_ok.1 run
  exact moves first

theorem advances_u2 : Advances 2 u2 := advances_map _ (advances_number 2)

theorem advances_u4 : Advances 4 u4 := advances_map _ (advances_number 4)

theorem advances_pure {α : Type} (value : α) : Advances 0 (pure value : Decode α) := by
  intro c d result run
  cases (pure_ok.1 run).2
  exact ⟨rfl, by omega⟩

theorem advances_bind {α β : Type} {first : Decode α} {next : α → Decode β} {m n : Nat}
    (moves : Advances m first) (movesNext : ∀ a, Advances n (next a)) :
    Advances (m + n) (first >>= next) := by
  intro c d value run
  obtain ⟨a, u, start, finish⟩ := bind_ok.1 run
  obtain ⟨sameFirst, movedFirst⟩ := moves start
  obtain ⟨sameNext, movedNext⟩ := movesNext a finish
  exact ⟨sameNext.trans sameFirst, by omega⟩

theorem advances_times {α : Type} {least : Nat} {item : Decode α} (moves : Advances least item)
    (count : Nat) : Advances 0 (times count item) := by
  induction count with
  | zero => exact advances_pure []
  | succ count ih =>
    intro c d value run
    have step := advances_bind moves fun a =>
      advances_bind ih fun others => advances_pure (a :: others)
    obtain ⟨same, moved⟩ := step run
    exact ⟨same, by omega⟩

/-- Items that are read one after the other all lie between the start and the end. -/
theorem times_mem {α : Type} {item : Decode α} {span : α → Nat}
    (moves : ∀ ⦃c d : Cursor⦄ ⦃value : α⦄, item c = .ok value d →
      d.bytes = c.bytes ∧ c.position + span value ≤ d.position)
    {count : Nat} {c d : Cursor} {values : List α} (run : times count item c = .ok values d) :
    (d.bytes = c.bytes ∧ c.position ≤ d.position) ∧ ∀ v ∈ values, span v ≤ d.position := by
  induction count generalizing c values with
  | zero =>
    obtain ⟨rfl, rfl⟩ := pure_ok.1 run
    exact ⟨⟨rfl, Nat.le_refl _⟩, by simp⟩
  | succ count ih =>
    obtain ⟨a, u, first, later⟩ := bind_ok.1 run
    obtain ⟨others, w, more, last⟩ := bind_ok.1 later
    obtain ⟨rfl, rfl⟩ := pure_ok.1 last
    obtain ⟨sameFirst, movedFirst⟩ := moves first
    obtain ⟨⟨sameMore, movedMore⟩, each⟩ := ih more
    refine ⟨⟨sameMore.trans sameFirst, by omega⟩, ?_⟩
    intro v member
    cases member with
    | head => omega
    | tail _ member => exact each v member

end MiniJvm.Cursor
