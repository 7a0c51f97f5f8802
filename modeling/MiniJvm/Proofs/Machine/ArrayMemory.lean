import MiniJvm.Proofs.Machine.ArrayMemory.Step
import MiniJvm.Proofs.Machine.ReferenceSafety

/-!
Arrays as memory. From the moment an array is made it keeps its kind and its length, and each element holds
what the last successful store into it has left, or zero. It does not matter through which reference an
element is stored or loaded, and no other instruction has an influence. A run is a sequence of moves, and
every history of a machine consists of moves.
-/

namespace MiniJvm

open Effect

namespace Machine

def Move.stored? (kind : ArrayKind) (address slot : Nat) (machine : Machine) : Move → Option Int32
  | .step => Machine.stored? kind address slot machine
  | _ => none

/-- The last value that a run stores into an element of an array. -/
def lastStored? (kind : ArrayKind) (address slot : Nat) : List Move → Machine → Option Int32
  | [], _ => none
  | move :: later, machine =>
    (lastStored? kind address slot later (move.make machine)).or
      (move.stored? kind address slot machine)

variable {machine : Machine} {kind : ArrayKind} {address slot : Nat} {old : List Value}

/-! ### Runs -/

theorem make_overwrites (move : Move) (there : machine.shared.heap.array? address = some (kind, old)) :
    ∃ new, (move.make machine).shared.heap.array? address = some (kind, new) ∧
      Overwritten kind (fun slot => move.stored? kind address slot machine) old new := by
  by_cases steps : move = .step
  · subst steps
    exact step_overwrites there
  · refine ⟨old, ?_, overwritten_refl kind (fun slot => ?_) old⟩
    · rw [(make_sameStore steps machine).1.heap]
      exact there
    · cases move with
      | step => exact absurd rfl steps
      | _ => rfl

theorem run_overwrites (moves : List Move)
    (there : machine.shared.heap.array? address = some (kind, old)) :
    ∃ new, (makeAll moves machine).shared.heap.array? address = some (kind, new) ∧
      Overwritten kind (fun slot => lastStored? kind address slot moves machine) old new := by
  induction moves generalizing machine old with
  | nil => exact ⟨old, there, overwritten_refl kind (fun _ => rfl) old⟩
  | cons move later ih =>
    -- What the later moves have written covers what the first one has.
    obtain ⟨middle, thereNext, first⟩ := make_overwrites move there
    obtain ⟨new, thereLast, others⟩ := ih thereNext
    exact ⟨new, thereLast, first.trans others⟩

theorem lastStored?_absent (moves : List Move)
    (absent : (makeAll moves machine).shared.heap.array? address = none) :
    lastStored? kind address slot moves machine = none := by
  induction moves generalizing machine with
  | nil => rfl
  | cons move later ih =>
    -- An array that were there would still be there in the end.
    have never : machine.shared.heap.array? address = none := by
      cases there : machine.shared.heap.array? address with
      | none => rfl
      | some array =>
        obtain ⟨new, still, _⟩ := run_overwrites (move :: later) there
        rw [still] at absent
        cases absent
    have nothing : move.stored? kind address slot machine = none := by
      cases move with
      | step => exact stored?_absent never
      | _ => rfl
    show (lastStored? kind address slot later (move.make machine)).or _ = none
    rw [nothing, ih absent]
    rfl

theorem lastStored?_append (earlier later : List Move) :
    lastStored? kind address slot (earlier ++ later) machine =
      (lastStored? kind address slot later (makeAll earlier machine)).or
        (lastStored? kind address slot earlier machine) := by
  induction earlier generalizing machine with
  | nil => exact (Option.or_none).symm
  | cons move others ih =>
    show (lastStored? kind address slot (others ++ later) (move.make machine)).or _ = _
    rw [ih, Option.or_assoc]
    rfl

theorem makeAll_sound (moves : List Move) (sound : machine.Sound) : (makeAll moves machine).Sound := by
  induction moves generalizing machine with
  | nil => exact sound
  | cons move later ih => exact ih (make_sound move machine sound).1

theorem Sound.array_tag {tag : String} (sound : machine.Sound)
    (there : machine.shared.heap.array? address = some (kind, old))
    (held : .reference address tag ∈ machine.stack) : tag = kind.tag := by
  unfold stack at held
  cases frames : machine.frames with
  | nil =>
    rw [frames] at held
    cases held
  | cons top below =>
    rw [frames] at held
    obtain ⟨object, found, tagged⟩ := sound.backs (.inl ⟨top, by simp [frames], .inl held⟩)
    rw [← tagged, Heap.array?_tag there found]

/-- What a run stores into an array that it makes, it stores after it has made it. -/
theorem lastStored?_made {start made : Machine} {earlier : List Move} (later : List Move)
    (reached : machine = makeAll earlier start) (ran : step machine = .ok () made) (kind : ArrayKind)
    (slot : Nat) : lastStored? kind machine.shared.heap.size slot (earlier ++ .step :: later) start =
      lastStored? kind machine.shared.heap.size slot later made := by
  have before : lastStored? kind machine.shared.heap.size slot earlier start = none := by
    refine lastStored?_absent earlier ?_
    rw [← reached]
    exact Heap.array?_size _
  have during : stored? kind machine.shared.heap.size slot machine = none :=
    stored?_absent (Heap.array?_size _)
  have steps : Move.make .step machine = made := by
    rw [Move.make, ran]
    rfl
  rw [lastStored?_append, ← reached, before, Option.or_none]
  show (lastStored? kind _ slot later (Move.make .step machine)).or (stored? kind _ slot machine) = _
  rw [steps, during, Option.or_none]

/-- An array that a run makes keeps its kind and the length that it was made with. Each element holds what is
kept of the int that a store of the run has last put there, or of zero if there is no such store. Whatever
reference to the array lies on the operand stack, `arraylength` pushes the length, and a load of its kind
pushes the element if its index is within bounds and fails otherwise. -/
theorem array_holds_last_stored (classpath : String) (disk : Disk) (output : Sink) (logLimit : Nat)
    (earlier later : List Move) (code : UInt8) (start machine made last : Machine)
    (begins : start = fresh classpath disk output logLimit) (reached : machine = makeAll earlier start)
    (next : machine.next? = some (.newarray code)) (ran : step machine = .ok () made)
    (followed : last = makeAll later made) :
    ∃ operand count rest kind elements, machine.stack = operand :: rest ∧
      operand.toInt? = some count ∧ code = ArrayKind.code kind ∧
      made.stack = .reference machine.shared.heap.size kind.tag :: rest ∧
      last.shared.heap.array? machine.shared.heap.size = some (kind, elements) ∧
      (elements.length : Int) = count.toInt ∧
      (∀ slot < elements.length, elements[slot]? = some (kind.kept
        ((lastStored? kind machine.shared.heap.size slot (earlier ++ .step :: later) start).getD 0))) ∧
      (∀ tag below, last.next? = some .arraylength →
        last.stack = .reference machine.shared.heap.size tag :: below →
          ∃ measured, step last = .ok () measured ∧ measured.stack = .int count :: below) ∧
      ∀ operand index tag below, last.next? = some kind.load →
        last.stack = operand :: .reference machine.shared.heap.size tag :: below →
        operand.toInt? = some index →
          (0 ≤ index.toInt ∧ index.toInt < count.toInt → ∃ loaded, step last = .ok () loaded ∧
            loaded.stack = kind.kept ((lastStored? kind machine.shared.heap.size index.toInt.toNat
              (earlier ++ .step :: later) start).getD 0) :: below) ∧
          (¬ (0 ≤ index.toInt ∧ index.toInt < count.toInt) → ∃ failed,
            step last = .error (.arrayIndexOutOfBounds index count.toInt.toNat) failed) := by
  obtain ⟨operand, count, rest, kind, shape, counts, nonnegative, coded, pushes, there⟩ :=
    step_makes next ran
  obtain ⟨elements, thereLast, length, written⟩ := run_overwrites later there
  rw [List.length_replicate] at length written
  have held (slot : Nat) (inside : slot < count.toInt.toNat) : elements[slot]? = some (kind.kept
      ((lastStored? kind machine.shared.heap.size slot (earlier ++ .step :: later) start).getD 0)) := by
    rw [lastStored?_made later reached ran, written slot inside,
      List.getElem?_replicate_of_lt inside]
    cases lastStored? kind machine.shared.heap.size slot later made with
    | none => rfl
    | some int => rfl
  have sound : last.Sound := by
    have soundMachine : machine.Sound := by
      rw [reached, begins]
      exact makeAll_sound earlier (fresh_sound ..)
    have soundMade := (safe_step soundMachine).1
    rw [ran] at soundMade
    rw [followed]
    exact makeAll_sound later soundMade
  rw [← followed] at thereLast
  refine ⟨operand, count, rest, kind, elements, shape, counts, coded, pushes, thereLast, by omega,
    ?_, ?_, ?_⟩
  · rw [length]
    exact held
  · intro tag below next shape
    obtain ⟨measured, ran, pushed⟩ := step_length thereLast next shape
    refine ⟨measured, ran, ?_⟩
    rw [pushed, length, ← Int32.ofInt_eq_ofNat, Int.toNat_of_nonneg nonnegative, Int32.ofInt_toInt]
  · intro operand index tag below next shape seen
    have tagged : tag = kind.tag := sound.array_tag thereLast (by rw [shape]; simp)
    subst tagged
    have loads := step_load thereLast next shape seen
    constructor
    · rintro ⟨least, most⟩
      rw [Heap.at?, if_pos least, held _ (by omega)] at loads
      exact loads
    · intro outside
      rw [Heap.at?_outside (by omega), length] at loads
      exact loads

/-- An entry point that makes an array of two chars, stores minus one in the second and loads that again. -/
def charsMain : ClassFile :=
  { arrayMain with
    methods := [⟨mainFlags, 0, 0, mainName, mainDescriptor,
      [.code 0 4 1 #[5, 188, 5, 89, 4, 2, 85, 4, 52] [] []]⟩] }

def charsStart : Machine :=
  fresh "" Disk.empty Sink.unbounded 0

def charsMachine : Machine :=
  makeAll [.enterMain charsMain, .step] charsStart

def charsLast : Machine :=
  makeAll [.step, .step, .step, .step, .step] (final (step charsMachine))

/-- Minus one is kept as the last of all chars. -/
theorem chars_last_stored :
    charsMachine.next? = some (.newarray 5) ∧ charsLast.stack = [.int 1, .reference 0 "[C"] ∧
      ∃ loaded, step charsLast = .ok () loaded ∧ loaded.stack = [.char 65535] := by
  have facts : charsMachine.next? = some (.newarray 5) ∧ value? (step charsMachine) = some () ∧
      charsMachine.stack = [.int 2] ∧ charsMachine.shared.heap.size = 0 ∧
      charsLast.next? = some .caload ∧ charsLast.stack = [.int 1, .reference 0 "[C"] ∧
      lastStored? .chars 0 1 ([.enterMain charsMain, .step] ++ .step ::
        [.step, .step, .step, .step, .step]) charsStart = some (-1) := by
    decide +kernel
  obtain ⟨next, made, counted, size, loadNext, stacked, stored⟩ := facts
  obtain ⟨operand, count, rest, kind, elements, shape, counts, coded, _, _, _, _, _, loads⟩ :=
    array_holds_last_stored "" Disk.empty Sink.unbounded 0 [.enterMain charsMain, .step]
      [.step, .step, .step, .step, .step] 5 charsStart charsMachine _ charsLast rfl rfl next
      (eq_ok_of_value? made) rfl
  cases counted.symm.trans shape
  cases counts
  cases kind with
  | ints => exact absurd coded (by decide)
  | chars =>
    rw [size] at loads
    obtain ⟨loaded, ran, pushed⟩ := (loads (.int 1) 1 "[C" [] loadNext stacked rfl).1 (by decide)
    have second : Int32.toInt 1 = 1 := by decide
    rw [second, Int.toNat_one, stored] at pushed
    exact ⟨next, stacked, loaded, ran, pushed⟩

end Machine

end MiniJvm
