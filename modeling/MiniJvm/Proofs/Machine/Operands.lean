import MiniJvm.Proofs.Machine.Execution.Step

/-!
Operands by position. The operand stack has its top first and a call takes its operands from the last one
to the first, so that they lie on the stack in reverse. Each of them goes with the parameter of its own
position, and so does what is made of it.
-/

namespace MiniJvm

open Effect Activation

namespace Exec

variable {α : Type} {relates : FieldType → Value → α → Prop} {parameters : List FieldType}
  {operands : List Value} {results : List α}

/-- Parameters, operands and results of the same number, related one by one. -/
inductive Each (relates : FieldType → Value → α → Prop) :
    List FieldType → List Value → List α → Prop
  | nil : Each relates [] [] []
  | cons {parameter : FieldType} {operand : Value} {result : α} {parameters : List FieldType}
      {operands : List Value} {results : List α} (first : relates parameter operand result)
      (others : Each relates parameters operands results) :
      Each relates (parameter :: parameters) (operand :: operands) (result :: results)

theorem Each.length (each : Each relates parameters operands results) :
    operands.length = parameters.length ∧ results.length = parameters.length := by
  induction each with
  | nil => exact ⟨rfl, rfl⟩
  | cons _ _ ih => exact ⟨congrArg (· + 1) ih.1, congrArg (· + 1) ih.2⟩

theorem Each.at (each : Each relates parameters operands results) {i : Nat} {parameter : FieldType}
    {operand : Value} (asked : parameters[i]? = some parameter) (given : operands[i]? = some operand) :
    ∃ result, relates parameter operand result := by
  induction each generalizing i with
  | nil => cases asked
  | cons first _ ih =>
    cases i with
    | zero =>
      cases asked
      cases given
      exact ⟨_, first⟩
    | succ i => exact ih asked given

/-- Operands that are taken from the last to the first, each as its parameter demands. -/
theorem ends_fromLast {action : FieldType → Exec α} {a : Activation} {stuck : Shared → Prop}
    (pops : ∀ parameter stack, Ends (action parameter) (a.withStack stack) (fun result b =>
      ∃ operand rest, stack = operand :: rest ∧ relates parameter operand result ∧
        b = a.withStack rest) stuck) (parameters : List FieldType) :
    Ends (fromLast action parameters) a (fun results b => ∃ operands rest,
      a.frame.stack = operands.reverse ++ rest ∧ Each relates parameters operands results ∧
        b = a.withStack rest) stuck := by
  induction parameters with
  | nil => exact ends_pure ⟨[], a.frame.stack, rfl, .nil, rfl⟩
  | cons parameter others ih =>
    refine ends_bind ih ?_
    rintro results _ ⟨operands, stack, shape, each, rfl⟩
    refine ends_bind (pops parameter stack) ?_
    rintro result _ ⟨operand, rest, rfl, first, rfl⟩
    refine ends_pure ⟨operand :: operands, rest, ?_, .cons first each, rfl⟩
    rw [shape, List.reverse_cons, List.append_assoc]
    rfl

theorem operands_unique {operands others rest below : List Value}
    (same : operands.reverse ++ rest = others.reverse ++ below)
    (number : operands.length = others.length) : operands = others ∧ rest = below := by
  obtain ⟨reversed, left⟩ := List.append_inj same (by simpa using number)
  exact ⟨List.reverse_inj.1 reversed, left⟩

/-! ### Single operands -/

variable {a b : Activation} {rest : List Value}

theorem pop_of {value : Value} (shape : a.frame.stack = value :: rest) :
    onFrame Frame.pop a = .ok value (a.withStack rest) := by
  simp only [onFrame, Frame.pop, shape]
  rfl

theorem popInt_iff {int : Int32} : popInt a = .ok int b ↔ ∃ operand rest,
    a.frame.stack = operand :: rest ∧ operand.toInt? = some int ∧ b = a.withStack rest := by
  constructor
  · intro ran
    have ends : Ends popInt a _ (fun _ => True) := ends_popInt trivial
    obtain ⟨operand, rest, shown, shape, same⟩ := ends.done ran
    exact ⟨operand, rest, shape, shown, same⟩
  · rintro ⟨operand, rest, shape, shown, rfl⟩
    unfold popInt Frame.popInt
    rw [onFrame_bind, bind_of_ok (pop_of shape), shown]
    rfl

theorem popReference_iff {address : Nat} {tag : String} : popReference tag a = .ok address b ↔
    ∃ rest, a.frame.stack = .reference address tag :: rest ∧ b = a.withStack rest := by
  constructor
  · intro ran
    have ends : Ends (popReference tag) a _ (fun _ => True) := ends_popReference tag trivial
    exact ends.done ran
  · rintro ⟨rest, shape, rfl⟩
    unfold popReference Frame.popReference
    rw [onFrame_bind, bind_of_ok (pop_of shape)]
    simp only [if_true]
    rfl

theorem popAny_iff {address : Nat} {tag : String} : popAny a = .ok (address, tag) b ↔
    ∃ rest, a.frame.stack = .reference address tag :: rest ∧ b = a.withStack rest := by
  constructor
  · intro ran
    have ends : Ends popAny a _ (fun _ => True) := ends_popAny trivial
    exact ends.done ran
  · rintro ⟨rest, shape, rfl⟩
    unfold popAny Frame.popAny
    rw [onFrame_bind, bind_of_ok (pop_of shape)]
    rfl

end Exec

/-! ### The objects that operands point to -/

namespace Heap

variable {heap : Heap} {address : Nat}

theorem get_ok {object : HeapObject} :
    heap.get address = .ok object ↔ heap.objects[address]? = some object := by
  unfold get
  split
  next found there => simp [there]
  next absent => simp [absent]

/-- Asking for an object of one form. -/
theorem get_as {α : Type} {read : HeapObject → Except Fault α} {make : α → HeapObject} {value : α}
    (reads : ∀ object, read object = .ok value ↔ object = make value) :
    (heap.get address >>= read) = .ok value ↔ heap.objects[address]? = some (make value) := by
  rw [except_bind_ok]
  constructor
  · rintro ⟨object, got, chosen⟩
    rw [← (reads object).1 chosen]
    exact get_ok.1 got
  · intro there
    exact ⟨_, get_ok.2 there, (reads _).2 rfl⟩

theorem string_ok {text : String} :
    heap.string address = .ok text ↔ heap.objects[address]? = some (.str text) := by
  refine get_as fun object => ?_
  cases object with
  | str found => simp [pure, Except.pure]
  | _ => simp [mismatch]

theorem ints_ok {values : Array Int32} :
    heap.ints address = .ok values ↔ heap.objects[address]? = some (.ints values) := by
  refine get_as fun object => ?_
  cases object with
  | ints found => simp [pure, Except.pure]
  | _ => simp [mismatch]

theorem chars_ok {units : Array UInt16} :
    heap.chars address = .ok units ↔ heap.objects[address]? = some (.chars units) := by
  refine get_as fun object => ?_
  cases object with
  | chars found => simp [pure, Except.pure]
  | _ => simp [mismatch]

end Heap

theorem toNat_narrowed (int : Int32) :
    (int.toUInt32.toUInt16.toNat : Int) = int.toInt % 65536 := by
  have low : int.toUInt32.toUInt16.toNat = int.toBitVec.toNat % 65536 := UInt32.toNat_toUInt16 _
  have signed : int.toInt = int.toBitVec.toInt := rfl
  rw [low, signed, BitVec.toInt_eq_toNat_cond]
  split
  · omega
  · omega

end MiniJvm
