import MiniJvm.Concat

/-!
What a recipe stands for, place by place. The mark with number `n` of its kind takes the value with number
`n`, so the text of a filled recipe can be told without walking through it. A recipe is filled exactly when
it has a mark for each operand and a constant for each of the other marks. Otherwise the first mark without
a value says what is missing, and operands are left over only if every mark has its value.
-/

namespace MiniJvm.Concat

/-- What a character at a place of a recipe stands for. A mark stands for the value whose number is that of
the marks of its kind before the place. -/
def piece? (recipe : List Char) (operands constants : List String) (place : Nat) (c : Char) :
    Option String :=
  if c = operandMark then operands[(recipe.take place).count operandMark]?
  else if c = constantMark then constants[(recipe.take place).count constantMark]?
  else some (String.singleton c)

/-- The text of a recipe whose marks all have values. -/
def filled (recipe : List Char) (operands constants : List String) : String :=
  String.join (recipe.mapIdx fun place c => (piece? recipe operands constants place c).getD "")

def Served (recipe : List Char) (operands constants : List String) (place : Nat) : Prop :=
  ∀ c, recipe[place]? = some c → piece? recipe operands constants place c ≠ none

/-- The first mark for which no value is left. -/
structure FirstLacking (recipe : List Char) (operands constants : List String) (mark : Char)
    (place : Nat) : Prop where
  here : recipe[place]? = some mark
  lacks : piece? recipe operands constants place mark = none
  earlier : ∀ other < place, Served recipe operands constants other

/-- Why a recipe cannot be filled. `whole` is the recipe as the message shows it. -/
inductive Refused (whole : String) (recipe : List Char) (operands constants : List String) :
    CallSiteProblem → Prop
  | operands {place : Nat} (first : FirstLacking recipe operands constants operandMark place) :
      Refused whole recipe operands constants (.missingOperands whole)
  | constants {place : Nat} (first : FirstLacking recipe operands constants constantMark place) :
      Refused whole recipe operands constants (.missingConstants whole)
  | unused (served : ∀ place, Served recipe operands constants place)
      (left : recipe.count operandMark < operands.length) :
      Refused whole recipe operands constants (.unusedOperands whole)

/-- The values are enough for all marks, and no operand is left over. -/
structure Suits (recipe : List Char) (operands constants : List String) : Prop where
  operands : recipe.count operandMark = operands.length
  constants : recipe.count constantMark ≤ constants.length

/-! ### One character -/

/-- The values that are left after a character. -/
def remaining (mark c : Char) (values : List String) : List String :=
  if c = mark then values.tail else values

variable {whole : String} {c mark : Char} {chars rest : List Char} {operands constants : List String}
  {place : Nat}

theorem getElem?_remaining (mark c : Char) (values : List String) (i : Nat) :
    (remaining mark c values)[i]? = values[i + if c = mark then 1 else 0]? := by
  unfold remaining
  split
  · exact List.getElem?_tail
  · rfl

theorem piece?_zero (c : Char) :
    piece? (c :: rest) operands constants 0 c =
      if c = operandMark then operands.head?
      else if c = constantMark then constants.head?
      else some (String.singleton c) := by
  simp [piece?, List.head?_eq_getElem?]

theorem piece?_succ (c d : Char) (place : Nat) :
    piece? (c :: rest) operands constants (place + 1) d =
      piece? rest (remaining operandMark c operands) (remaining constantMark c constants) place d := by
  simp [piece?, getElem?_remaining, List.count_cons]

def lacking (whole : String) (mark : Char) : CallSiteProblem :=
  if mark = operandMark then .missingOperands whole else .missingConstants whole

theorem pieces_cons (whole : String) (c : Char) (rest : List Char) (operands constants : List String) :
    pieces whole (c :: rest) operands constants =
      match piece? (c :: rest) operands constants 0 c with
      | some text => (text :: ·) <$>
          pieces whole rest (remaining operandMark c operands) (remaining constantMark c constants)
      | none => .error (.unsupportedCallSite (lacking whole c)) := by
  have apart : constantMark ≠ operandMark := by decide
  rw [piece?_zero, pieces.eq_def]
  dsimp only
  by_cases operand : c = operandMark
  · subst operand
    cases operands with
    | nil => simp [lacking]
    | cons first others => simp [remaining, apart.symm]
  · by_cases constant : c = constantMark
    · subst constant
      cases constants with
      | nil => simp [lacking, apart]
      | cons first others => simp [remaining, apart]
    · simp [remaining, operand, constant]

theorem mark_of_lacks (lacks : piece? chars operands constants place c = none) :
    c = operandMark ∨ c = constantMark := by
  unfold piece? at lacks
  split at lacks
  next operand => exact .inl operand
  next =>
    split at lacks
    next constant => exact .inr constant
    next => cases lacks

theorem count_take_lt (there : chars[place]? = some mark) :
    (chars.take place).count mark < chars.count mark := by
  have upTo : (chars.take (place + 1)).count mark = (chars.take place).count mark + 1 := by
    simp [List.take_add_one, there]
  have whole : (chars.take (place + 1)).count mark ≤ chars.count mark :=
    (List.take_sublist _ _).count_le _
  omega

/-! ### The whole recipe -/

/-- A first character that has its text leaves the places behind it to the rest of the values. -/
theorem served_cons (here : piece? (c :: rest) operands constants 0 c ≠ none)
    (later : ∀ other < place,
      Served rest (remaining operandMark c operands) (remaining constantMark c constants) other) :
    ∀ other < place + 1, Served (c :: rest) operands constants other := by
  intro other inside d there
  cases other with
  | zero =>
    cases there
    exact here
  | succ other =>
    rw [piece?_succ]
    exact later other (Nat.lt_of_succ_lt_succ inside) d there

theorem FirstLacking.cons (here : piece? (c :: rest) operands constants 0 c ≠ none)
    (first : FirstLacking rest (remaining operandMark c operands) (remaining constantMark c constants)
      mark place) : FirstLacking (c :: rest) operands constants mark (place + 1) where
  here := first.here
  lacks := by
    rw [piece?_succ]
    exact first.lacks
  earlier := served_cons here first.earlier

/-- A value that a first character takes is no longer left. -/
theorem length_remaining (here : piece? (c :: rest) operands constants 0 c ≠ none) :
    operands.length = (remaining operandMark c operands).length + (if c = operandMark then 1 else 0) ∧
      constants.length =
        (remaining constantMark c constants).length + (if c = constantMark then 1 else 0) := by
  have apart : operandMark ≠ constantMark := by decide
  rw [piece?_zero] at here
  unfold remaining
  by_cases operand : c = operandMark
  · subst operand
    cases operands with
    | nil => simp at here
    | cons first others => simp [apart]
  · by_cases constant : c = constantMark
    · subst constant
      cases constants with
      | nil => simp [operand] at here
      | cons first others => simp [operand]
    · simp [operand, constant]

theorem Suits.cons (here : piece? (c :: rest) operands constants 0 c ≠ none)
    (suits : Suits rest (remaining operandMark c operands) (remaining constantMark c constants)) :
    Suits (c :: rest) operands constants := by
  obtain ⟨operandsLeft, constantsLeft⟩ := length_remaining here
  constructor
  · simp [List.count_cons, suits.operands, operandsLeft]
  · simp [List.count_cons, suits.constants, constantsLeft]

theorem Refused.cons {problem : CallSiteProblem}
    (here : piece? (c :: rest) operands constants 0 c ≠ none)
    (refused : Refused whole rest (remaining operandMark c operands)
      (remaining constantMark c constants) problem) :
    Refused whole (c :: rest) operands constants problem := by
  cases refused with
  | operands first => exact .operands (first.cons here)
  | constants first => exact .constants (first.cons here)
  | unused served left =>
    refine .unused (fun place => ?_) ?_
    · exact served_cons here (fun other _ => served other) place (Nat.lt_succ_self place)
    · have operandsLeft := (length_remaining here).1
      simp [List.count_cons]
      omega

theorem refused_zero (lacks : piece? (c :: rest) operands constants 0 c = none) :
    Refused whole (c :: rest) operands constants (lacking whole c) := by
  have first : FirstLacking (c :: rest) operands constants c 0 :=
    ⟨rfl, lacks, fun other before => absurd before (Nat.not_lt_zero other)⟩
  rcases mark_of_lacks lacks with rfl | rfl
  · exact .operands first
  · exact .constants first

theorem pieces_spec (whole : String) (chars : List Char) (operands constants : List String) :
    match pieces whole chars operands constants with
    | .ok texts => Suits chars operands constants ∧
        texts = chars.mapIdx fun place c => (piece? chars operands constants place c).getD ""
    | .error fault => ∃ problem, fault = .unsupportedCallSite problem ∧
        Refused whole chars operands constants problem := by
  -- The characters that are left go with the values that are left for them.
  induction chars generalizing operands constants with
  | nil =>
    cases operands with
    | nil => exact ⟨⟨rfl, Nat.zero_le _⟩, rfl⟩
    | cons first others =>
      exact ⟨_, rfl, .unused (fun place c there => by simp at there) (Nat.succ_pos _)⟩
  | cons c rest ih =>
    rw [pieces_cons]
    cases here : piece? (c :: rest) operands constants 0 c with
    | none => exact ⟨_, rfl, refused_zero here⟩
    | some text =>
      have served : piece? (c :: rest) operands constants 0 c ≠ none := by simp [here]
      have spec := ih (remaining operandMark c operands) (remaining constantMark c constants)
      cases read : pieces whole rest (remaining operandMark c operands)
          (remaining constantMark c constants) with
      | error fault =>
        rw [read] at spec
        obtain ⟨problem, rfl, refused⟩ := spec
        exact ⟨problem, rfl, refused.cons served⟩
      | ok texts =>
        rw [read] at spec
        obtain ⟨suits, rfl⟩ := spec
        refine ⟨suits.cons served, ?_⟩
        simp only [List.mapIdx_cons, here, Option.getD_some, piece?_succ]

theorem fill_spec (recipe : String) (operands constants : List String) :
    match fill recipe operands constants with
    | .ok text => Suits recipe.toList operands constants ∧ text = filled recipe.toList operands constants
    | .error fault => ∃ problem, fault = .unsupportedCallSite problem ∧
        Refused recipe recipe.toList operands constants problem := by
  have spec := pieces_spec recipe recipe.toList operands constants
  unfold fill
  cases read : pieces recipe recipe.toList operands constants with
  | ok texts =>
    rw [read] at spec
    exact ⟨spec.1, congrArg String.join spec.2⟩
  | error fault =>
    rw [read] at spec
    exact spec

theorem Suits.served (suits : Suits chars operands constants) (place : Nat) :
    Served chars operands constants place := by
  intro c there lacks
  have fewer := count_take_lt there
  rcases mark_of_lacks lacks with rfl | rfl
  · have exactly := suits.operands
    simp [piece?] at lacks
    omega
  · have apart : constantMark ≠ operandMark := by decide
    have enough := suits.constants
    simp [piece?, apart] at lacks
    omega

theorem FirstLacking.not_suits (first : FirstLacking chars operands constants mark place) :
    ¬ Suits chars operands constants :=
  fun suits => suits.served place mark first.here first.lacks

theorem Refused.not_suits {problem : CallSiteProblem}
    (refused : Refused whole chars operands constants problem) :
    ¬ Suits chars operands constants := by
  intro suits
  cases refused with
  | operands first => exact first.not_suits suits
  | constants first => exact first.not_suits suits
  | unused _ left => exact absurd suits.operands (Nat.ne_of_lt left)

theorem FirstLacking.unique {other : Char} {there : Nat}
    (first : FirstLacking chars operands constants mark place)
    (also : FirstLacking chars operands constants other there) : mark = other := by
  rcases Nat.lt_trichotomy place there with before | rfl | behind
  · exact absurd first.lacks (also.earlier place before mark first.here)
  · exact Option.some.inj (first.here.symm.trans also.here)
  · exact absurd also.lacks (first.earlier there behind other also.here)

theorem Refused.unique {problem other : CallSiteProblem}
    (refused : Refused whole chars operands constants problem)
    (also : Refused whole chars operands constants other) : problem = other := by
  have apart : operandMark ≠ constantMark := by decide
  cases refused with
  | operands first =>
    cases also with
    | operands _ => rfl
    | constants second => exact absurd (first.unique second) apart
    | unused served _ => exact absurd first.lacks (served _ _ first.here)
  | constants first =>
    cases also with
    | operands second => exact absurd (second.unique first) apart
    | constants _ => rfl
    | unused served _ => exact absurd first.lacks (served _ _ first.here)
  | unused served _ =>
    cases also with
    | operands first => exact absurd first.lacks (served _ _ first.here)
    | constants first => exact absurd first.lacks (served _ _ first.here)
    | unused _ _ => rfl

/-- A recipe is filled exactly when it has as many operand marks as there are operands and no more constant
marks than there are constants. The text is then what its characters stand for, one after the other: the
next value for a mark, whatever the text of that value, and the character itself otherwise. In all other
cases filling it fails for the one reason that holds: the first mark without a value decides which kind is
missing, and operands are left over only if every mark has its value. -/
theorem recipe_filled_exactly (recipe : String) (operands constants : List String) :
    (∀ text, fill recipe operands constants = .ok text ↔
      recipe.toList.count operandMark = operands.length ∧
        recipe.toList.count constantMark ≤ constants.length ∧
        text = filled recipe.toList operands constants) ∧
    ∀ fault, fill recipe operands constants = .error fault ↔
      ∃ problem, fault = .unsupportedCallSite problem ∧
        Refused recipe recipe.toList operands constants problem := by
  have spec := fill_spec recipe operands constants
  cases read : fill recipe operands constants with
  | ok found =>
    rw [read] at spec
    obtain ⟨suits, rfl⟩ := spec
    constructor
    · intro text
      constructor
      · intro done
        cases done
        exact ⟨suits.operands, suits.constants, rfl⟩
      · rintro ⟨_, _, rfl⟩
        rfl
    · intro fault
      constructor
      · intro failed
        cases failed
      · rintro ⟨_, _, refused⟩
        exact absurd suits refused.not_suits
  | error found =>
    rw [read] at spec
    obtain ⟨problem, rfl, refused⟩ := spec
    constructor
    · intro text
      constructor
      · intro done
        cases done
      · rintro ⟨sameCount, enough, _⟩
        exact absurd ⟨sameCount, enough⟩ refused.not_suits
    · intro fault
      constructor
      · intro failed
        cases failed
        exact ⟨problem, rfl, refused⟩
      · rintro ⟨other, rfl, also⟩
        rw [refused.unique also]

example : (fill "x=\u0001, \u0002\u0001" ["1", "\u0002"] ["a", "b"]).toOption =
    some "x=1, a\u0002" := by
  decide +kernel

end MiniJvm.Concat
