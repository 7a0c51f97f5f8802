import MiniJvm.Descriptor

/-!
The grammar of descriptors. Descriptors are read by exactly the rules by which types are written: a text
is accepted if and only if it is the descriptor of a type, and then the type is given back. There is one
type for each accepted text, so the tag of the type is the text without the semicolon at its end.
-/

namespace MiniJvm

namespace FieldType

def dimensions : FieldType → Nat
  | .array element => element.dimensions + 1
  | _ => 0

def className? : FieldType → Option String
  | .object name => some name
  | .array element => element.className?
  | _ => none

/-- A class has a name of at least one character, and the name has no semicolon. -/
def Named (type : FieldType) : Prop :=
  ∀ name, type.className? = some name → name ≠ "" ∧ ';' ∉ name.toList

/-- The types that have a descriptor. -/
structure Describable (type : FieldType) : Prop where
  shallow : type.dimensions ≤ 255
  named : type.Named

variable {chars rest : List Char} {type element : FieldType}

/-! ### Types that are no arrays -/

theorem divided_iff {name after : List Char} :
    chars.takeWhile (· != ';') = name ∧ chars.dropWhile (· != ';') = ';' :: after ↔
      chars = name ++ ';' :: after ∧ ';' ∉ name := by
  constructor
  · intro divided
    have whole := List.takeWhile_append_dropWhile (p := (· != ';')) (l := chars)
    rw [divided.1, divided.2] at whole
    refine ⟨whole.symm, fun inside => ?_⟩
    have passed := List.all_takeWhile (p := (· != ';')) (l := chars)
    rw [divided.1, List.all_eq_true] at passed
    simpa using passed ';' inside
  · intro joined
    have plain : ∀ c ∈ name, (c != ';') = true := by
      intro c inside
      simpa using ne_of_mem_of_not_mem inside joined.2
    rw [joined.1, List.takeWhile_append_of_pos plain, List.dropWhile_append_of_pos plain]
    simp

theorem dropWhile_cons {head : Char} {after : List Char}
    (left : chars.dropWhile (· != ';') = head :: after) : head = ';' := by
  have first := List.head?_dropWhile_not (· != ';') chars
  simpa [left] using first

theorem scalar?_object (name : List Char) (rest : List Char) (plain : ';' ∉ name) :
    scalar? ('L' :: (name ++ ';' :: rest)) =
      if name.isEmpty then none else some (.object (String.ofList name), rest) := by
  have divided : (name ++ ';' :: rest).takeWhile (· != ';') = name ∧
      (name ++ ';' :: rest).dropWhile (· != ';') = ';' :: rest := divided_iff.2 ⟨rfl, plain⟩
  simp only [scalar?, divided.1, divided.2]

theorem scalar?_sound (taken : scalar? chars = some (type, rest)) :
    (type.dimensions = 0 ∧ type.Named) ∧ chars = type.text.toList ++ rest := by
  unfold scalar? at taken
  split at taken
  case h_9 after =>
    dsimp only at taken
    split at taken
    next head tail left =>
      cases dropWhile_cons left
      obtain ⟨joined, plain⟩ := divided_iff.1 ⟨rfl, left⟩
      generalize after.takeWhile (· != ';') = name at *
      split at taken
      next => cases taken
      next filled =>
        cases taken
        refine ⟨⟨rfl, fun found same => ?_⟩, by simp [text, joined]⟩
        cases same
        refine ⟨fun empty => filled ?_, by simpa using plain⟩
        have letters := congrArg String.toList empty
        simpa using letters
    next => cases taken
  case h_10 => cases taken
  all_goals
    cases taken
    exact ⟨⟨rfl, fun _ same => (nomatch same)⟩, by simp [text, tag]⟩

theorem scalar?_complete (flat : type.dimensions = 0) (named : type.Named) (rest : List Char) :
    scalar? (type.text.toList ++ rest) = some (type, rest) := by
  cases type with
  | array element => cases flat
  | object name =>
    obtain ⟨filled, plain⟩ := named name rfl
    have shape : (text (.object name)).toList ++ rest = 'L' :: (name.toList ++ ';' :: rest) := by
      simp [text]
    have nonempty : name.toList.isEmpty = false := by simpa using filled
    rw [shape, scalar?_object _ _ plain, nonempty]
    simp
  | _ => simp [text, tag, scalar?]

/-! ### Arrays -/

theorem text_nested (count : Nat) (element : FieldType) :
    (nested count element).text.toList = List.replicate count '[' ++ element.text.toList := by
  induction count with
  | zero => rfl
  | succ count ih => simp [nested, text, ih, List.replicate_succ]

theorem dimensions_nested (count : Nat) (element : FieldType) :
    (nested count element).dimensions = count + element.dimensions := by
  induction count with
  | zero => simp [nested]
  | succ count ih =>
    simp only [nested, dimensions, ih]
    omega

theorem className?_nested (count : Nat) (element : FieldType) :
    (nested count element).className? = element.className? := by
  induction count with
  | zero => rfl
  | succ count ih => exact ih

/-- Every type is an array of some dimensions, maybe none, over a type that is no array. -/
theorem exists_nested (type : FieldType) :
    ∃ element, element.dimensions = 0 ∧ type = nested type.dimensions element := by
  induction type with
  | array element ih =>
    obtain ⟨inner, flat, same⟩ := ih
    exact ⟨inner, flat, congrArg FieldType.array same⟩
  | _ => exact ⟨_, rfl, rfl⟩

/-- The characters that descriptors start with. -/
def isLead (c : Char) : Bool := "BCDFIJSZL[".toList.contains c

theorem text_lead (type : FieldType) :
    ∃ c tail, type.text.toList = c :: tail ∧ isLead c = true ∧ (type.dimensions = 0 → c ≠ '[') := by
  cases type with
  | object name => exact ⟨'L', name.toList ++ [';'], by simp [text], rfl, fun _ => by decide⟩
  | array element => exact ⟨'[', element.text.toList, by simp [text], rfl, fun flat => nomatch flat⟩
  | _ => exact ⟨_, [], rfl, rfl, fun _ => by decide⟩

theorem take?_sound (taken : take? chars = some (type, rest)) :
    type.Describable ∧ chars = type.text.toList ++ rest := by
  unfold take? at taken
  dsimp only at taken
  split at taken
  next => cases taken
  next few =>
    split at taken
    next element after scanned =>
      cases taken
      obtain ⟨⟨flat, named⟩, left⟩ := scalar?_sound scanned
      have brackets : chars.takeWhile (· == '[') =
          List.replicate (chars.takeWhile (· == '[')).length '[' := by
        refine List.eq_replicate_iff.2 ⟨rfl, fun c inside => ?_⟩
        have passed := List.all_takeWhile (p := (· == '[')) (l := chars)
        exact beq_iff_eq.1 (List.all_eq_true.1 passed c inside)
      refine ⟨⟨?_, fun name same => named name ?_⟩, ?_⟩
      · rw [dimensions_nested, flat]
        unfold maxDimensions at few
        omega
      · rw [className?_nested] at same
        exact same
      · rw [text_nested, List.append_assoc, ← left, ← brackets, List.takeWhile_append_dropWhile]
    next => cases taken

theorem take?_complete (describable : type.Describable) (rest : List Char) :
    take? (type.text.toList ++ rest) = some (type, rest) := by
  obtain ⟨shallow, named⟩ := describable
  obtain ⟨element, flat, same⟩ := exists_nested type
  generalize type.dimensions = count at shallow same
  subst same
  obtain ⟨c, tail, leads, _, scalar⟩ := text_lead element
  have other : (c == '[') = false := by simpa using scalar flat
  have brackets : ∀ b ∈ List.replicate count '[', (b == '[') = true := by
    intro b inside
    simp [List.eq_of_mem_replicate inside]
  have front : ((nested count element).text.toList ++ rest).takeWhile (· == '[') =
      List.replicate count '[' := by
    rw [text_nested, List.append_assoc, List.takeWhile_append_of_pos brackets, leads]
    simp [other]
  have back : ((nested count element).text.toList ++ rest).dropWhile (· == '[') =
      element.text.toList ++ rest := by
    rw [text_nested, List.append_assoc, List.dropWhile_append_of_pos brackets, leads]
    simp [other]
  have namedElement : element.Named := by
    intro name found
    exact named name ((className?_nested count element).trans found)
  have few : ¬ maxDimensions < count := Nat.not_lt.2 shallow
  unfold take?
  simp only [front, back, List.length_replicate, if_neg few, scalar?_complete flat namedElement]

/-- A type is taken from the front of a text exactly when its descriptor stands there. -/
theorem take?_eq_some :
    take? chars = some (type, rest) ↔ type.Describable ∧ chars = type.text.toList ++ rest := by
  constructor
  · exact take?_sound
  · intro described
    rw [described.2]
    exact take?_complete described.1 rest

theorem parse_eq_ok {descriptor : String} :
    parse descriptor = .ok type ↔ descriptor = type.text ∧ type.Describable := by
  have whole : parse descriptor = .ok type ↔ take? descriptor.toList = some (type, []) := by
    unfold parse
    split
    next found taken => simp [taken]
    next other =>
      constructor
      · intro read
        cases read
      · intro taken
        exact absurd taken (other type)
  rw [whole, take?_eq_some, List.append_nil, String.toList_inj]
  exact and_comm

theorem parse_eq_error {descriptor : String} {fault : Fault} (refused : parse descriptor = .error fault) :
    fault = .malformedDescriptor descriptor := by
  unfold parse at refused
  split at refused
  next => cases refused
  next => cases refused; rfl

/-! ### Tags -/

/-- The tag of a type that is made from a class lacks the semicolon, and no other descriptor ends with
one. -/
theorem text_eq_tag (type : FieldType) :
    type.text.toList = type.tag.toList ++ (if type.className?.isSome then [';'] else []) ∧
      (type.text.toList.getLast? = some ';' ↔ type.className?.isSome) := by
  induction type with
  | object name =>
    have shape : (text (.object name)).toList = (tag (.object name)).toList ++ [';'] := by
      simp [text, tag, objectTag]
    exact ⟨shape, by rw [shape, List.getLast?_concat]; simp [className?]⟩
  | array element ih =>
    obtain ⟨c, tail, leads, _⟩ := text_lead element
    have shape : (text (.array element)).toList = '[' :: element.text.toList := by simp [text]
    have shapeTag : (tag (.array element)).toList = '[' :: element.tag.toList := by simp [tag]
    have last : (text (.array element)).toList.getLast? = element.text.toList.getLast? := by
      rw [shape, leads, List.getLast?_cons_cons]
    refine ⟨?_, by rw [last]; exact ih.2⟩
    rw [shape, shapeTag, ih.1]
    rfl
  | _ => exact ⟨rfl, by decide⟩

theorem tag_of_text (type : FieldType) :
    type.tag.toList = if type.text.toList.getLast? = some ';' then type.text.toList.dropLast
      else type.text.toList := by
  obtain ⟨shape, ends⟩ := text_eq_tag type
  by_cases made : type.className?.isSome
  · rw [if_pos (ends.2 made), shape, if_pos made, List.dropLast_concat]
  · rw [if_neg (fun last => made (ends.1 last)), shape, if_neg made, List.append_nil]

end FieldType

namespace MethodType

open FieldType

def Describable (type : MethodType) : Prop :=
  ∀ part ∈ type.parameters ++ type.returns.toList, part.Describable

variable {chars after : List Char} {types : List FieldType}

/-- The closing parenthesis ends the parameters, because no type starts with it. -/
theorem parameters?_text {first : FieldType} (describable : first.Describable) (rest : List Char) :
    parameters? (first.text.toList ++ rest) =
      match parameters? rest with
      | none => none
      | some (others, after) => some (first :: others, after) := by
  obtain ⟨c, tail, leads, lead, _⟩ := text_lead first
  have taken := take?_complete describable rest
  rw [leads, List.cons_append] at taken ⊢
  have other : c ≠ ')' := by
    intro closes
    rw [closes] at lead
    exact absurd lead (by decide)
  rw [parameters?, if_neg other]
  split
  next untaken => simp [untaken] at taken
  next found left found' =>
    cases found'.symm.trans taken
    rfl

theorem parameters?_sound (read : parameters? chars = some (types, after)) :
    (∀ type ∈ types, type.Describable) ∧ chars = types.flatMap (·.text.toList) ++ ')' :: after := by
  induction chars using parameters?.induct generalizing types with
  | case1 => simp [parameters?] at read
  | case2 tail =>
    simp only [parameters?, if_true, Option.some.injEq, Prod.mk.injEq] at read
    obtain ⟨rfl, rfl⟩ := read
    simp
  | case3 c tail other untaken =>
    rw [parameters?, if_neg other] at read
    split at read
    next => cases read
    next found => simp [untaken] at found
  | case4 c tail other first rest taken unread _ =>
    rw [(take?_sound taken).2, parameters?_text (take?_sound taken).1, unread] at read
    cases read
  | case5 c tail other first rest taken others last readRest ih =>
    obtain ⟨describable, shape⟩ := take?_sound taken
    rw [shape, parameters?_text describable, readRest] at read
    cases read
    obtain ⟨describableOthers, shapeRest⟩ := ih readRest
    refine ⟨List.forall_mem_cons.2 ⟨describable, describableOthers⟩, ?_⟩
    rw [shape, shapeRest, List.flatMap_cons, List.append_assoc]

theorem parameters?_complete (describable : ∀ type ∈ types, type.Describable) (after : List Char) :
    parameters? (types.flatMap (·.text.toList) ++ ')' :: after) = some (types, after) := by
  induction types with
  | nil => simp [parameters?]
  | cons first others ih =>
    obtain ⟨describableFirst, describableOthers⟩ := List.forall_mem_cons.1 describable
    rw [List.flatMap_cons, List.append_assoc, parameters?_text describableFirst, ih describableOthers]

def returnText : Option FieldType → List Char
  | none => ['V']
  | some returned => returned.text.toList

/-- No type starts with the letter for no value. -/
theorem returns?_eq_some {returned : Option FieldType} :
    returns? chars = some returned ↔
      (∀ type ∈ returned.toList, type.Describable) ∧ chars = returnText returned := by
  have noType (type : FieldType) : type.text.toList ≠ ['V'] := by
    obtain ⟨c, tail, leads, lead, _⟩ := text_lead type
    intro same
    rw [leads] at same
    cases same
    exact absurd lead (by decide)
  unfold returns?
  split
  next =>
    cases returned with
    | none => simp [returnText]
    | some type => simpa [returnText] using fun _ => (noType type).symm
  next other =>
    cases returned with
    | none =>
      refine ⟨fun read => ?_, fun written => absurd written.2 other⟩
      split at read <;> cases read
    | some type =>
      have taken : take? chars = some (type, []) ↔ type.Describable ∧ chars = type.text.toList := by
        rw [take?_eq_some, List.append_nil]
      simp only [returnText, Option.toList_some, List.forall_mem_singleton, ← taken]
      constructor
      · intro read
        split at read
        next found found' => cases read; exact found'
        next => cases read
      · intro found
        rw [found]

theorem text_toList (type : MethodType) :
    type.text.toList =
      '(' :: (type.parameters.flatMap (·.text.toList) ++ ')' :: returnText type.returns) := by
  obtain ⟨parameters, returned⟩ := type
  cases returned with
  | none => simp [text, returnText, String.toList_join, List.flatMap_map]
  | some type => simp [text, returnText, String.toList_join, List.flatMap_map]

theorem ofChars?_eq_some {type : MethodType} :
    ofChars? chars = some type ↔ type.Describable ∧ chars = type.text.toList := by
  rw [text_toList]
  constructor
  · intro read
    unfold ofChars? at read
    split at read
    next rest =>
      obtain ⟨⟨parameters, after⟩, readParameters, read⟩ := Option.bind_eq_some_iff.1 read
      obtain ⟨returned, readReturned, made⟩ := Option.bind_eq_some_iff.1 read
      cases made
      obtain ⟨describable, shape⟩ := parameters?_sound readParameters
      obtain ⟨describableReturned, shapeReturned⟩ := returns?_eq_some.1 readReturned
      refine ⟨List.forall_mem_append.2 ⟨describable, describableReturned⟩, ?_⟩
      rw [shape, shapeReturned]
    next => cases read
  · intro written
    obtain ⟨describable, describableReturned⟩ := List.forall_mem_append.1 written.1
    have readReturned := returns?_eq_some.2 ⟨describableReturned, rfl⟩
    rw [written.2]
    simp only [ofChars?, parameters?_complete describable, readReturned, Option.bind_eq_bind,
      Option.bind_some]
    rfl

theorem parse_eq_ok {descriptor : String} {type : MethodType} :
    parse descriptor = .ok type ↔ descriptor = type.text ∧ type.Describable := by
  have whole : parse descriptor = .ok type ↔ ofChars? descriptor.toList = some type := by
    unfold parse
    split
    next found read => simp [read]
    next unread => simp [unread]
  rw [whole, ofChars?_eq_some, String.toList_inj]
  exact and_comm

theorem parse_eq_error {descriptor : String} {fault : Fault} (refused : parse descriptor = .error fault) :
    fault = .malformedDescriptor descriptor := by
  unfold parse at refused
  split at refused
  next => cases refused
  next => cases refused; rfl

end MethodType

/-- The descriptors of field types and of method types are read from what is written for them and from
nothing else; every other text is refused as it stands. The tag of a type that has been read is its
descriptor without the semicolon at the end. -/
theorem descriptors_read_exactly :
    (∀ descriptor type, FieldType.parse descriptor = .ok type ↔
      descriptor = type.text ∧ type.Describable) ∧
    (∀ descriptor type, MethodType.parse descriptor = .ok type ↔
      descriptor = type.text ∧ type.Describable) ∧
    (∀ descriptor, (∀ type : FieldType, type.Describable → descriptor ≠ type.text) →
      FieldType.parse descriptor = .error (.malformedDescriptor descriptor)) ∧
    (∀ descriptor, (∀ type : MethodType, type.Describable → descriptor ≠ type.text) →
      MethodType.parse descriptor = .error (.malformedDescriptor descriptor)) ∧
    ∀ descriptor type, FieldType.parse descriptor = .ok type →
      type.tag.toList = if descriptor.toList.getLast? = some ';' then descriptor.toList.dropLast
        else descriptor.toList := by
  refine ⟨fun _ _ => FieldType.parse_eq_ok, fun _ _ => MethodType.parse_eq_ok, ?_, ?_, ?_⟩
  · intro descriptor other
    cases read : FieldType.parse descriptor with
    | ok type =>
      obtain ⟨same, describable⟩ := FieldType.parse_eq_ok.1 read
      exact absurd same (other type describable)
    | error fault => rw [FieldType.parse_eq_error read]
  · intro descriptor other
    cases read : MethodType.parse descriptor with
    | ok type =>
      obtain ⟨same, describable⟩ := MethodType.parse_eq_ok.1 read
      exact absurd same (other type describable)
    | error fault => rw [MethodType.parse_eq_error read]
  · intro descriptor type read
    rw [(FieldType.parse_eq_ok.1 read).1]
    exact FieldType.tag_of_text type

/-- A class may be named by characters that have a meaning elsewhere in a descriptor. -/
def oddType : FieldType := .array (.array (.object "V)[(I"))

theorem odd_descriptors_read :
    FieldType.parse "[[LV)[(I;" = .ok oddType ∧ oddType.tag.toList = "[[LV)[(I".toList ∧
      MethodType.parse "(I[[LV)[(I;)V" = .ok ⟨[.int, oddType], none⟩ ∧
      FieldType.parse "" = .error (.malformedDescriptor "") ∧
      MethodType.parse "I)V" = .error (.malformedDescriptor "I)V") := by
  have describable : oddType.Describable := by
    refine ⟨by decide, fun name same => ?_⟩
    cases same
    exact ⟨by decide, by decide⟩
  have describableInt : FieldType.int.Describable := ⟨by decide, fun _ same => nomatch same⟩
  have describableBoth : MethodType.Describable ⟨[.int, oddType], none⟩ :=
    List.forall_mem_cons.2 ⟨describableInt, List.forall_mem_singleton.2 describable⟩
  have empty (type : FieldType) (_ : type.Describable) : "" ≠ type.text := by
    obtain ⟨c, tail, leads, _⟩ := FieldType.text_lead type
    intro same
    rw [← same] at leads
    cases leads
  have unopened (type : MethodType) (_ : type.Describable) : "I)V" ≠ type.text := by
    intro same
    have letters := MethodType.text_toList type
    rw [← same] at letters
    cases letters
  obtain ⟨fields, methods, refusedField, refusedMethod, tags⟩ := descriptors_read_exactly
  have read : FieldType.parse "[[LV)[(I;" = .ok oddType := (fields _ _).2 ⟨by decide, describable⟩
  refine ⟨read, ?_, (methods _ _).2 ⟨by decide, describableBoth⟩, refusedField _ empty,
    refusedMethod _ unopened⟩
  rw [tags _ _ read]
  decide

end MiniJvm
