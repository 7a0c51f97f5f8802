import MiniJvm.Fault

/-!
Field types and method types, their descriptors and the tags that run-time references carry.

A descriptor is a letter for a primitive type, `L` name `;` for an object type and `[` before the
descriptor of the elements for an array type. A tag is the same text without the semicolon.
-/

namespace MiniJvm

inductive FieldType where
  | byte | char | double | float | int | long | short | boolean
  | object (name : String)
  | array (element : FieldType)
  deriving DecidableEq

namespace FieldType

/-- Arrays nest at most this deep. -/
def maxDimensions : Nat := 255

def stringClass : String := "java/lang/String"

def objectTag (className : String) : String := "L" ++ className

/-- The tag of run-time values of this type. -/
def tag : FieldType → String
  | .byte => "B"
  | .char => "C"
  | .double => "D"
  | .float => "F"
  | .int => "I"
  | .long => "J"
  | .short => "S"
  | .boolean => "Z"
  | .object name => objectTag name
  | .array element => "[" ++ element.tag

def text : FieldType → String
  | .object name => "L" ++ name ++ ";"
  | .array element => "[" ++ element.text
  | primitive => primitive.tag

def isString : FieldType → Bool
  | .object name => name == stringClass
  | _ => false

def nested : Nat → FieldType → FieldType
  | 0, element => element
  | dimensions + 1, element => .array (nested dimensions element)

def scalar? : List Char → Option (FieldType × List Char)
  | 'B' :: rest => some (.byte, rest)
  | 'C' :: rest => some (.char, rest)
  | 'D' :: rest => some (.double, rest)
  | 'F' :: rest => some (.float, rest)
  | 'I' :: rest => some (.int, rest)
  | 'J' :: rest => some (.long, rest)
  | 'S' :: rest => some (.short, rest)
  | 'Z' :: rest => some (.boolean, rest)
  | 'L' :: rest =>
    let name := rest.takeWhile (· != ';')
    match rest.dropWhile (· != ';') with
    | _ :: after => if name.isEmpty then none else some (.object (String.ofList name), after)
    | [] => none
  | _ => none

def take? (chars : List Char) : Option (FieldType × List Char) :=
  let dimensions := (chars.takeWhile (· == '[')).length
  if maxDimensions < dimensions then none
  else
    match scalar? (chars.dropWhile (· == '[')) with
    | some (element, rest) => some (nested dimensions element, rest)
    | none => none

theorem scalar?_shorter {chars rest : List Char} {type : FieldType}
    (taken : scalar? chars = some (type, rest)) : rest.length < chars.length := by
  unfold scalar? at taken
  split at taken
  case h_9 after =>
    have bound : (after.dropWhile (· != ';')).length ≤ after.length :=
      (List.dropWhile_suffix _).length_le
    split at taken
    case h_1 head tail shape =>
      rw [shape] at bound
      simp only at taken
      split at taken
      · cases taken
      · cases taken
        simp only [List.length_cons] at bound ⊢
        omega
    case h_2 => cases taken
  case h_10 => cases taken
  all_goals
    cases taken
    simp

theorem take?_shorter {chars rest : List Char} {type : FieldType}
    (taken : take? chars = some (type, rest)) : rest.length < chars.length := by
  unfold take? at taken
  simp only at taken
  split at taken
  · cases taken
  · split at taken
    case h_1 element after scanned =>
      cases taken
      exact Nat.lt_of_lt_of_le (scalar?_shorter scanned) (List.dropWhile_suffix _).length_le
    case h_2 => cases taken

/-- Reads a field descriptor, which must be one type and nothing else. -/
def parse (descriptor : String) : Except Fault FieldType :=
  match take? descriptor.toList with
  | some (type, []) => .ok type
  | _ => .error (.malformedDescriptor descriptor)

end FieldType

/-- The type of a method. No return type means that it returns no value. -/
structure MethodType where
  parameters : List FieldType
  returns : Option FieldType
  deriving DecidableEq

namespace MethodType

def text (type : MethodType) : String :=
  "(" ++ String.join (type.parameters.map FieldType.text) ++ ")" ++
    (match type.returns with
      | none => "V"
      | some returned => returned.text)

def parameters? : List Char → Option (List FieldType × List Char)
  | [] => none
  | c :: tail =>
    if c = ')' then some ([], tail)
    else
      match _taken : FieldType.take? (c :: tail) with
      | none => none
      | some (first, rest) =>
        match parameters? rest with
        | none => none
        | some (others, after) => some (first :: others, after)
termination_by chars => chars.length
decreasing_by exact FieldType.take?_shorter _taken

def returns? : List Char → Option (Option FieldType)
  | ['V'] => some none
  | chars =>
    match FieldType.take? chars with
    | some (type, []) => some (some type)
    | _ => none

def ofChars? : List Char → Option MethodType
  | '(' :: rest => do
    let (parameters, after) ← parameters? rest
    let returned ← returns? after
    return ⟨parameters, returned⟩
  | _ => none

def parse (descriptor : String) : Except Fault MethodType :=
  match ofChars? descriptor.toList with
  | some type => .ok type
  | none => .error (.malformedDescriptor descriptor)

end MethodType

end MiniJvm
