import MiniJvm.Descriptor

/-!
Run-time values. Booleans and chars are kept apart from ints, but integer code takes all three.
-/

namespace MiniJvm

/-- A value of the operand stack, of a local variable or of a field. A reference is a heap address
with the tag of the type it was made for. -/
inductive Value where
  | int (value : Int32)
  | boolean (value : Bool)
  | char (unit : UInt16)
  | reference (address : Nat) (tag : String)
  deriving DecidableEq

namespace Value

def intTag : String := "I"

def booleanTag : String := "Z"

def charTag : String := "C"

def intArrayTag : String := "[I"

def charArrayTag : String := "[C"

def stringTag : String := "Ljava/lang/String"

def booleanText (value : Bool) : String :=
  if value then "true" else "false"

def tag : Value → String
  | .int _ => intTag
  | .boolean _ => booleanTag
  | .char _ => charTag
  | .reference _ tag => tag

theorem intArrayTag_eq : intArrayTag = FieldType.tag (.array .int) := rfl

theorem charArrayTag_eq : charArrayTag = FieldType.tag (.array .char) := rfl

theorem stringTag_eq : stringTag = FieldType.objectTag FieldType.stringClass := rfl

/-- The int that integer code sees: booleans are zero or one, chars are widened. -/
def toInt? : Value → Option Int32
  | .int value => some value
  | .boolean value => some (if value then 1 else 0)
  | .char unit => some (Int32.ofNat unit.toNat)
  | .reference .. => none

/-- Whether the value may be kept in a field of this type. Ints fit every type of at most 32 bits that
is no float, because booleans and chars are ints on the operand stack. -/
def conformsTo : Value → FieldType → Bool
  | .int _, type =>
    match type with
    | .int | .short | .byte | .boolean | .char => true
    | _ => false
  | .boolean _, type =>
    match type with
    | .boolean | .int => true
    | _ => false
  | .char _, type =>
    match type with
    | .char | .int => true
    | _ => false
  | .reference _ tag, type => tag == type.tag

/-- What a field holds before it is set. There is no null, so reference fields hold nothing. -/
def default? : FieldType → Option Value
  | .int | .short | .byte => some (.int 0)
  | .boolean => some (.boolean false)
  | .char => some (.char 0)
  | _ => none

end Value

/-- Named values, each name once. -/
abbrev Fields := List (String × Value)

namespace Fields

def get? (fields : Fields) (name : String) : Option Value :=
  fields.lookup name

def set : Fields → String → Value → Fields
  | [], name, value => [(name, value)]
  | (key, old) :: rest, name, value =>
    if key = name then (name, value) :: rest else (key, old) :: set rest name value

theorem get?_set (fields : Fields) (name : String) (value : Value) (key : String) :
    (fields.set name value).get? key = if key = name then some value else fields.get? key := by
  unfold get?
  have unequal {left right : String} (apart : left ≠ right) : (left == right) = false := by simp [apart]
  induction fields with
  | nil =>
    by_cases same : key = name
    · simp [set, same]
    · simp [set, same, List.lookup_cons, unequal same]
  | cons first rest ih =>
    obtain ⟨stored, old⟩ := first
    unfold set
    by_cases here : stored = name
    · subst here
      by_cases same : key = stored
      · simp [same]
      · simp [List.lookup_cons, same, unequal same]
    · rw [if_neg here, List.lookup_cons, List.lookup_cons, ih]
      by_cases found : key = stored
      · subst found
        simp [here]
      · simp [unequal found]

end Fields

end MiniJvm
