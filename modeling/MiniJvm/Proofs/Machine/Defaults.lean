import MiniJvm.Machine.Preparation
import MiniJvm.Proofs.Descriptor.Grammar

/-!
What fields hold before a program sets them, told name by name. The descriptor of a field decides whether it
holds anything at first: zero, false or the char zero if its type is primitive and of at most 32 bits and no
float, and nothing otherwise. Of several fields of a name the last one that holds anything counts.
-/

namespace MiniJvm

open Effect

/-- The value of a field that has not been set, by the descriptor of the field. -/
def Value.initial? (descriptor : String) : Option Value :=
  match descriptor with
  | "I" | "S" | "B" => some (.int 0)
  | "Z" => some (.boolean false)
  | "C" => some (.char 0)
  | _ => none

/-- What a field gives to a name, if it is one of the static fields or one of the others, as asked. -/
def Member.preset? (static : Bool) (name : String) (member : Member) : Option Value :=
  if member.isStatic = static ∧ member.name = name then Value.initial? member.descriptor else none

/-- What the static fields of a class hold at first, or the fields of its objects. -/
def ClassFile.preset? (classFile : ClassFile) (static : Bool) (name : String) : Option Value :=
  classFile.fields.reverse.findSome? (Member.preset? static name)

theorem Value.initial?_eq_none {descriptor : String} (first : Char) (rest : List Char)
    (lead : descriptor.toList = first :: rest) (other : first ∉ ['I', 'S', 'B', 'Z', 'C']) :
    initial? descriptor = none := by
  unfold initial?
  split
  case h_6 => rfl
  all_goals
    cases lead
    exact absurd other (by decide)

theorem Value.initial?_text (type : FieldType) : initial? type.text = default? type := by
  cases type with
  | object name => exact initial?_eq_none 'L' (name.toList ++ [';']) (by simp [FieldType.text]) (by decide)
  | array element => exact initial?_eq_none '[' element.text.toList (by simp [FieldType.text]) (by decide)
  | _ => rfl

example : ["S", "Z", "C", "J", "[I"].map Value.initial? =
    [some (.int 0), some (.boolean false), some (.char 0), none, none] := by decide

theorem Value.default?_of_fieldType {member : Member} {type : FieldType}
    (typed : member.fieldType = .ok type) : default? type = initial? member.descriptor := by
  rw [(FieldType.parse_eq_ok.1 typed).1, initial?_text]

theorem ClassFile.preset?_some {classFile : ClassFile} {static : Bool} {name : String} {value : Value}
    (held : classFile.preset? static name = some value) :
    ∃ member ∈ classFile.fields, member.isStatic = static ∧ member.name = name ∧
      Value.initial? member.descriptor = some value := by
  obtain ⟨member, listed, gives⟩ := List.exists_of_findSome?_eq_some held
  unfold Member.preset? at gives
  split at gives
  next chosen => exact ⟨member, List.mem_reverse.1 listed, chosen.1, chosen.2, gives⟩
  next => cases gives

theorem ClassFile.preset?_ne_none {classFile : ClassFile} {member : Member}
    (listed : member ∈ classFile.fields) (initial : Value.initial? member.descriptor ≠ none) :
    classFile.preset? member.isStatic member.name ≠ none := by
  intro missing
  have nothing := List.findSome?_eq_none_iff.1 missing member (List.mem_reverse.2 listed)
  unfold Member.preset? at nothing
  rw [if_pos ⟨rfl, rfl⟩] at nothing
  exact initial nothing

namespace Exec

theorem foldlM_defaults {static : Bool} {members : List Member} {start fields : Fields}
    (made : (members.filter (·.isStatic == static)).foldlM
      (fun values member => do
        match Value.default? (← member.fieldType) with
        | some value => return values.set member.name value
        | none => return values) start = .ok fields) :
    (∀ member ∈ members, member.isStatic = static → ∃ type, member.fieldType = .ok type) ∧
      ∀ name, fields.get? name =
        (members.reverse.findSome? (Member.preset? static name)).or (start.get? name) := by
  -- `start` holds what the fields in front have set, so it has to be general.
  induction members generalizing start with
  | nil =>
    cases made
    exact ⟨nofun, fun _ => rfl⟩
  | cons member others ih =>
    by_cases kind : member.isStatic = static
    · have chosen : (member.isStatic == static) = true := beq_iff_eq.2 kind
      rw [List.filter_cons, if_pos chosen, List.foldlM_cons] at made
      obtain ⟨next, first, rest⟩ := except_bind_ok.1 made
      obtain ⟨type, typed, sets⟩ := except_bind_ok.1 first
      obtain ⟨allTyped, held⟩ := ih rest
      refine ⟨List.forall_mem_cons.2 ⟨fun _ => ⟨type, typed⟩, allTyped⟩, fun name => ?_⟩
      rw [held, List.reverse_cons, List.findSome?_append, Option.or_assoc]
      refine congrArg (Option.or _) ?_
      rw [List.findSome?_singleton]
      unfold Member.preset?
      rw [← Value.default?_of_fieldType typed]
      cases default : Value.default? type with
      | none =>
        rw [default] at sets
        cases sets
        simp
      | some value =>
        rw [default] at sets
        cases sets
        rw [Fields.get?_set]
        by_cases same : member.name = name
        · simp [kind, same]
        · simp [same, Ne.symm same]
    · rw [List.filter_cons_of_neg (by simpa using kind)] at made
      obtain ⟨allTyped, held⟩ := ih made
      refine ⟨List.forall_mem_cons.2 ⟨fun same => absurd same kind, allTyped⟩, fun name => ?_⟩
      rw [held, List.reverse_cons, List.findSome?_append]
      simp [Member.preset?, kind]

/-- The defaults of a class are the values that its declarations give name by name, and they are made only if
all the declarations can be read. -/
theorem defaultFields_ok {classFile : ClassFile} {static : Bool} {fields : Fields}
    (made : defaultFields static classFile.fields = .ok fields) :
    (∀ member ∈ classFile.fields, member.isStatic = static → ∃ type, member.fieldType = .ok type) ∧
      ∀ name, fields.get? name = classFile.preset? static name := by
  obtain ⟨typed, held⟩ := foldlM_defaults made
  refine ⟨typed, fun name => ?_⟩
  rw [held]
  exact Option.or_none

end Exec

end MiniJvm
