import Mathlib.Data.List.Basic
import MiniJvm.Path

/-!
Paths by their components. A slash puts the components of what stands in front of it before those of what
stands behind it, so that a path below a base names what the base names and then goes on. Components that
name no directory of their own can be left out: two texts that differ in nothing else are one path.
-/

namespace MiniJvm.Path

/-! ### Cutting at slashes -/

theorem split_ne_nil (chars : List Char) : split chars ≠ [] := by
  cases chars with
  | nil => simp [split]
  | cons c rest =>
    unfold split
    split
    · simp
    · split
      · simp
      · simp

theorem split_slash (front back : List Char) :
    split (front ++ '/' :: back) = split front ++ split back := by
  induction front with
  | nil => rfl
  | cons c front ih =>
    rw [List.cons_append, split, split]
    by_cases slash : c = '/'
    · rw [if_pos slash, if_pos slash, ih, List.cons_append]
    · rw [if_neg slash, if_neg slash, ih]
      cases parts : split front with
      | nil => exact absurd parts (split_ne_nil front)
      | cons first others => rfl

theorem split_plain {chars : List Char} (plain : '/' ∉ chars) : split chars = [chars] := by
  induction chars with
  | nil => rfl
  | cons c rest ih =>
    obtain ⟨other, others⟩ := not_or.1 (List.mem_cons.not.1 plain)
    rw [split, if_neg (Ne.symm other), ih others]

/-- The texts between slashes have none, and none is longer than the whole. -/
theorem of_mem_split {chars part : List Char} (member : part ∈ split chars) :
    '/' ∉ part ∧ part.length ≤ chars.length := by
  induction chars generalizing part with
  | nil =>
    cases List.mem_singleton.1 member
    exact ⟨List.not_mem_nil, Nat.le_refl _⟩
  | cons c rest ih =>
    rw [split] at member
    split at member
    · rcases List.mem_cons.1 member with rfl | later
      · exact ⟨List.not_mem_nil, Nat.zero_le _⟩
      · exact ⟨(ih later).1, Nat.le_succ_of_le (ih later).2⟩
    next other =>
      cases parts : split rest with
      | nil => exact absurd parts (split_ne_nil rest)
      | cons first others =>
        rw [parts] at member ih
        rcases List.mem_cons.1 member with rfl | later
        · obtain ⟨plain, short⟩ := ih (List.mem_cons_self ..)
          refine ⟨fun inside => ?_, Nat.succ_le_succ short⟩
          rcases List.mem_cons.1 inside with slash | deeper
          · exact other slash.symm
          · exact plain deeper
        · have inside := ih (List.mem_cons_of_mem _ later)
          exact ⟨inside.1, Nat.le_succ_of_le inside.2⟩

/-! ### Components -/

theorem components_slash (front back : String) :
    components (front ++ "/" ++ back) = components front ++ components back := by
  have chars : (front ++ "/" ++ back).toList = front.toList ++ '/' :: back.toList := by simp
  unfold components
  rw [chars, split_slash, List.map_append]

theorem components_plain {name : String} (plain : '/' ∉ name.toList) : components name = [name] := by
  unfold components
  rw [split_plain plain, List.map_singleton, String.ofList_toList]

theorem components_ne_nil (path : String) : components path ≠ [] := by
  simp [components, split_ne_nil]

theorem of_mem_components {path part : String} (member : part ∈ components path) :
    '/' ∉ part.toList ∧ part.length ≤ path.length := by
  obtain ⟨chars, inside, rfl⟩ := List.mem_map.1 member
  rw [String.toList_ofList, String.length_ofList, ← String.length_toList]
  exact of_mem_split inside

/-- A path is a lone name, or a name in a directory. -/
theorem lone_or_inside (path : String) : '/' ∉ path.toList ∨
    ∃ directory name, path = directory ++ "/" ++ name ∧ '/' ∉ name.toList := by
  by_cases slash : '/' ∈ path.toList
  · obtain ⟨back, front, reversed, plain⟩ := List.eq_append_cons_of_mem (List.mem_reverse.2 slash)
    refine .inr ⟨String.ofList front.reverse, String.ofList back.reverse, ?_, by simpa using plain⟩
    have whole : path.toList = front.reverse ++ '/' :: back.reverse := by
      simpa using congrArg List.reverse reversed
    rw [← String.toList_inj, whole]
    simp
  · exact .inl slash

/-! ### Absolute paths -/

theorem isAbsolute_append {front : String} (nonempty : front ≠ "") (back : String) :
    isAbsolute (front ++ back) = isAbsolute front := by
  unfold isAbsolute
  cases chars : front.toList with
  | nil => exact absurd (String.toList_eq_nil_iff.1 chars) nonempty
  | cons c rest => simp [chars]

theorem isAbsolute_plain {name : String} (plain : '/' ∉ name.toList) : isAbsolute name = false := by
  unfold isAbsolute
  cases chars : name.toList with
  | nil => rfl
  | cons c rest =>
    have other : c ≠ '/' := by
      rintro rfl
      exact plain (chars ▸ List.mem_cons_self ..)
    simp [other]

/-! ### Paths without their idle components -/

/-- The components that name a directory or a file, or go up. -/
def names (path : String) : List String :=
  (components path).filter (!isIdle ·)

/-- The texts of one path differ in idle components at most. -/
def Same (left right : String) : Prop :=
  isAbsolute left = isAbsolute right ∧ names left = names right

theorem names_slash (front back : String) :
    names (front ++ "/" ++ back) = names front ++ names back := by
  unfold names
  rw [components_slash, List.filter_append]

variable {base path : String}

theorem names_join (relative : isAbsolute path = false) :
    names (join base path) = names base ++ names path := by
  unfold join
  rw [if_neg (by simp [relative])]
  split
  next empty =>
    rw [String.isEmpty_iff.1 empty]
    rfl
  split
  next slash =>
    -- The base ends in a slash, behind which stands nothing.
    obtain ⟨front, ends⟩ := List.getLast?_eq_some_iff.1 (eq_of_beq slash)
    have same : base = String.ofList front ++ "/" ++ "" := by
      rw [← String.toList_inj, ends]
      simp
    have nothing : names "" = [] := rfl
    rw [same, names_slash, nothing, List.append_nil, String.append_empty, names_slash]
  next => exact names_slash base path

theorem isAbsolute_join (relative : isAbsolute path = false) :
    isAbsolute (join base path) = isAbsolute base := by
  unfold join
  rw [if_neg (by simp [relative])]
  split
  next empty =>
    rw [String.isEmpty_iff.1 empty, relative]
    rfl
  next filled =>
    have nonempty : base ≠ "" := fun empty => filled (String.isEmpty_iff.2 empty)
    split
    · exact isAbsolute_append nonempty _
    · rw [String.append_assoc]
      exact isAbsolute_append nonempty _

end MiniJvm.Path
