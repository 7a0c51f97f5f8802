import Mathlib.Data.List.DropRight
import MiniJvm.Launcher
import MiniJvm.Proofs.Path.Components

/-!
The file that the command line opens. A target that is a file is taken apart into a directory and the name
of a class, and the class is later looked for below that directory. The two undo each other: the path that is
looked for is the target again, but for components that name no directory of their own.
-/

namespace MiniJvm

namespace Path

variable {parts : List String} {directory file : String}

/-! ### The directory of a file -/

theorem trimEnd_concat (named : isIdle file = false) (parts : List String) :
    trimEnd (parts ++ [file]) = parts ++ [file] :=
  List.rdropWhile_concat_neg _ _ _ (by simp [named])

theorem filter_trimEnd (parts : List String) :
    (trimEnd parts).filter (!isIdle ·) = parts.filter (!isIdle ·) := by
  induction parts using List.reverseRecOn with
  | nil => rfl
  | append_singleton parts last ih =>
    cases idle : isIdle last with
    | false => rw [trimEnd_concat idle]
    | true =>
      have dropped : trimEnd (parts ++ [last]) = trimEnd parts :=
        List.rdropWhile_concat_pos _ _ _ (by simp [idle])
      rw [dropped, ih, List.filter_append, List.filter_cons_of_neg (by simp [idle]), List.filter_nil,
        List.append_nil]

theorem filter_trim (parts : List String) :
    (trim parts).filter (!isIdle ·) = parts.filter (!isIdle ·) := by
  cases parts with
  | nil => rfl
  | cons first others =>
    unfold trim
    rw [List.filter_cons, List.filter_cons, filter_trimEnd]

theorem trim_subset (parts : List String) : trim parts ⊆ parts := by
  cases parts with
  | nil => exact List.Subset.refl _
  | cons first others => exact List.cons_subset_cons first (List.rdropWhile_prefix isIdle others).subset

theorem components_intercalate (nonempty : parts ≠ []) (plain : ∀ part ∈ parts, '/' ∉ part.toList) :
    components (String.intercalate "/" parts) = parts := by
  induction parts with
  | nil => exact absurd rfl nonempty
  | cons first others ih =>
    have lone : components first = [first] := components_plain (plain first (List.mem_cons_self ..))
    cases others with
    | nil => simpa using lone
    | cons second rest =>
      rw [String.intercalate_cons_cons, components_slash, lone,
        ih (List.cons_ne_nil _ _) fun part member => plain part (List.mem_cons_of_mem _ member)]
      rfl

theorem isAbsolute_slash (directory back : String) :
    isAbsolute (directory ++ "/" ++ back) = ((components directory).head? == some "") := by
  unfold isAbsolute components
  rw [String.toList_append, String.toList_append]
  cases directory.toList with
  | nil => rfl
  | cons c rest =>
    by_cases slash : c = '/'
    · subst slash
      simp [split]
    · cases parts : split rest with
      | nil => exact absurd parts (split_ne_nil rest)
      | cons first others =>
        simp [split, slash, parts]

/-- The text of a directory starts where its components start and names what they name. -/
theorem directoryText_spec (first : String) (others : List String)
    (plain : ∀ part ∈ first :: others, '/' ∉ part.toList) :
    directoryText (first :: others) ≠ "" ∧
      isAbsolute (directoryText (first :: others)) = (first == "") ∧
      names (directoryText (first :: others)) = (first :: others).filter (!isIdle ·) := by
  have firstPlain := plain first (List.mem_cons_self ..)
  by_cases root : first :: others = [""]
  · cases root
    decide
  · have text : directoryText (first :: others) = String.intercalate "/" (first :: others) := if_neg root
    rw [text, names, components_intercalate (List.cons_ne_nil _ _) plain]
    cases others with
    | nil =>
      have nonempty : first ≠ "" := by simpa using root
      rw [String.intercalate_singleton, isAbsolute_plain firstPlain]
      exact ⟨nonempty, by simp [nonempty], rfl⟩
    | cons second rest =>
      rw [String.intercalate_cons_cons, isAbsolute_slash, components_plain firstPlain]
      exact ⟨by simp, rfl, rfl⟩

theorem splitFile?_inside (directory : String) (plain : '/' ∉ file.toList)
    (named : isIdle file = false) (down : file ≠ "..") :
    ∃ front, splitFile? (directory ++ "/" ++ file) = some (front, file) ∧ front ≠ "" ∧
      isAbsolute front = isAbsolute (directory ++ "/" ++ file) ∧ names front = names directory := by
  cases parts : components directory with
  | nil => exact absurd parts (components_ne_nil directory)
  | cons first others =>
    have cut : trim (components (directory ++ "/" ++ file)) = first :: others ++ [file] := by
      rw [components_slash, components_plain plain, parts]
      exact congrArg (first :: ·) (trimEnd_concat named others)
    have inner : ∀ part ∈ trim (first :: others), '/' ∉ part.toList := by
      intro part member
      exact (of_mem_components (parts ▸ trim_subset _ member)).1
    obtain ⟨nonempty, root, same⟩ := directoryText_spec first (trimEnd others) inner
    refine ⟨directoryText (trim (first :: others)), ?_, nonempty, ?_, ?_⟩
    · unfold splitFile?
      rw [cut, List.reverse_concat]
      cases reversed : (first :: others).reverse with
      | nil => simp at reversed
      | cons last front =>
        have again : (last :: front).reverse = first :: others := by rw [← reversed, List.reverse_reverse]
        dsimp only
        rw [again]
        simp [down]
    · rw [isAbsolute_slash, parts]
      exact root
    · refine same.trans ?_
      rw [names, parts]
      exact filter_trim (first :: others)

theorem splitFile?_lone (plain : '/' ∉ file.toList) (named : isIdle file = false)
    (down : file ≠ "..") : splitFile? file = some ("", file) := by
  unfold splitFile?
  rw [components_plain plain]
  simp [trim, trimEnd, named, down]

end Path

namespace Launcher

open MiniJvm.Path

/-! ### The class suffix -/

theorem stripSuffix?_suffixed (name : String) : stripSuffix? (name ++ classSuffix) = some name := by
  unfold stripSuffix?
  simp

theorem stripSuffix?_none {target : String} (bare : ∀ name, target ≠ name ++ classSuffix) :
    stripSuffix? target = none := by
  unfold stripSuffix?
  dsimp only
  rw [if_neg]
  intro suffixed
  obtain ⟨front, same⟩ := List.isSuffixOf_iff_suffix.1 suffixed
  exact bare (String.ofList front) (String.toList_inj.1 (by simp [same]))

/-! ### Targets -/

theorem resolve_file {target file : String}
    (last : (components target).getLast? = some (file ++ classSuffix)) (named : isIdle file = false)
    (down : file ≠ "..") :
    ∃ directory, resolve target none = (directory, file) ∧ Same (ofClass directory file) target := by
  have member : file ++ classSuffix ∈ components target := List.mem_of_getLast? last
  have suffixed : '/' ∉ (file ++ classSuffix).toList := (of_mem_components member).1
  have plain : '/' ∉ file.toList := by
    intro inside
    exact suffixed (by simp [inside])
  have relative : isAbsolute (file ++ classSuffix) = false := isAbsolute_plain suffixed
  rcases lone_or_inside target with lone | ⟨directory, name, rfl, namePlain⟩
  · rw [components_plain lone] at last
    obtain rfl : target = file ++ classSuffix := by simpa using last
    refine ⟨".", ?_, ?_, ?_⟩
    · unfold resolve
      dsimp only
      rw [stripSuffix?_suffixed, Option.getD_some, splitFile?_lone plain named down]
      rfl
    · rw [relative]
      exact isAbsolute_join relative
    · exact names_join relative
  · rw [components_slash, components_plain namePlain] at last
    obtain rfl : name = file ++ classSuffix := by simpa using last
    obtain ⟨front, cut, nonempty, root, same⟩ := splitFile?_inside directory plain named down
    refine ⟨front, ?_, ?_, ?_⟩
    · unfold resolve
      dsimp only
      rw [← String.append_assoc, stripSuffix?_suffixed, Option.getD_some, cut]
      simp [nonempty]
    · exact (isAbsolute_join relative).trans (root.trans (by rw [isAbsolute_slash, isAbsolute_slash]))
    · exact (names_join relative).trans (by rw [same, names_slash])

/-- A target that is a file is opened as that file, but for components that name no directory. With a class
path of its own, a target stands for a class of that name, without one class suffix. -/
theorem resolve_opens_target :
    (∀ target file, (components target).getLast? = some (file ++ classSuffix) →
      file ≠ "" → file ≠ "." → file ≠ ".." →
        ∃ directory, resolve target none = (directory, file) ∧ Same (ofClass directory file) target) ∧
    (∀ name classpath, resolve (name ++ classSuffix) (some classpath) = (classpath, name)) ∧
    ∀ target classpath, (∀ name, target ≠ name ++ classSuffix) →
      resolve target (some classpath) = (classpath, target) := by
  refine ⟨?_, ?_, ?_⟩
  · intro target file last named visible down
    exact resolve_file last (by simp [isIdle, named, visible]) down
  · intro name classpath
    unfold resolve
    rw [stripSuffix?_suffixed]
    rfl
  · intro target classpath bare
    unfold resolve
    rw [stripSuffix?_none bare]
    rfl

/-- A file whose name has the suffix twice, in a directory that is written in a roundabout way, and a class
below a class path. -/
theorem roundabout_target_opened :
    (∃ directory, resolve "./a//./x.class.class" none = (directory, "x.class") ∧
      Same (ofClass directory "x.class") "./a//./x.class.class") ∧
    resolve "Main" (some "out") = ("out", "Main") := by
  have bare (name : String) : "Main" ≠ name ++ classSuffix := by
    intro same
    have lengths : 4 = name.length + 6 := (congrArg String.length same).trans (String.length_append ..)
    omega
  exact ⟨resolve_opens_target.1 "./a//./x.class.class" "x.class" (by decide +kernel) (by decide)
    (by decide) (by decide), resolve_opens_target.2.2 "Main" "out" bare⟩

end Launcher

end MiniJvm
