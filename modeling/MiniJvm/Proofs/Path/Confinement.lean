import MiniJvm.Disk
import MiniJvm.Proofs.Path.Components

/-!
Which paths stay below a directory. A path is resolved by its text alone, each `..` taking back the name in
front of it. The file of a class lies below every class path exactly when the name of the class is a
relative path that never climbs out of where it starts; other names lead out of some class paths.
-/

namespace MiniJvm.Path

open Disk (Location)

/-! ### Resolving `..` -/

/-- Where one more name leads. A `..` with no name to take back leads nowhere from the root and stays in a
relative path. -/
def climb (absolute : Bool) (here : List String) (part : String) : List String :=
  if part ≠ ".." then here ++ [part]
  else
    match here.getLast? with
    | none => if absolute then [] else [".."]
    | some last => if last = ".." then here ++ [".."] else here.dropLast

/-- The names of a path without those that a `..` takes back. -/
def lexical (path : String) : List String :=
  (names path).foldl (climb (isAbsolute path)) []

/-- A path that starts with the names of a directory and goes on downwards. -/
structure Below (directory path : String) : Prop where
  root : isAbsolute path = isAbsolute directory
  inside : ∃ inner, inner ≠ [] ∧ ".." ∉ inner ∧ lexical path = lexical directory ++ inner

theorem Below.starts {directory path : String} (below : Below directory path) :
    lexical directory <+: lexical path :=
  let ⟨inner, _, _, led⟩ := below.inside
  ⟨inner, led.symm⟩

/-- The file of a class is named relatively and not from outside of where the name starts. -/
def Contained (name : String) : Prop :=
  isAbsolute name = false ∧ (Location.route? [] (components (name ++ classSuffix))).isSome = true

instance (name : String) : Decidable (Contained name) :=
  inferInstanceAs (Decidable (_ ∧ _))

variable {absolute : Bool} {base here last : List String} {part : String} {parts : List String}
  {passed : List Location}

theorem climb_name (ordinary : part ≠ "..") : climb absolute here part = here ++ [part] :=
  if_pos ordinary

theorem climb_back (inside : here ≠ []) (descended : ".." ∉ here) :
    climb absolute (base ++ here) ".." = base ++ here.dropLast := by
  obtain ⟨before, name, rfl⟩ := (List.eq_nil_or_concat' here).resolve_left inside
  have ordinary : name ≠ ".." := by
    rintro rfl
    exact descended (by simp)
  unfold climb
  rw [if_neg (by simp), ← List.append_assoc, List.getLast?_concat]
  simp [ordinary]

theorem mem_climb {name : String} (member : name ∈ climb absolute here part) :
    name ∈ here ∨ name = part := by
  unfold climb at member
  split at member
  · simpa using member
  next up =>
    have same : part = ".." := not_not.1 up
    subst same
    split at member
    · split at member
      · cases member
      · exact .inr (List.mem_singleton.1 member)
    · split at member
      · simpa using member
      · exact .inl (List.mem_of_mem_take (List.dropLast_eq_take ▸ member))

theorem mem_foldl_climb {name : String} (member : name ∈ parts.foldl (climb absolute) here) :
    name ∈ here ∨ name ∈ parts := by
  induction parts generalizing here with
  | nil => exact .inl member
  | cons part others ih =>
    rcases ih member with earlier | later
    · rcases mem_climb earlier with before | rfl
      · exact .inl before
      · exact .inr (List.mem_cons_self ..)
    · exact .inr (List.mem_cons_of_mem _ later)

theorem lexical_join {base path : String} (relative : isAbsolute path = false) :
    lexical (join base path) = (names path).foldl (climb (isAbsolute base)) (lexical base) := by
  unfold lexical
  rw [names_join relative, isAbsolute_join relative, List.foldl_append]

/-! ### Routes below a directory -/

/-- A component that can be followed leads to the same place below any base. -/
theorem climb_follow {next : Location} (absolute : Bool) (base : List String) (descended : ".." ∉ here)
    (follows : Location.follow? here part = some next) :
    ".." ∉ next ∧
      ([part].filter (!isIdle ·)).foldl (climb absolute) (base ++ here) = base ++ next := by
  unfold Location.follow? at follows
  split at follows
  next idle =>
    cases follows
    exact ⟨descended, by simp [idle]⟩
  next named =>
    have kept : [part].filter (!isIdle ·) = [part] := by simp [named]
    rw [kept]
    split at follows
    next up =>
      subst up
      split at follows
      · cases follows
      next inside =>
        cases follows
        refine ⟨fun member => descended (List.dropLast_subset here member), ?_⟩
        exact climb_back (by simpa using inside) descended
    next down =>
      cases follows
      refine ⟨by simp [descended, Ne.symm down], ?_⟩
      rw [List.foldl_cons, List.foldl_nil, climb_name down, List.append_assoc]

/-- Only going up from the start cannot be followed. -/
theorem follow?_none (lost : Location.follow? here part = none) : here = [] ∧ part = ".." := by
  unfold Location.follow? at lost
  split at lost
  · cases lost
  split at lost
  next up =>
    split at lost
    next empty => exact ⟨List.isEmpty_iff.1 empty, up⟩
    · cases lost
  · cases lost

theorem route?_cons_some (route : Location.route? here (part :: parts) = some (passed, last)) :
    ∃ next rest, Location.follow? here part = some next ∧
      Location.route? next parts = some (rest, last) := by
  rw [Location.route?] at route
  obtain ⟨next, follows, behind⟩ := Option.bind_eq_some_iff.1 route
  obtain ⟨⟨rest, final⟩, ends, same⟩ := Option.bind_eq_some_iff.1 behind
  cases same
  exact ⟨next, rest, follows, ends⟩

theorem route?_cons_none {next : Location} (follows : Location.follow? here part = some next)
    (lost : Location.route? here (part :: parts) = none) : Location.route? next parts = none := by
  rw [Location.route?, follows] at lost
  have behind := Option.bind_eq_none_iff.1 lost next rfl
  cases onwards : Location.route? next parts with
  | none => rfl
  | some found =>
    rw [onwards] at behind
    cases behind

/-- A route that stays below where it starts leads to the same place below any base. -/
theorem foldl_climb_route (absolute : Bool) (base : List String) (descended : ".." ∉ here)
    (route : Location.route? here parts = some (passed, last)) :
    ".." ∉ last ∧
      (parts.filter (!isIdle ·)).foldl (climb absolute) (base ++ here) = base ++ last := by
  -- The base rides along, because no step of the route takes back more than `here` has.
  induction parts generalizing here passed with
  | nil =>
    cases route
    exact ⟨descended, rfl⟩
  | cons part others ih =>
    obtain ⟨next, rest, follows, onwards⟩ := route?_cons_some route
    obtain ⟨still, led⟩ := climb_follow absolute base descended follows
    rw [show part :: others = [part] ++ others from rfl, List.filter_append, List.foldl_append, led]
    exact ih still onwards

/-- Without a route, the path takes back the name of the directory that it starts in. -/
theorem foldl_climb_lost {directory : String} (ordinary : directory ≠ "..") (descended : ".." ∉ here)
    (lost : Location.route? here parts = none) (fresh : directory ∉ parts) :
    directory ∉ (parts.filter (!isIdle ·)).foldl (climb false) ([directory] ++ here) := by
  induction parts generalizing here with
  | nil => cases lost
  | cons part others ih =>
    obtain ⟨_, absent⟩ := not_or.1 (List.mem_cons.not.1 fresh)
    cases follows : Location.follow? here part with
    | some next =>
      obtain ⟨still, led⟩ := climb_follow false [directory] descended follows
      rw [show part :: others = [part] ++ others from rfl, List.filter_append, List.foldl_append, led]
      exact ih still (route?_cons_none follows lost) absent
    | none =>
      obtain ⟨rfl, rfl⟩ := follow?_none follows
      have back : climb false ([directory] ++ []) ".." = [] := by simp [climb, ordinary]
      have kept : (".." :: others).filter (!isIdle ·) = ".." :: others.filter (!isIdle ·) := rfl
      rw [kept, List.foldl_cons, back]
      intro member
      rcases mem_foldl_climb member with earlier | later
      · cases earlier
      · exact absent (List.mem_of_mem_filter later)

/-! ### The files of classes -/

theorem ordinary_of_long {name : String} (long : 2 < name.length) :
    isIdle name = false ∧ name ≠ ".." := by
  have differs (other : String) (short : other.length ≤ 2) : name ≠ other := by
    rintro rfl
    omega
  exact ⟨by simp [isIdle, differs "" (by decide), differs "." (by decide)], differs ".." (by decide)⟩

theorem classFile_ordinary (name : String) :
    isIdle (name ++ classSuffix) = false ∧ name ++ classSuffix ≠ ".." := by
  apply ordinary_of_long
  have suffix : classSuffix.length = 6 := by decide
  rw [String.length_append, suffix]
  omega

theorem components_classFile (name : String) :
    ∃ before file, components (name ++ classSuffix) = before ++ [file ++ classSuffix] := by
  have suffixed {file : String} (plain : '/' ∉ file.toList) :
      components (file ++ classSuffix) = [file ++ classSuffix] := by
    apply components_plain
    rw [String.toList_append, List.mem_append, not_or]
    exact ⟨plain, by decide⟩
  rcases lone_or_inside name with plain | ⟨directory, file, rfl, plain⟩
  · exact ⟨[], name, suffixed plain⟩
  · refine ⟨components directory, file, ?_⟩
    rw [String.append_assoc, components_slash, suffixed plain]

theorem route?_ends {file : String} (named : isIdle file = false) (down : file ≠ "..")
    (route : Location.route? here (parts ++ [file]) = some (passed, last)) : last ≠ [] := by
  induction parts generalizing here passed with
  | nil =>
    obtain ⟨next, rest, follows, ends⟩ := route?_cons_some route
    cases ends
    simp [Location.follow?, named, down] at follows
    simp [← follows]
  | cons part others ih =>
    obtain ⟨next, rest, _, onwards⟩ := route?_cons_some route
    exact ih onwards

theorem isAbsolute_classFile (name : String) : isAbsolute (name ++ classSuffix) = isAbsolute name := by
  by_cases empty : name = ""
  · subst empty
    rfl
  · exact isAbsolute_append empty classSuffix

theorem ofClass_absolute {name : String} (absolute : isAbsolute name = true) (classpath : String) :
    ofClass classpath name = name ++ classSuffix :=
  if_pos ((isAbsolute_classFile name).trans absolute)

theorem Contained.below {name : String} (contained : Contained name) (classpath : String) :
    Below classpath (ofClass classpath name) := by
  obtain ⟨relative, reaches⟩ := contained
  have relativeFile := (isAbsolute_classFile name).trans relative
  obtain ⟨⟨passed, last⟩, route⟩ := Option.isSome_iff_exists.1 reaches
  obtain ⟨descended, led⟩ := foldl_climb_route (isAbsolute classpath) (lexical classpath)
    List.not_mem_nil route
  refine ⟨isAbsolute_join relativeFile, last, ?_, descended, ?_⟩
  · obtain ⟨before, file, same⟩ := components_classFile name
    obtain ⟨named, down⟩ := classFile_ordinary file
    rw [same] at route
    exact route?_ends named down route
  · rw [List.append_nil] at led
    exact (lexical_join relativeFile).trans led

/-- A name that is longer than a path and so is none of its components. -/
def stranger (path : String) : String :=
  String.ofList (List.replicate (path.length + 3) 'd')

theorem length_stranger (path : String) : (stranger path).length = path.length + 3 := by
  simp [stranger]

theorem stranger_ordinary (path : String) :
    isIdle (stranger path) = false ∧ stranger path ≠ ".." := by
  apply ordinary_of_long
  rw [length_stranger]
  omega

theorem stranger_plain (path : String) : '/' ∉ (stranger path).toList := by
  simp [stranger]

theorem stranger_not_mem (path : String) : stranger path ∉ components path := by
  intro member
  have short := (of_mem_components member).2
  rw [length_stranger] at short
  omega

theorem lexical_name {name : String} (plain : '/' ∉ name.toList) (ordinary : isIdle name = false)
    (down : name ≠ "..") : lexical name = [name] := by
  unfold lexical names
  rw [components_plain plain, List.filter_cons_of_pos (by simp [ordinary]), List.filter_nil,
    List.foldl_cons, List.foldl_nil, climb_name down, List.nil_append]

/-- A class that lies below every class path is named downwards: an absolute name has its own root, and
below a directory that its name does not mention there is no other way into it. -/
theorem contained_of_below {name : String}
    (below : ∀ classpath, Below classpath (ofClass classpath name)) : Contained name := by
  have relative : isAbsolute name = false := by
    by_contra absolute
    have root := (below "").root
    rw [ofClass_absolute (by simpa using absolute), isAbsolute_classFile] at root
    exact absolute root
  refine ⟨relative, ?_⟩
  by_contra lost
  have fileRelative := (isAbsolute_classFile name).trans relative
  obtain ⟨ordinary, down⟩ := stranger_ordinary (name ++ classSuffix)
  have plain := stranger_plain (name ++ classSuffix)
  obtain ⟨inner, _, _, led⟩ := (below (stranger (name ++ classSuffix))).inside
  have away := foldl_climb_lost down List.not_mem_nil (by simpa using lost) (stranger_not_mem _)
  unfold ofClass at led
  rw [lexical_join fileRelative, isAbsolute_plain plain, lexical_name plain ordinary down] at led
  exact away (led ▸ List.mem_cons_self ..)

end MiniJvm.Path
