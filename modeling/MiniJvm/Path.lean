/-!
Paths as text, with `/` between components.
-/

namespace MiniJvm.Path

def isAbsolute (path : String) : Bool :=
  path.toList.head? == some '/'

/-- A path below a base. An absolute path replaces the base; one slash separates the two. -/
def join (base path : String) : String :=
  if isAbsolute path then path
  else if base.isEmpty then path
  else if base.toList.getLast? == some '/' then base ++ path
  else base ++ "/" ++ path

def sizeLimit : Nat := 4096

def classSuffix : String := ".class"

def ofClass (base name : String) : String :=
  join base (name ++ classSuffix)

def split : List Char → List (List Char)
  | [] => [[]]
  | c :: rest =>
    if c = '/' then [] :: split rest
    else
      match split rest with
      | first :: others => (c :: first) :: others
      | [] => [[c]]

def components (path : String) : List String :=
  (split path.toList).map String.ofList

/-- Empty components and single dots name no directory of their own. -/
def isIdle (component : String) : Bool :=
  component == "" || component == "."

def trimEnd (parts : List String) : List String :=
  (parts.reverse.dropWhile isIdle).reverse

def trim : List String → List String
  | [] => []
  | first :: others => first :: trimEnd others

def directoryText (parts : List String) : String :=
  if parts = [""] then "/" else String.intercalate "/" parts

/-- The directory and the name of the file that a path denotes, none if it denotes no file: a path that
ends in `..` or is the root, the empty path or a single dot. A lone name has the empty directory. -/
def splitFile? (path : String) : Option (String × String) :=
  match (trim (components path)).reverse with
  | [] => none
  | [only] => if isIdle only || only == ".." then none else some ("", only)
  | file :: before =>
    if file == ".." then none else some (directoryText (trim before.reverse), file)

end MiniJvm.Path
