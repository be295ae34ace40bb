/-!
Paths are compared by their components: repeated slashes, a slash at the end and single dots
inside of a path do not count, while a leading dot and double dots do.
-/

namespace FrontEnd

/-- A step of a path. -/
inductive PathComponent where
  /-- The slash at the start of an absolute path. -/
  | root
  /-- The dot at the start of a relative path. -/
  | here
  /-- A double dot. -/
  | parent
  | named (text : String)
  deriving DecidableEq, Hashable

namespace Path

/-- The texts between the slashes of a path. -/
def pieces : List Char → List (List Char)
  | [] => [[]]
  | c :: rest =>
    if c = '/' then [] :: pieces rest
    else match pieces rest with
      | first :: others => (c :: first) :: others
      | [] => [[c]]

/-- The component that a piece stands for, wherever it is in the path. -/
def component? (piece : List Char) : Option PathComponent :=
  if piece = [] ∨ piece = ['.'] then none
  else if piece = ['.', '.'] then some .parent
  else some (.named (String.ofList piece))

/-- The components of a path. -/
def components (path : String) : List PathComponent :=
  match pieces path.toList with
  | [] => []
  | [] :: [] => []
  | [] :: rest => .root :: rest.filterMap component?
  | first :: rest =>
    if first = ['.'] then .here :: rest.filterMap component?
    else (first :: rest).filterMap component?

/-- Whether two paths have the same components. -/
def same (first second : String) : Bool := components first == components second

/-- The text before the last dot, if there is one behind the first character. -/
def stem (name : List Char) : List Char :=
  let behind := name.reverse.takeWhile (· ≠ '.')
  let before := name.reverse.drop (behind.length + 1)
  if before = [] then name else before.reverse

/-- The name of the file that a path leads to, without its extension. -/
def fileStem? (path : String) : Option String :=
  match (components path).getLast? with
  | some (.named text) => some (String.ofList (stem text.toList))
  | _ => none

end Path

end FrontEnd
