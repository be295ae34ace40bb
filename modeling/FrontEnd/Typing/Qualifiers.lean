/-!
Type qualifiers. A type has each qualifier or has it not, so qualifiers form sets.
-/

namespace FrontEnd

/-- A set of qualifiers. -/
structure Qualifiers where
  isConst : Bool := false
  isVolatile : Bool := false
  isSafe : Bool := false
  isMutable : Bool := false
  deriving DecidableEq, Hashable, Inhabited

namespace Qualifiers

def empty : Qualifiers := {}

def const : Qualifiers := { isConst := true }

def volatile : Qualifiers := { isVolatile := true }

/-- The qualifiers of either set. -/
def union (first second : Qualifiers) : Qualifiers where
  isConst := first.isConst || second.isConst
  isVolatile := first.isVolatile || second.isVolatile
  isSafe := first.isSafe || second.isSafe
  isMutable := first.isMutable || second.isMutable

/-- Whether the first set holds every qualifier of the second. -/
def contains (first second : Qualifiers) : Bool := first.union second == first

def isEmpty (quals : Qualifiers) : Bool := quals == empty

/-- The words of the qualifiers in their fixed order. -/
def words (quals : Qualifiers) : List String :=
  (if quals.isConst then ["const"] else []) ++ (if quals.isVolatile then ["volatile"] else []) ++
    (if quals.isSafe then ["safe"] else []) ++ (if quals.isMutable then ["mutable"] else [])

/-- The words with a space between them. -/
def text (quals : Qualifiers) : String := " ".intercalate quals.words

/-- The set of one qualifier, by its word. -/
def ofWord? (word : String) : Option Qualifiers :=
  match word with
  | "const" => some const
  | "volatile" => some volatile
  | "safe" => some { isSafe := true }
  | "mutable" => some { isMutable := true }
  | _ => none

end Qualifiers

end FrontEnd
