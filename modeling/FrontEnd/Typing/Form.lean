import FrontEnd.Typing.Id
import FrontEnd.Typing.Qualifiers

/-!
The forms of types: how a type is built from other types. Two types of one form are the same type.
-/

namespace FrontEnd

/-- The number of a definition, in the order of declaration. -/
structure DefId where
  index : Nat
  deriving DecidableEq, Hashable, Inhabited

/-- A definition as dumps show it. -/
def DefId.dump (id : DefId) : String := s!"DefId({id.index})"

/-- The number of a template, in the order of registration. -/
structure TemplateId where
  index : Nat
  deriving DecidableEq, Hashable, Inhabited

/-- A template as dumps show it. -/
def TemplateId.dump (id : TemplateId) : String := s!"TemplateId({id.index})"

/-- What a definition defines. -/
inductive DefKind where
  | enumeration | struct | union | interface | classType
  deriving DecidableEq, Hashable, Inhabited

namespace DefKind

/-- The keyword of a kind. -/
def keyword : DefKind → String
  | .enumeration => "enum"
  | .struct => "struct"
  | .union => "union"
  | .interface => "interface"
  | .classType => "class"

/-- The kind of a keyword. -/
def ofKeyword? (word : String) : Option DefKind :=
  [DefKind.enumeration, .struct, .union, .interface, .classType].find? (·.keyword == word)

end DefKind

/-- How a type is built. -/
inductive TypeForm where
  | void
  | bool
  | int (bits : Nat) (signed : Bool)
  | float (bits : Nat)
  /-- The type that a definition introduces. -/
  | nominal (kind : DefKind) (id : DefId)
  | pointer (target : TypeId)
  | array (element : TypeId) (length : Nat)
  | slice (element : TypeId)
  /-- A function type. If it is variadic, the last parameter takes all further arguments. -/
  | function (parameters : List TypeId) (result : TypeId) (variadic : Bool)
  | qualified (base : TypeId) (quals : Qualifiers)
  /-- A parameter of a template. -/
  | param (template : TemplateId) (index : Nat)
  | error
  deriving DecidableEq, Hashable, Inhabited

namespace TypeForm

/-- The forms of the primitive types in the order of their ids. -/
def primitives : List TypeForm :=
  [.void, .bool, .int 8 true, .int 16 true, .int 32 true, .int 64 true, .int 8 false,
    .int 16 false, .int 32 false, .int 64 false, .float 32, .float 64, .error]

/-- The types that a form is built from, the result of a function first. -/
def children : TypeForm → List TypeId
  | .pointer target => [target]
  | .array element _ => [element]
  | .slice element => [element]
  | .function parameters result _ => result :: parameters
  | .qualified base _ => [base]
  | _ => []

end TypeForm

/-- What is known of a type without looking at it again. The first two hold of a type if they hold
of any type that it is built from; the others describe the outermost form. -/
structure TypeFlags where
  hasParam : Bool := false
  hasError : Bool := false
  isPrimitive : Bool := false
  isInteger : Bool := false
  isFloat : Bool := false
  isNominal : Bool := false
  isQualified : Bool := false
  isFunction : Bool := false
  /-- Pointers, arrays and slices. -/
  isIndirect : Bool := false
  deriving DecidableEq, Inhabited

namespace TypeFlags

/-- What the outermost form says. -/
def ofOutermost : TypeForm → TypeFlags
  | .void | .bool => { isPrimitive := true }
  | .int .. => { isPrimitive := true, isInteger := true }
  | .float _ => { isPrimitive := true, isFloat := true }
  | .nominal .. => { isNominal := true }
  | .pointer _ | .array .. | .slice _ => { isIndirect := true }
  | .function .. => { isFunction := true }
  | .qualified .. => { isQualified := true }
  | .param .. => { hasParam := true }
  | .error => { hasError := true }

/-- The flags of a form when those of its children are known. -/
def ofForm (form : TypeForm) (children : List TypeFlags) : TypeFlags :=
  let own := ofOutermost form
  { own with
    hasParam := own.hasParam || children.any (·.hasParam)
    hasError := own.hasError || children.any (·.hasError) }

/-- Whether no template parameter occurs. -/
def isConcrete (flags : TypeFlags) : Bool := !flags.hasParam

/-- The names of the flags that are set. -/
def labels (flags : TypeFlags) : List String :=
  [(flags.hasParam, "HAS_PARAM"), (flags.hasError, "HAS_ERROR"),
    (flags.isPrimitive, "IS_PRIMITIVE"), (flags.isInteger, "IS_INTEGER"),
    (flags.isFloat, "IS_FLOAT"), (flags.isNominal, "IS_NOMINAL"),
    (flags.isQualified, "IS_QUALIFIED"), (flags.isFunction, "IS_FUNCTION"),
    (flags.isIndirect, "IS_INDIRECT")].filterMap fun (set, label) => if set then some label else none

end TypeFlags

end FrontEnd
