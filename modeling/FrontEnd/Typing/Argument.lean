import FrontEnd.Typing.Form

/-!
Template arguments, and the keys under which instances of templates are kept. A key is the template
with its full list of arguments, so equal requests have equal keys.
-/

namespace FrontEnd

/-- A constant known while types are built. -/
inductive ConstValue where
  | int (value : Int)
  | bool (value : Bool)
  deriving DecidableEq, Hashable

/-- A constant as a source spells it. -/
def ConstValue.text : ConstValue → String
  | .int value => toString value
  | .bool value => toString value

/-- What a template parameter asks for, and what an argument is. -/
inductive ArgumentSort where
  | type | value | template
  deriving DecidableEq

/-- The word for a sort of argument. -/
def ArgumentSort.word : ArgumentSort → String
  | .type => "type"
  | .value => "value"
  | .template => "template"

/-- An argument of a template. -/
inductive TemplateArgument where
  | type (ty : TypeId)
  | value (value : ConstValue)
  | template (id : TemplateId)
  deriving DecidableEq, Hashable

def TemplateArgument.sort : TemplateArgument → ArgumentSort
  | .type _ => .type
  | .value _ => .value
  | .template _ => .template

/-- A template with an argument for each of its parameters. -/
structure SpecializationKey where
  template : TemplateId
  arguments : List TemplateArgument
  deriving DecidableEq, Hashable

end FrontEnd
