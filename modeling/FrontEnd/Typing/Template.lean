import FrontEnd.Typing.Error
import Std.Data.HashMap

/-!
Templates: definitions with parameters. The body of a template is written with type expressions,
which mention the parameters by position; parameters may have defaults, which stand at the end of
the list and are of the sort that their parameter asks for.
-/

namespace FrontEnd

mutual

/-- A type written in the body of a template. -/
inductive TypeExpr where
  | concrete (ty : TypeId)
  /-- The type parameter at a position. -/
  | param (index : Nat)
  | pointer (target : TypeExpr)
  | array (element : TypeExpr) (length : Nat)
  /-- An array whose length is the value parameter at a position. -/
  | arrayOfParam (element : TypeExpr) (index : Nat)
  | slice (element : TypeExpr)
  | qualified (base : TypeExpr) (quals : Qualifiers)
  | function (parameters : List TypeExpr) (result : TypeExpr) (variadic : Bool)
  /-- A template applied to arguments. -/
  | apply (template : TemplateId) (arguments : List ArgExpr)
  /-- The template parameter at a position applied to arguments. -/
  | applyParam (index : Nat) (arguments : List ArgExpr)

/-- An argument written in the body of a template. -/
inductive ArgExpr where
  | type (expr : TypeExpr)
  | value (value : ConstValue)
  | template (id : TemplateId)
  /-- The parameter at a position, of whatever sort. -/
  | param (index : Nat)

end

instance : Inhabited TypeExpr := ⟨.concrete .error⟩

/-- A data member of a template. -/
structure FieldExpr where
  name : Name
  type : TypeExpr

/-- A method of a class template. -/
structure MethodExpr where
  name : Name
  parameters : List TypeExpr
  result : TypeExpr

/-- What a parameter stands for. -/
inductive TemplateParamKind where
  | type
  /-- A constant of a type. -/
  | value (ty : TypeId)
  /-- A template that takes so many arguments. -/
  | template (arity : Nat)
  deriving DecidableEq

def TemplateParamKind.sort : TemplateParamKind → ArgumentSort
  | .type => .type
  | .value _ => .value
  | .template _ => .template

/-- A parameter of a template, with what it stands for where nothing is given. -/
structure TemplateParameter where
  name : Name
  kind : TemplateParamKind
  default : Option TemplateArgument := none
  deriving DecidableEq

/-- What a template makes of its arguments. -/
inductive TemplateBody where
  | struct (fields : List FieldExpr)
  | union (fields : List FieldExpr)
  | classType (base : Option TypeExpr) (fields : List FieldExpr) (methods : List MethodExpr)
  | synonym (target : TypeExpr)
  | function (parameters : List TypeExpr) (result : TypeExpr) (variadic : Bool)

/-- The kind of the definition that a body makes, if it makes one. -/
def TemplateBody.defKind? : TemplateBody → Option DefKind
  | .struct _ => some .struct
  | .union _ => some .union
  | .classType .. => some .classType
  | .synonym _ | .function .. => none

structure TemplateDef where
  name : Name
  parameters : List TemplateParameter
  body : TemplateBody

namespace TemplateDef

/-- How many parameters come before the first that has a default. -/
def required (template : TemplateDef) : Nat :=
  template.parameters.findIdx fun param => param.default.isSome

/-- Checks the defaults of the parameters from a position on. -/
def checkFrom (required index : Nat) : List TemplateParameter → Except TemplateDefError Unit
  | [] => .ok ()
  | param :: rest => match param.default with
    | none =>
      if index > required then .error (.defaultNotTrailing index)
      else checkFrom required (index + 1) rest
    | some default =>
      if default.sort ≠ param.kind.sort then
        .error (.defaultSort index param.kind.sort default.sort)
      else checkFrom required (index + 1) rest

/-- Refuses defaults that are followed by a parameter without one, or are of the wrong sort. -/
def check (template : TemplateDef) : Except TemplateDefError Unit :=
  checkFrom template.required 0 template.parameters

end TemplateDef

/-- The templates by id, and the last of each name. -/
structure TemplateRegistry where
  templates : Array TemplateDef := #[]
  names : Std.HashMap Name TemplateId := {}

namespace TemplateRegistry

def size (registry : TemplateRegistry) : Nat := registry.templates.size

/-- The id that the next template gets, which its own body may use. -/
def nextId (registry : TemplateRegistry) : TemplateId := ⟨registry.templates.size⟩

def get? (registry : TemplateRegistry) (id : TemplateId) : Option TemplateDef :=
  registry.templates[id.index]?

/-- The last template of a name. -/
def findByName? (registry : TemplateRegistry) (name : Name) : Option TemplateId :=
  registry.names[name]?

/-- Registers a template. It hides an earlier one of its name. -/
def register (registry : TemplateRegistry) (template : TemplateDef) :
    Except TemplateDefError (TemplateId × TemplateRegistry) :=
  match template.check with
  | .error err => .error err
  | .ok () => .ok (registry.nextId,
      ⟨registry.templates.push template, registry.names.insert template.name registry.nextId⟩)

end TemplateRegistry

end FrontEnd
