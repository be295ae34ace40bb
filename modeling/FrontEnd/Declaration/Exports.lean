import FrontEnd.Item.Tree
import FrontEnd.Typing.Form
import Std.Data.HashMap

/-!
Exports: what a module makes visible to the modules that import it.
-/

namespace FrontEnd

/-- A function that is no template. -/
structure FunctionDecl where
  name : Name
  /-- The function type. -/
  signature : TypeId
  item : ItemId
  deriving DecidableEq

/-- What a name means. -/
inductive ScopeEntry where
  | type (ty : TypeId)
  | template (id : TemplateId)
  deriving DecidableEq

/-- The declarations of a module. -/
structure Exports where
  /-- Nominal types and aliases. -/
  types : Std.HashMap Name TypeId := {}
  templates : Std.HashMap Name TemplateId := {}
  /-- Functions in the order of declaration. One name may be that of many. -/
  functions : List FunctionDecl := []

namespace Exports

instance : Inhabited Exports := ⟨{}⟩

/-- What the module means by a name. -/
def lookup? (exports : Exports) (name : Name) : Option ScopeEntry :=
  (exports.types[name]?.map .type).or (exports.templates[name]?.map .template)

/-- Whether the module has a type or template of a name. -/
def declares (exports : Exports) (name : Name) : Bool :=
  exports.types.contains name || exports.templates.contains name

/-- The signatures of the functions of a name. -/
def overloads (exports : Exports) (name : Name) : List TypeId :=
  (exports.functions.filter (·.name == name)).map (·.signature)

def addType (exports : Exports) (name : Name) (ty : TypeId) : Exports :=
  { exports with types := exports.types.insert name ty }

def addTemplate (exports : Exports) (name : Name) (id : TemplateId) : Exports :=
  { exports with templates := exports.templates.insert name id }

def addFunction (exports : Exports) (function : FunctionDecl) : Exports :=
  { exports with functions := exports.functions ++ [function] }

end Exports

end FrontEnd
