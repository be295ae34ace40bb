import FrontEnd.Item.Kind
import FrontEnd.Item.Operator
import FrontEnd.Name.Interner

/-!
What items carry beside their children. Each payload has a shape, and each kind of item asks for
one shape.
-/

namespace FrontEnd

/-- A remark on a definition. -/
inductive Remark where
  | doc (text : Name)
  | tag (text : Name)
  deriving DecidableEq

/-- What the head of a definition says. -/
structure DefinitionData where
  name : Name := .empty
  /-- The type of a variable, the result of a function, the target of an alias, the index type of
  an enumeration. -/
  typeName : Option Name := none
  bases : List Name := []
  remarks : List Remark := []
  deriving DecidableEq, Inhabited

/-- What a template parameter stands for, as the source says it. -/
inductive ParameterSort where
  | type
  /-- A constant of the named type. -/
  | variable (type : Name)
  /-- A template of so many parameters. -/
  | template (arity : Nat)
  deriving DecidableEq, Inhabited

/-- What an item carries. -/
inductive ItemPayload where
  | none
  | name (name : Name)
  | literal (text : Name)
  | bool (value : Bool)
  | call (isMethod : Bool)
  | operator (op : Operator)
  | definition (data : DefinitionData)
  | importPath (path : Name) (localName : Option Name)
  | templateParameter (name : Name) (sort : ParameterSort)
  | module (name : Name)
  deriving DecidableEq, Inhabited

namespace ItemPayload

/-- The shape of a payload. -/
def shape : ItemPayload → PayloadShape
  | .none => .none
  | .name _ => .name
  | .literal _ => .literal
  | .bool _ => .bool
  | .call _ => .call
  | .operator _ => .operator
  | .definition _ => .definition
  | .importPath .. => .importPath
  | .templateParameter .. => .templateParameter
  | .module _ => .module

/-- The name or text that a payload holds, the empty one if it holds none. -/
def text : ItemPayload → Name
  | .name text | .literal text => text
  | _ => .empty

/-- What the payload says of a definition. -/
def definitionData : ItemPayload → DefinitionData
  | .definition data => data
  | _ => {}

end ItemPayload

end FrontEnd
