import FrontEnd.Item.Locator
import FrontEnd.Typing.Error
import Std.Data.HashMap

/-!
Nominal definitions. A definition is declared first and gets its body later, once. Its id is never
given out again, not even when the definition is withdrawn because the request that declared it
failed.
-/

namespace FrontEnd

/-- A data member. -/
structure Member where
  name : Name
  type : TypeId
  deriving DecidableEq

/-- A method. The receiver is no parameter of its signature. -/
structure Method where
  name : Name
  signature : TypeId
  isStatic : Bool := false
  deriving DecidableEq

/-- What an operator does on a type. -/
structure OperatorMethod where
  op : Operator
  signature : TypeId
  deriving DecidableEq

structure EnumConstant where
  name : Name
  value : Int
  deriving DecidableEq

namespace EnumConstant

/-- The largest value of a constant: the largest of 128 bits, one of which is for the sign. -/
def maxValue : Int := 170141183460469231731687303715884105727

/-- Gives each constant its value: the one it states, or the one after the last constant's, from
`next` on. -/
def numberFrom (next : Int) : List (Name × Option Int) → List EnumConstant
  | [] => []
  | (name, stated) :: rest =>
    let value := stated.getD next
    ⟨name, value⟩ :: numberFrom (min (value + 1) maxValue) rest

/-- Gives constants their values, from zero on. -/
def number (constants : List (Name × Option Int)) : List EnumConstant := numberFrom 0 constants

end EnumConstant

/-- What a definition contains, in the order of declaration. -/
structure DefBody where
  members : List Member := []
  methods : List Method := []
  operators : List OperatorMethod := []
  /-- The class that is laid out before the members. -/
  base : Option TypeId := none
  interfaces : List TypeId := []
  constants : List EnumConstant := []
  /-- What represents an enumeration. -/
  indexType : Option TypeId := none
  deriving DecidableEq, Inhabited

namespace DefBody

/-- The types that a definition inherits from, in the order of search. -/
def supertypes (body : DefBody) : List TypeId := body.base.toList ++ body.interfaces

end DefBody

/-- A nominal definition. -/
structure TypeDef where
  id : DefId
  /-- Anonymous definitions have no name. -/
  name : Option Name
  kind : DefKind
  /-- The type that the definition introduces. -/
  type : TypeId
  /-- Where a source declares the definition. -/
  locator : Option ItemLocator := none
  /-- The template and arguments of which the definition is an instance. -/
  specialization : Option SpecializationKey := none
  body : Option DefBody := none
  deriving DecidableEq

/-- What is declared. -/
structure DefRequest where
  name : Option Name
  kind : DefKind
  locator : Option ItemLocator := none
  specialization : Option SpecializationKey := none

/-- The name under which a request is found later: that of what a source declares. Instances of
templates are found through their keys. -/
def DefRequest.indexName? (request : DefRequest) : Option Name :=
  if request.specialization.isNone then request.name else none

/-- The definitions by id, with nothing in place of the withdrawn ones, and the ids of those that
are found by name. -/
structure TypeRegistry where
  defs : Array (Option TypeDef) := #[]
  names : Std.HashMap Name DefId := {}

namespace TypeRegistry

/-- The id that the next definition gets. -/
def nextId (registry : TypeRegistry) : DefId := ⟨registry.defs.size⟩

/-- The live definition of an id. -/
def get? (registry : TypeRegistry) (id : DefId) : Option TypeDef :=
  (registry.defs[id.index]?).join

/-- The live definition of a name. -/
def findByName? (registry : TypeRegistry) (name : Name) : Option TypeDef :=
  (registry.names[name]?).bind registry.get?

/-- How many definitions are live. -/
def size (registry : TypeRegistry) : Nat := registry.defs.toList.countP Option.isSome

/-- Refuses a request for a name that is taken. -/
def checkName (registry : TypeRegistry) (request : DefRequest) : Except RegistryError Unit :=
  match request.indexName? with
  | none => .ok ()
  | some name => match registry.names[name]? with
    | some existing => .error (.duplicate name existing)
    | none => .ok ()

/-- Puts a new definition behind all others. -/
def push (registry : TypeRegistry) (request : DefRequest) (type : TypeId) :
    TypeDef × TypeRegistry :=
  let id := registry.nextId
  let entry : TypeDef := {
    id, type, name := request.name, kind := request.kind, locator := request.locator,
    specialization := request.specialization }
  let names := match request.indexName? with
    | some name => registry.names.insert name id
    | none => registry.names
  (entry, ⟨registry.defs.push (some entry), names⟩)

/-- Gives a live definition its body. -/
def define (registry : TypeRegistry) (id : DefId) (body : DefBody) :
    Except RegistryError TypeRegistry :=
  match registry.get? id with
  | none => .error (.unknownDef id)
  | some entry => match entry.body with
    | some _ => .error (.alreadyDefined id)
    | none => .ok { registry with
        defs := registry.defs.modify id.index fun _ => some { entry with body := some body } }

/-- Takes a live definition back. -/
def withdraw (registry : TypeRegistry) (id : DefId) : Except RegistryError TypeRegistry :=
  match registry.get? id with
  | none => .error (.unknownDef id)
  | some entry =>
    let names := match entry.name with
      | some name =>
        if registry.names[name]? = some id then registry.names.erase name else registry.names
      | none => registry.names
    .ok ⟨registry.defs.modify id.index fun _ => none, names⟩

end TypeRegistry

end FrontEnd
