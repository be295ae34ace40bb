import FrontEnd.Typing.Context

/-!
Inheritance: which types a type takes members from, and in which order they are searched. The
search goes depth first, a base class before the interfaces, and comes to each type once, whatever
cycles and diamonds the definitions form.
-/

namespace FrontEnd

/-- Where a member was found. -/
inductive MemberRef where
  | field (owner : TypeId) (index : Nat) (type : TypeId)
  | method (owner : TypeId) (index : Nat) (signature : TypeId)
  deriving DecidableEq

/-- Where an operator was found. -/
structure OperatorRef where
  owner : TypeId
  index : Nat
  signature : TypeId
  deriving DecidableEq

namespace TypeContext

/-- The types that a type inherits from at once, without their qualifiers. -/
def supertypes (ctx : TypeContext) (ty : TypeId) : List TypeId :=
  match ctx.bodyOf ty with
  | .ok (some body) => body.supertypes.map ctx.pool.unqualified
  | _ => []

/-- Adds a type and what it inherits from to the types found so far. A path of inheritance meets
no type twice, so `depth` never runs out. -/
def searchFrom (ctx : TypeContext) : (depth : Nat) → List TypeId → TypeId → List TypeId
  | 0, found, _ => found
  | depth + 1, found, ty =>
    if ty ∈ found then found
    else (ctx.supertypes ty).foldl (ctx.searchFrom depth) (found ++ [ty])

/-- A type and all that it inherits from, in the order of search. Qualifiers do not count. -/
def searchOrder (ctx : TypeContext) (ty : TypeId) : List TypeId :=
  ctx.searchFrom (ctx.pool.size + 2) [] (ctx.pool.unqualified ty)

/-- The order of search, in which every type has to be one of the pool's. -/
def knownOrder (ctx : TypeContext) (ty : TypeId) : Except TypeError (List TypeId) :=
  let order := ctx.searchOrder ty
  match order.find? fun found => (ctx.pool.form? found).isNone with
  | some foreign => .error (.foreignType foreign)
  | none => .ok order

/-- The types in the order of search that have a body, with their bodies. -/
def bodiesInOrder (ctx : TypeContext) (ty : TypeId) :
    Except TypeError (List (TypeId × DefBody)) := do
  let order ← ctx.knownOrder ty
  let bodies ← order.mapM fun owner => return (owner, ← ctx.bodyOf owner)
  return bodies.filterMap fun (owner, body) => body.map (owner, ·)

/-- Whether a type is another or inherits from it. Qualifiers do not count. -/
def isSubtype (ctx : TypeContext) (ty target : TypeId) : Except TypeError Bool := do
  return (← ctx.knownOrder ty).contains (ctx.pool.unqualified target)

/-- Appends the names that are not there yet. -/
def addNames (known : List Name) (names : List Name) : List Name :=
  names.foldl (fun known name => if name ∈ known then known else known ++ [name]) known

/-- The first declaration of a name in a body: a field before a method. -/
def ownMember? (owner : TypeId) (body : DefBody) (name : Name) : Option MemberRef :=
  match body.members.findIdx? (·.name == name) with
  | some index => (body.members[index]?).map fun member => .field owner index member.type
  | none => (body.methods.findIdx? (·.name == name)).bind fun index =>
    (body.methods[index]?).map fun method => .method owner index method.signature

/-- The member that the first type in the order of search declares. -/
def lookupMember (ctx : TypeContext) (ty : TypeId) (name : Name) :
    Except TypeError MemberRef := do
  let bodies ← ctx.bodiesInOrder ty
  match bodies.findSome? fun (owner, body) => ownMember? owner body name with
  | some found => return found
  | none =>
    let names := bodies.map fun (_, body) =>
      body.members.map (·.name) ++ body.methods.map (·.name)
    throw (.memberNotFound ty name (names.foldl addNames []))

/-- The first declaration of an operator in a body. -/
def ownOperator? (owner : TypeId) (body : DefBody) (op : Operator) : Option OperatorRef :=
  (body.operators.findIdx? (·.op == op)).bind fun index =>
    (body.operators[index]?).map fun method => ⟨owner, index, method.signature⟩

/-- The operator that the first type in the order of search declares. -/
def lookupOperator (ctx : TypeContext) (ty : TypeId) (op : Operator) :
    Except TypeError OperatorRef := do
  let bodies ← ctx.bodiesInOrder ty
  match bodies.findSome? fun (owner, body) => ownOperator? owner body op with
  | some found => return found
  | none => throw (.operatorNotFound ty op)

end TypeContext

end FrontEnd
