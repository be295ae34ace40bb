import FrontEnd.Typing.Conversion

/-!
Overload resolution. A candidate is viable if every argument fits; its cost is the sum of the costs
of its arguments. The cheapest viable candidate is called, if it is the only one of its cost.
-/

namespace FrontEnd

/-- A viable candidate: its place in the list, its signature and how each argument fits. -/
structure OverloadMatch where
  index : Nat
  signature : TypeId
  ranks : List Rank
  deriving DecidableEq

def OverloadMatch.cost (found : OverloadMatch) : Nat :=
  found.ranks.foldl (fun sum rank => sum + rank.cost) 0

/-- A resolved method call: the type that declares the method, and the place of the method in it. -/
structure MethodMatch where
  owner : TypeId
  method : Nat
  overload : OverloadMatch
  deriving DecidableEq

namespace TypeContext

/-- How each argument fits its parameter, if all do. -/
def rankFixed (ctx : TypeContext) :
    List TypeId → List TypeId → Except TypeError (Option (List Rank))
  | argument :: arguments, parameter :: parameters => do
    match ← ctx.conversion argument parameter with
    | none => return none
    | some rank => return (← ctx.rankFixed arguments parameters).map (rank :: ·)
  | _, _ => return some []

/-- The ranks of the arguments that a variadic parameter takes, if all fit its elements. -/
def rankVariadic (ctx : TypeContext) (element : TypeId) :
    List TypeId → Except TypeError (Option (List Rank))
  | [] => return some []
  | argument :: arguments => do
    match ← ctx.conversion argument element with
    | none => return none
    | some _ => return (← ctx.rankVariadic element arguments).map (.variadic :: ·)

/-- The type of the arguments that the last parameter takes, if it is variadic and a slice. -/
def variadicElement? (ctx : TypeContext) (parameters : List TypeId) (variadic : Bool) :
    Except TypeError (Option TypeId) := do
  match parameters.getLast? with
  | some last =>
    if variadic then
      match ← ctx.pool.form (ctx.pool.unqualified last) with
      | .slice element => return some element
      | _ => return none
    else return none
  | none => return none

/-- How each argument fits a candidate, if the candidate is viable. -/
def rankCandidate (ctx : TypeContext) (signature : TypeId) (arguments : List TypeId) :
    Except TypeError (Option (List Rank)) := do
  match ← ctx.pool.form signature with
  | .function parameters _ variadic =>
    match ← ctx.variadicElement? parameters variadic with
    | none =>
      if arguments.length ≠ parameters.length then return none
      ctx.rankFixed arguments parameters
    | some element =>
      let fixed := parameters.dropLast
      if arguments.length < fixed.length then return none
      match ← ctx.rankFixed (arguments.take fixed.length) fixed with
      | none => return none
      | some ranks =>
        return (← ctx.rankVariadic element (arguments.drop fixed.length)).map (ranks ++ ·)
  | _ => return none

/-- The viable candidates in the order of the list, whose first has the given place. -/
def viableFrom (ctx : TypeContext) (index : Nat) (arguments : List TypeId) :
    List TypeId → Except TypeError (List OverloadMatch)
  | [] => return []
  | signature :: rest => do
    let ranks ← ctx.rankCandidate signature arguments
    let others ← ctx.viableFrom (index + 1) arguments rest
    return (ranks.map (OverloadMatch.mk index signature)).toList ++ others

/-- The candidate to call. -/
def resolveOverload (ctx : TypeContext) (name : Name) (candidates arguments : List TypeId) :
    Except TypeError OverloadMatch := do
  let viable ← ctx.viableFrom 0 arguments candidates
  match (viable.map OverloadMatch.cost).min? with
  | none => throw (.noMatchingOverload name arguments candidates)
  | some best => match viable.filter (·.cost == best) with
    | [winner] => return winner
    | tied => throw (.ambiguousCall name (tied.map (·.signature)))

/-- The methods of a name in a body, with their places. -/
def methodsNamed (body : DefBody) (name : Name) : List (Nat × Method) :=
  (body.methods.zipIdx.filter fun (method, _) => method.name == name).map fun (method, index) =>
    (index, method)

/-- The method that a call on a receiver means. The first type in the order of search that has
methods of the name hides those of all others. -/
def resolveMethodCall (ctx : TypeContext) (receiver : TypeId) (name : Name)
    (arguments : List TypeId) : Except TypeError MethodMatch := do
  let bodies ← ctx.bodiesInOrder receiver
  match bodies.find? fun (_, body) => methodsNamed body name ≠ [] with
  | none =>
    let names := bodies.map fun (_, body) => body.methods.map (·.name)
    throw (.memberNotFound receiver name (names.foldl addNames []))
  | some (owner, body) =>
    let methods := methodsNamed body name
    let overload ← ctx.resolveOverload name (methods.map (·.2.signature)) arguments
    return ⟨owner, ((methods[overload.index]?).map Prod.fst).getD 0, overload⟩

end TypeContext

end FrontEnd
