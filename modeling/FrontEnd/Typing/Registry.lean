import FrontEnd.Typing.Definition
import FrontEnd.Typing.Shards

/-!
The registry of definitions with the pool that gives each definition its type. Calls change both in
place, so that a call which is refused may have written already. Ids have 32 bits. The type of a
definition is interned before anything is entered; when there is no room for it, the call does not
return and enters nothing.
-/

namespace FrontEnd

/-- The last id. -/
def DefId.last : DefId := ⟨4294967295⟩

/-- Why a call has no result. -/
inductive RegistryStop where
  | refused (cause : RegistryError)
  /-- The call does not return, because there is no room for a type. -/
  | full (cause : TypeInternError)
  deriving DecidableEq

/-- Puts a body into the place for it, which is filled once. -/
def TypeDef.fill (entry : TypeDef) (body : DefBody) : Bool × TypeDef :=
  match entry.body with
  | none => (true, { entry with body := some body })
  | some _ => (false, entry)

/-- The definitions and their types. -/
structure SharedRegistry where
  registry : TypeRegistry := {}
  pool : ShardedPool := .new

namespace SharedRegistry

/-- The id of the next definition. Where the bits do not suffice it is the last id once more. -/
def freshId (shared : SharedRegistry) : DefId :=
  ⟨min shared.registry.defs.size DefId.last.index⟩

/-- Declares a definition without a body. -/
def declare (hash : TypeForm → Nat) (shared : SharedRegistry) (request : DefRequest) :
    Except RegistryStop TypeDef × SharedRegistry :=
  match shared.registry.checkName request with
  | .error err => (.error (.refused err), shared)
  | .ok () =>
    let id := shared.freshId
    match shared.pool.intern hash (.nominal request.kind id) with
    | .error err => (.error (.full err), shared)
    | .ok (type, pool) =>
      let entry : TypeDef := {
        id, type, name := request.name, kind := request.kind, locator := request.locator,
        specialization := request.specialization }
      let names := match request.indexName? with
        | some name => shared.registry.names.insert name id
        | none => shared.registry.names
      (.ok entry, ⟨⟨shared.registry.defs.push (some entry), names⟩, pool⟩)

/-- Gives a definition its body. -/
def define (shared : SharedRegistry) (id : DefId) (body : DefBody) :
    Except RegistryStop Unit × SharedRegistry :=
  match shared.registry.get? id with
  | none => (.error (.refused (.unknownDef id)), shared)
  | some entry =>
    let (taken, filled) := entry.fill body
    let defs := shared.registry.defs.modify id.index fun _ => some filled
    (if taken then .ok () else .error (.refused (.alreadyDefined id)),
      { shared with registry := { shared.registry with defs } })

/-- Takes a definition back. Its place is emptied before it is known whether it was empty. -/
def withdraw (shared : SharedRegistry) (id : DefId) :
    Except RegistryStop Unit × SharedRegistry :=
  match shared.registry.defs[id.index]? with
  | none => (.error (.refused (.unknownDef id)), shared)
  | some place =>
    let defs := shared.registry.defs.modify id.index fun _ => none
    match place with
    | none =>
      (.error (.refused (.unknownDef id)),
        { shared with registry := { shared.registry with defs } })
    | some entry =>
      let names := match entry.name with
        | some name =>
          if shared.registry.names[name]? = some id then shared.registry.names.erase name
          else shared.registry.names
        | none => shared.registry.names
      (.ok (), { shared with registry := ⟨defs, names⟩ })

/-- Interns a form for some other purpose. -/
def intern (hash : TypeForm → Nat) (shared : SharedRegistry) (form : TypeForm) :
    Except RegistryStop TypeId × SharedRegistry :=
  match shared.pool.intern hash form with
  | .error err => (.error (.full err), shared)
  | .ok (ty, pool) => (.ok ty, { shared with pool })

end SharedRegistry

end FrontEnd
