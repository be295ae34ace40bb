import FrontEnd.Typing.Error
import Std.Data.HashMap

/-!
The pool of types. Each form is given one id, so that two types are the same exactly if their ids
are. Types are only ever added, and the flags of a type are found when it is added.

Qualification is kept canonical: a qualified type has at least one qualifier, and its base has
none.
-/

namespace FrontEnd

/-- The forms and flags of types by id, and the id of each form. -/
structure TypePool where
  entries : Array (TypeForm × TypeFlags) := #[]
  ids : Std.HashMap TypeForm TypeId := {}

namespace TypePool

def size (pool : TypePool) : Nat := pool.entries.size

/-- The form of a type of the pool. -/
def form? (pool : TypePool) (ty : TypeId) : Option TypeForm :=
  (pool.entries[ty.index]?).map Prod.fst

/-- The form of a type, which has to be one of the pool's. -/
def form (pool : TypePool) (ty : TypeId) : Except TypeError TypeForm :=
  match pool.form? ty with
  | some form => .ok form
  | none => .error (.foreignType ty)

/-- The flags of a type. A type that is not in the pool counts as an error. -/
def flags (pool : TypePool) (ty : TypeId) : TypeFlags :=
  ((pool.entries[ty.index]?).map Prod.snd).getD { hasError := true }

/-- The pool with a form at the end. -/
def push (pool : TypePool) (form : TypeForm) : TypePool where
  entries := pool.entries.push (form, .ofForm form (form.children.map pool.flags))
  ids := pool.ids.insert form ⟨pool.entries.size⟩

/-- The type of a form, and the pool that holds it. -/
def intern (pool : TypePool) (form : TypeForm) : TypeId × TypePool :=
  match pool.ids[form]? with
  | some ty => (ty, pool)
  | none => (⟨pool.entries.size⟩, pool.push form)

/-- The pool of the primitive types. -/
def new : TypePool := TypeForm.primitives.foldl push {}

instance : Inhabited TypePool := ⟨new⟩

/-- The type without its qualifiers, and the qualifiers. -/
def split (pool : TypePool) (ty : TypeId) : TypeId × Qualifiers :=
  if (pool.flags ty).isQualified then
    match pool.form? ty with
    | some (.qualified base quals) => (base, quals)
    | _ => (ty, .empty)
  else (ty, .empty)

def unqualified (pool : TypePool) (ty : TypeId) : TypeId := (pool.split ty).1

def qualifiers (pool : TypePool) (ty : TypeId) : Qualifiers := (pool.split ty).2

/-- The type with further qualifiers. -/
def qualified (pool : TypePool) (ty : TypeId) (quals : Qualifiers) : TypeId × TypePool :=
  let (base, own) := pool.split ty
  let merged := own.union quals
  if merged.isEmpty then (base, pool) else pool.intern (.qualified base merged)

end TypePool

end FrontEnd
