import FrontEnd.Fault
import FrontEnd.Typing.Form
import Std.Data.HashMap

/-!
A pool of types that is spread over sixteen shards, so that several can be asked at once. The first
shard holds the primitive types and nothing else, which is why their ids are fixed; a hash picks
the shard of any other form. A type's id is the number of its shard and of its slot there.

The pool of `TypePool` is one table and so gives out other ids, but the types are the same.
-/

namespace FrontEnd

/-- The fixed type of a primitive form. -/
def TypeForm.primitive? : TypeForm → Option TypeId
  | .void => some .void
  | .bool => some .bool
  | .int 8 true => some ⟨2⟩
  | .int 16 true => some ⟨3⟩
  | .int 32 true => some .i32
  | .int 64 true => some ⟨5⟩
  | .int 8 false => some ⟨6⟩
  | .int 16 false => some ⟨7⟩
  | .int 32 false => some ⟨8⟩
  | .int 64 false => some ⟨9⟩
  | .float 32 => some ⟨10⟩
  | .float 64 => some ⟨11⟩
  | .error => some .error
  | _ => none

/-- One shard: its forms and flags by slot, and the slot of each form. -/
structure TypeShard where
  entries : Array (TypeForm × TypeFlags) := #[]
  slots : Std.HashMap TypeForm Nat := {}

namespace TypeShard

/-- The shard with a form in the next slot. -/
def push (shard : TypeShard) (form : TypeForm) (flags : TypeFlags) : TypeShard where
  entries := shard.entries.push (form, flags)
  slots := shard.slots.insert form shard.entries.size

/-- The shard of the primitive types. -/
def primitives : TypeShard :=
  TypeForm.primitives.foldl (fun shard form => shard.push form (.ofForm form [])) {}

end TypeShard

/-- Why a form gets no type. -/
inductive TypeInternError where
  /-- The shard that the form belongs to has no free slot. -/
  | shardFull (shard : Fin 16)
  deriving DecidableEq

instance : Fault TypeInternError where
  label
    | .shardFull _ => "ShardOverflow"
  message
    | .shardFull shard =>
      s!"type pool shard {shard.val} exceeded {TypeId.shardSize - 1} types"

/-- The types by shard. -/
structure ShardedPool where
  shards : Vector TypeShard 16

namespace ShardedPool

/-- The shard of a form that is not primitive. -/
def shardOf (hash : TypeForm → Nat) (form : TypeForm) : Fin 16 :=
  ⟨1 + hash form % 15, by omega⟩

/-- One of the shards. -/
def shard (pool : ShardedPool) (index : Fin 16) : TypeShard := pool.shards.get index

/-- What the slot of a type holds. -/
def content? (pool : ShardedPool) (ty : TypeId) : Option (TypeForm × TypeFlags) :=
  pool.shards[ty.shard]?.bind (·.entries[ty.slot]?)

/-- The form of a type of the pool. -/
def form? (pool : ShardedPool) (ty : TypeId) : Option TypeForm := (pool.content? ty).map Prod.fst

/-- The flags of a type. A type that is not in the pool counts as an error. -/
def flags (pool : ShardedPool) (ty : TypeId) : TypeFlags :=
  ((pool.content? ty).map Prod.snd).getD { hasError := true }

/-- The pool with a form at the end of a shard. -/
def push (pool : ShardedPool) (index : Fin 16) (form : TypeForm) : ShardedPool :=
  let flags := .ofForm form (form.children.map pool.flags)
  ⟨pool.shards.set index ((pool.shard index).push form flags) index.isLt⟩

/-- The type of a form, and the pool that holds it. There is none if the form is new and its shard
is full. -/
def intern (hash : TypeForm → Nat) (pool : ShardedPool) (form : TypeForm) :
    Except TypeInternError (TypeId × ShardedPool) :=
  match form.primitive? with
  | some ty => .ok (ty, pool)
  | none =>
    let index := shardOf hash form
    match (pool.shard index).slots[form]? with
    | some slot => .ok (.ofShard index slot, pool)
    | none =>
      let slot := (pool.shard index).entries.size
      if slot < TypeId.shardSize then .ok (.ofShard index slot, pool.push index form)
      else .error (.shardFull index)

/-- The pool of the primitive types. -/
def new : ShardedPool := ⟨Vector.ofFn fun index => if index = 0 then .primitives else {}⟩

/-- The type without its qualifiers, and the qualifiers. -/
def split (pool : ShardedPool) (ty : TypeId) : TypeId × Qualifiers :=
  if (pool.flags ty).isQualified then
    match pool.form? ty with
    | some (.qualified base quals) => (base, quals)
    | _ => (ty, .empty)
  else (ty, .empty)

/-- The type with further qualifiers. -/
def qualified (hash : TypeForm → Nat) (pool : ShardedPool) (ty : TypeId) (quals : Qualifiers) :
    Except TypeInternError (TypeId × ShardedPool) :=
  let (base, own) := pool.split ty
  let merged := own.union quals
  if merged.isEmpty then .ok (base, pool) else pool.intern hash (.qualified base merged)

end ShardedPool

end FrontEnd
