/-!
Type ids. Types are compared by id and never by structure. The ids of the primitive types are
fixed; all others are given out in the order in which types are first seen.
-/

namespace FrontEnd

/-- The number of a type. -/
structure TypeId where
  index : Nat
  deriving DecidableEq, Hashable, Inhabited

namespace TypeId

def void : TypeId := ⟨0⟩

def bool : TypeId := ⟨1⟩

/-- The 32-bit signed integers, which represent enumerations that do not say otherwise. -/
def i32 : TypeId := ⟨4⟩

/-- The type of what has no type. -/
def error : TypeId := ⟨12⟩

/-- The names of the primitive types in the order of their ids. The last is the error type. -/
def primitiveNames : List String :=
  ["void", "bool", "i8", "i16", "i32", "i64", "u8", "u16", "u32", "u64", "f32", "f64", "<error>"]

/-- How many types are primitive. -/
def primitiveCount : Nat := 13

def isPrimitive (ty : TypeId) : Bool := ty.index < primitiveCount

def isError (ty : TypeId) : Bool := ty == error

/-- The name of a primitive type. -/
def primitiveName? (ty : TypeId) : Option String := primitiveNames[ty.index]?

/-- The primitive type that a source can name. The error type has no such name. -/
def ofPrimitiveName? (name : String) : Option TypeId :=
  (primitiveNames.dropLast.findIdx? (· == name)).map TypeId.mk

/-- What a source can name so is a primitive type. -/
theorem lt_primitiveCount_of_ofPrimitiveName? {name : String} {ty : TypeId}
    (named : ofPrimitiveName? name = some ty) : ty.index < primitiveCount := by
  obtain ⟨index, found, rfl⟩ := Option.map_eq_some_iff.1 named
  exact Nat.lt_of_lt_of_le (List.findIdx?_eq_some_iff_getElem.1 found).1 (by decide)

/-- How many numbers the lower 28 of 32 bits hold. -/
def shardSize : Nat := 268435456

/-- The upper four of 32 bits. -/
def shard (ty : TypeId) : Nat := ty.index / shardSize

/-- The lower 28 of 32 bits. -/
def slot (ty : TypeId) : Nat := ty.index % shardSize

/-- The id with given upper and lower bits. -/
def ofShard (shard slot : Nat) : TypeId := ⟨shard * shardSize + slot⟩

/-- A type id as dumps show it. -/
def dump (ty : TypeId) : String :=
  match ty.primitiveName? with
  | some name => s!"Idx({name})"
  | none => s!"Idx({ty.shard}:{ty.slot})"

end TypeId

end FrontEnd
