import FrontEnd.Typing.Context

/-!
Layouts: how many bytes the values of a type take, and to which addresses they are aligned. Members
follow each other in the order of declaration, each at the next multiple of its alignment. A type
that contains itself by value has no layout, and neither has one with a part that has none.

Sizes are kept in 64 bits and stop at the largest number that fits.
-/

namespace FrontEnd

/-- The sum of two sizes, or the largest size if it does not fit. -/
def sizeAdd (first second : UInt64) : UInt64 :=
  UInt64.ofNat (min (first.toNat + second.toNat) (UInt64.size - 1))

/-- So many times a size, or the largest size if it does not fit. -/
def sizeMul (size : UInt64) (count : Nat) : UInt64 :=
  UInt64.ofNat (min (size.toNat * count) (UInt64.size - 1))

/-- The next multiple of an alignment, which is a power of two. -/
def alignTo (offset align : UInt64) : UInt64 := sizeAdd offset (align - 1) &&& ~~~(align - 1)

namespace TypeLayout

/-- The layout of what has no parts. -/
def empty : TypeLayout := ⟨0, 1⟩

/-- A value that is aligned to its size. -/
def scalar (bytes : UInt64) : TypeLayout := ⟨bytes, bytes⟩

/-- The layout of a number of so many bits: whole bytes, and as many as a power of two. -/
def ofBits? (bits : Nat) : Option TypeLayout :=
  if bits ∈ [8, 16, 32, 64, 128] then some (scalar (UInt64.ofNat (bits / 8))) else none

/-- All members at the start, one over the other. -/
def overlay (parts : List TypeLayout) : TypeLayout :=
  let size := parts.foldl (fun size part => max size part.size) 0
  let align := parts.foldl (fun align part => max align part.align) 1
  ⟨alignTo size align, align⟩

end TypeLayout

/-- A layout with the offset of each member. -/
structure RecordLayout where
  layout : TypeLayout
  offsets : List UInt64
  deriving DecidableEq

namespace RecordLayout

/-- Puts members one behind the other, from an offset and an alignment on. -/
def place (offset align : UInt64) : List TypeLayout → RecordLayout
  | [] => ⟨⟨alignTo offset align, align⟩, []⟩
  | part :: rest =>
    let start := alignTo offset part.align
    let placed := place (sizeAdd start part.size) (max align part.align) rest
    { placed with offsets := start :: placed.offsets }

end RecordLayout

/-- A search for layouts, which may add to the layouts found so far. -/
abbrev LayoutM := ExceptT TypeError (StateM (Std.HashMap TypeId TypeLayout))

namespace TypeContext

/-- The layouts of the parts of a record: its base, if any, and its members. -/
def recordParts (body : DefBody) (layout : TypeId → LayoutM TypeLayout) :
    LayoutM RecordLayout := do
  let base ← match body.base with
    | some base => layout base
    | none => pure .empty
  let parts ← body.members.mapM fun member => layout member.type
  return .place base.size base.align parts

/-- The layout of a union. -/
def unionParts (body : DefBody) (layout : TypeId → LayoutM TypeLayout) : LayoutM TypeLayout := do
  return .overlay (← body.members.mapM fun member => layout member.type)

/-- The layout of a type from those of its parts. -/
def layoutStep (ctx : TypeContext) (ty : TypeId) (layout : TypeId → LayoutM TypeLayout) :
    LayoutM TypeLayout := do
  let pointer := ctx.config.pointerSize
  match ← ctx.pool.form ty with
  | .void => return .empty
  | .bool => return .scalar 1
  | .int bits _ | .float bits => match TypeLayout.ofBits? bits with
    | some layout => return layout
    | none => throw (.unsupportedWidth ty bits)
  | .pointer _ | .function .. => return .scalar pointer
  | .slice _ => return ⟨2 * pointer, pointer⟩
  | .array element length =>
    let element ← layout element
    return ⟨sizeMul element.size length, element.align⟩
  | .qualified base _ => layout base
  | .param .. | .error => throw (.incompleteType ty)
  | .nominal kind _ => match ← ctx.bodyOf ty with
    | none => throw (.incompleteType ty)
    | some body => match kind with
      | .enumeration => layout (body.indexType.getD .i32)
      | .interface => return ⟨2 * pointer, pointer⟩
      | .struct | .classType => return (← recordParts body layout).layout
      | .union => unionParts body layout

/-- The layout of a type inside of the types that are being laid out. No more types than the pool
holds lie inside of each other, so `depth` never runs out. -/
def layoutWithin (ctx : TypeContext) : (depth : Nat) → List TypeId → TypeId → LayoutM TypeLayout
  | 0, _, ty => throw (.infiniteSize ty)
  | depth + 1, outer, ty => do
    match (← get)[ty]? with
    | some layout => return layout
    | none =>
      if ty ∈ outer then throw (.infiniteSize ty)
      else
        let layout ← ctx.layoutStep ty (ctx.layoutWithin depth (ty :: outer))
        modify (·.insert ty layout)
        return layout

/-- Runs a search for layouts and keeps what it found. -/
def runLayout (ctx : TypeContext) (search : LayoutM α) : Except TypeError α × TypeContext :=
  let (result, layouts) := search.run.run ctx.layouts
  (result, { ctx with layouts })

/-- How many types can lie inside of each other. -/
def layoutDepth (ctx : TypeContext) : Nat := ctx.pool.size + 2

/-- Size and alignment of a type. -/
def layoutOf (ctx : TypeContext) (ty : TypeId) : Except TypeError TypeLayout × TypeContext :=
  ctx.runLayout (ctx.layoutWithin ctx.layoutDepth [] ty)

/-- The layout of a nominal type with the offsets of its members. Members of a union all start
at zero, and types of other kinds have none. -/
def recordLayoutOf (ctx : TypeContext) (ty : TypeId) :
    Except TypeError RecordLayout × TypeContext :=
  ctx.runLayout do
    match ← ctx.defOf ty with
    | none => throw (.incompleteType ty)
    | some entry => match entry.body with
      | none => throw (.incompleteType ty)
      | some body =>
        let inside := ctx.layoutWithin ctx.layoutDepth [ctx.pool.unqualified ty]
        match entry.kind with
        | .struct | .classType => recordParts body inside
        | .union => return ⟨← unionParts body inside, body.members.map fun _ => 0⟩
        | .enumeration | .interface =>
          return ⟨← ctx.layoutWithin ctx.layoutDepth [] ty, []⟩

end TypeContext

end FrontEnd
