import FrontEnd.Typing.Inheritance

/-!
Implicit conversions. A value is passed where another type is expected if no value is lost and no
qualifier is dropped: numbers widen, enumerations become their index type, a pointer to a class
becomes one to what the class inherits from, and an array becomes a slice.
-/

namespace FrontEnd

/-- How well an argument fits a parameter, the best first. -/
inductive Rank where
  | exact
  | conversion
  /-- The argument is one of those that a variadic parameter takes. -/
  | variadic
  deriving DecidableEq

/-- What an argument of a rank adds to the cost of a call. -/
def Rank.cost : Rank → Nat
  | .exact => 0
  | .conversion => 1
  | .variadic => 2

/-- The name of a rank. -/
def Rank.label : Rank → String
  | .exact => "Exact"
  | .conversion => "Conversion"
  | .variadic => "Variadic"

/-- Whether every integer of one width and sign is one of another, strictly wider one. -/
def widensInt (bits : Nat) (signed : Bool) (toBits : Nat) (toSigned : Bool) : Bool :=
  bits < toBits && (signed == toSigned || !signed)

namespace TypeContext

/-- Whether pointers may lead to a type's supertypes. -/
def isRecord (ctx : TypeContext) (ty : TypeId) : Except TypeError Bool := do
  match ← ctx.defOf ty with
  | some entry => return entry.kind == .classType || entry.kind == .struct
  | none => return false

/-- Whether a pointer to one type may become a pointer to another. -/
def targetConverts (ctx : TypeContext) (source target : TypeId) : Except TypeError Bool := do
  let (sourceBase, sourceQuals) := ctx.pool.split source
  let (targetBase, targetQuals) := ctx.pool.split target
  if !targetQuals.contains sourceQuals then return false
  if sourceBase = targetBase then return true
  if ← ctx.isRecord sourceBase then ctx.isSubtype sourceBase targetBase else return false

/-- Whether values of one unqualified type become values of another. -/
def converts (ctx : TypeContext) (source target : TypeId) : Except TypeError Bool := do
  let sourceForm ← ctx.pool.form source
  let targetForm ← ctx.pool.form target
  match sourceForm, targetForm with
  | .int bits signed, .int toBits toSigned => return widensInt bits signed toBits toSigned
  | .int .., .float _ => return true
  | .float bits, .float toBits => return bits < toBits
  | .nominal .enumeration _, _ =>
    match (← ctx.bodyOf source).bind (·.indexType) with
    | some index => return ctx.pool.unqualified index == target
    | none => return false
  | .pointer inner, .pointer toInner => ctx.targetConverts inner toInner
  | .array element _, .slice toElement =>
    let (base, quals) := ctx.pool.split element
    let (toBase, toQuals) := ctx.pool.split toElement
    return base == toBase && toQuals.contains quals
  | _, _ => return false

/-- How a value of one type fits where another is expected, if it does. -/
def conversion (ctx : TypeContext) (source target : TypeId) : Except TypeError (Option Rank) := do
  if source = target then return some .exact
  let (sourceBase, sourceQuals) := ctx.pool.split source
  let (targetBase, targetQuals) := ctx.pool.split target
  if !targetQuals.contains sourceQuals then return none
  if sourceBase = targetBase then return some .conversion
  if ← ctx.converts sourceBase targetBase then return some .conversion else return none

end TypeContext

end FrontEnd
