import FrontEnd.Declaration.Pass
import FrontEnd.Proofs.Outcome

/-!
Readings of spellings. A reading says what names mean, where some of them may stand for the arguments
of a template. With no such names, reading is what the declaration pass does outside of templates;
with them, it says what the body of a template stands for once its parameters are given.
-/

namespace FrontEnd

/-- What names mean where a spelling stands. -/
structure Reading where
  /-- The argument that a name stands for. Such names come before all others. -/
  argument? : String → Option TemplateArgument
  /-- What other names mean, primitive types aside. -/
  lookup? : String → Option ScopeEntry
  /-- The template that a name means when it is an argument itself. -/
  template? : String → Option TemplateId

/-- The template that a name means when it is an argument itself. -/
def Scope.template? (scope : Scope) (name : String) : Option TemplateId :=
  match scope.lookup? name with
  | some (.template id) => some id
  | _ => none

namespace Reading

/-- What names mean outside of templates. -/
def ofScope (scope : Scope) : Reading where
  argument? _ := none
  lookup? := scope.lookup?
  template? := scope.template?

section Resolving

variable (reading : Reading)

/-- The type that a name means, where `arguments` gives those of a template. -/
def resolveName (name : String) (isBare : Bool) (arguments : ResolveM (List TemplateArgument)) :
    ResolveM TypeId :=
  match reading.lookup? name with
  | some (.type ty) => if isBare then return ty else throw (.notATemplate name)
  | some (.template id) => do Scope.specialize id (← arguments)
  | none => throw (.unknownType name)

/-- The argument that a spelling means if it is a bare name for one. -/
def bare? : Spelling → Option TemplateArgument
  | .named name => (reading.argument? name).or ((reading.template? name).map .template)
  | _ => none

/-- The length of an array that an argument gives. -/
def length? (name : String) : Option Nat :=
  match reading.argument? name with
  | some (.value (.int value)) => if 0 ≤ value ∧ value < UInt64.size then some value.toNat else none
  | _ => none

mutual

/-- The type that a spelling means. -/
def resolve : Spelling → ResolveM TypeId
  | .pointer target => do Scope.intern (.pointer (← resolve target))
  | .slice element => do Scope.intern (.slice (← resolve element))
  | .array element (.literal length) => do Scope.intern (.array (← resolve element) length)
  | .array element (.parameter name) => match reading.length? name with
    | some length => do Scope.intern (.array (← resolve element) length)
    | none => throw (.unknownType name)
  | .qualified base quals => do Scope.qualified (← resolve base) quals
  | .named name => match reading.argument? name with
    | some (.type ty) => return ty
    | some _ => throw (.unknownType name)
    | none => match TypeId.ofPrimitiveName? name with
      | some ty => return ty
      | none => reading.resolveName name true (return [])
  | .applied name arguments => match reading.argument? name with
    | some (.template id) => do Scope.specialize id (← resolveArguments arguments)
    | some _ => throw (.notATemplate name)
    | none => reading.resolveName name false (resolveArguments arguments)

/-- The argument that a spelling means. -/
def resolveArgument : SpelledArgument → ResolveM TemplateArgument
  | .int value => return .value (.int value)
  | .bool value => return .value (.bool value)
  | .type spelling => match reading.bare? spelling with
    | some argument => return argument
    | none => do return .type (← resolve spelling)

def resolveArguments : List SpelledArgument → ResolveM (List TemplateArgument)
  | [] => return []
  | argument :: rest => do
    let argument ← resolveArgument argument
    return argument :: (← resolveArguments rest)

end

/-- The type that a text spells. -/
def resolveText (text : String) : ResolveM TypeId :=
  match Spelling.ofText text with
  | .ok spelling => reading.resolve spelling
  | .error cause => throw (.malformed text cause)

end Resolving

/-! ### Outside of templates -/

section Scope

variable (scope : FrontEnd.Scope)

private theorem bare?_ofScope (spelling : Spelling) :
    (ofScope scope).bare? spelling = (scope.bareTemplate? spelling).map .template := by
  cases spelling with
  | named name => rfl
  | _ => rfl

mutual

/-- Reading in a scope is resolving. -/
theorem resolve_ofScope : (spelling : Spelling) →
    (ofScope scope).resolve spelling = scope.resolve spelling
  | .pointer target => by rw [resolve, Scope.resolve, resolve_ofScope target]
  | .slice element => by rw [resolve, Scope.resolve, resolve_ofScope element]
  | .array element (.literal length) => by rw [resolve, Scope.resolve, resolve_ofScope element]
  | .array element (.parameter name) => by rw [resolve, Scope.resolve]; rfl
  | .qualified base quals => by rw [resolve, Scope.resolve, resolve_ofScope base]
  | .named name => by
    rw [resolve, Scope.resolve]
    cases TypeId.ofPrimitiveName? name <;> rfl
  | .applied name arguments => by
    rw [resolve, Scope.resolve, resolveArguments_ofScope arguments]
    rfl

theorem resolveArgument_ofScope : (argument : SpelledArgument) →
    (ofScope scope).resolveArgument argument = scope.resolveArgument argument
  | .int value => by rw [resolveArgument, Scope.resolveArgument]
  | .bool value => by rw [resolveArgument, Scope.resolveArgument]
  | .type spelling => by
    rw [resolveArgument, Scope.resolveArgument, bare?_ofScope, resolve_ofScope spelling]
    cases scope.bareTemplate? spelling <;> rfl

theorem resolveArguments_ofScope : (arguments : List SpelledArgument) →
    (ofScope scope).resolveArguments arguments = scope.resolveArguments arguments
  | [] => by rw [resolveArguments, Scope.resolveArguments]
  | argument :: rest => by
    rw [resolveArguments, Scope.resolveArguments, resolveArgument_ofScope argument,
      resolveArguments_ofScope rest]

end

theorem resolveText_ofScope (text : String) :
    (ofScope scope).resolveText text = scope.resolveText text := by
  unfold resolveText Scope.resolveText
  cases Spelling.ofText text with
  | ok spelling => exact resolve_ofScope scope spelling
  | error cause => rfl

end Scope

end Reading

end FrontEnd
