import FrontEnd.Fault
import FrontEnd.Item.Operator
import FrontEnd.Name.Basic
import FrontEnd.Typing.Argument

/-!
Why questions about types are refused. The wordings here use ids; reports spell types and names
out.
-/

namespace FrontEnd

/-- Why the registry of definitions refuses. -/
inductive RegistryError where
  | duplicate (name : Name) (existing : DefId)
  | alreadyDefined (id : DefId)
  | unknownDef (id : DefId)
  deriving DecidableEq

/-- The wording of a registry error, with the name as given. -/
def RegistryError.wording (name : Name → String) : RegistryError → String
  | .duplicate dup existing => s!"a type named {name dup} is already defined as {existing.dump}"
  | .alreadyDefined id => s!"{id.dump} already has a body"
  | .unknownDef id => s!"unknown {id.dump}"

instance : Fault RegistryError where
  label
    | .duplicate .. => "Duplicate"
    | .alreadyDefined _ => "AlreadyDefined"
    | .unknownDef _ => "UnknownDef"
  message := RegistryError.wording Name.dump

/-- Why a template is not registered. -/
inductive TemplateDefError where
  /-- A parameter without a default follows one that has a default. -/
  | defaultNotTrailing (index : Nat)
  /-- A default is not of the sort that its parameter asks for. -/
  | defaultSort (index : Nat) (expected found : ArgumentSort)
  deriving DecidableEq

instance : Fault TemplateDefError where
  label
    | .defaultNotTrailing _ => "DefaultNotTrailing"
    | .defaultSort .. => "DefaultKind"
  message
    | .defaultNotTrailing index =>
      s!"parameter {index} has no default but follows one that does"
    | .defaultSort index expected found =>
      s!"default for parameter {index} is a {found.word}, expected a {expected.word}"

/-- Why a question about types has no answer. -/
inductive TypeError where
  /-- The type has no such member. The names that were considered are listed in search order. -/
  | memberNotFound (ty : TypeId) (name : Name) (candidates : List Name)
  | operatorNotFound (ty : TypeId) (op : Operator)
  /-- Several candidates are equally good. -/
  | ambiguousCall (name : Name) (candidates : List TypeId)
  | noMatchingOverload (name : Name) (arguments candidates : List TypeId)
  /-- Specializations are nested too deeply. Those in progress are listed outermost first, the
  refused one last. -/
  | recursionLimitExceeded (limit : Nat) (chain : List SpecializationKey)
  | templateArityMismatch (template : TemplateId) (least most found : Nat)
  | templateArgumentMismatch (template : TemplateId) (index : Nat) (expected found : ArgumentSort)
  /-- A template uses a parameter as what it is not. -/
  | badParamReference (template : TemplateId) (index : Nat) (expected : ArgumentSort)
  | unknownTemplate (template : TemplateId)
  | notATypeTemplate (template : TemplateId)
  | notAFunctionTemplate (template : TemplateId)
  /-- The size of the type is not known. -/
  | incompleteType (ty : TypeId)
  /-- The type contains itself by value. -/
  | infiniteSize (ty : TypeId)
  | unsupportedWidth (ty : TypeId) (bits : Nat)
  | registry (cause : RegistryError)
  /-- The id is not one of the pool's. -/
  | foreignType (ty : TypeId)
  deriving DecidableEq

namespace TypeError

/-- The wording of a type error, with types and names as given. -/
def wording (type : TypeId → String) (name : Name → String) : TypeError → String
  | .memberNotFound ty member _ => s!"no member {name member} on {type ty}"
  | .operatorNotFound ty op => s!"no operator {op.label} on {type ty}"
  | .ambiguousCall callee candidates =>
    s!"call to {name callee} is ambiguous between {candidates.length} candidates"
  | .noMatchingOverload callee arguments _ =>
    s!"no overload of {name callee} accepts {arguments.length} arguments"
  | .recursionLimitExceeded limit _ => s!"template recursion limit of {limit} exceeded"
  | .templateArityMismatch template least most found =>
    s!"{template.dump} takes {least}..={most} arguments, found {found}"
  | .templateArgumentMismatch template index expected found =>
    s!"argument {index} of {template.dump} is a {found.word}, expected a {expected.word}"
  | .badParamReference template index expected =>
    s!"{template.dump} uses parameter {index} as a {expected.word}"
  | .unknownTemplate template => s!"unknown {template.dump}"
  | .notATypeTemplate template => s!"{template.dump} does not produce a type"
  | .notAFunctionTemplate template => s!"{template.dump} is not a function template"
  | .incompleteType ty => s!"{type ty} has no layout yet"
  | .infiniteSize ty => s!"{type ty} contains itself by value"
  | .unsupportedWidth ty bits =>
    s!"{type ty} is {bits} bits wide, which is not a whole power-of-two number of bytes"
  | .registry cause => cause.wording name
  | .foreignType ty => s!"{type ty} does not belong to this type pool"

instance : Fault TypeError where
  label
    | .memberNotFound .. => "MemberNotFound"
    | .operatorNotFound .. => "OperatorNotFound"
    | .ambiguousCall .. => "AmbiguousCall"
    | .noMatchingOverload .. => "NoMatchingOverload"
    | .recursionLimitExceeded .. => "RecursionLimitExceeded"
    | .templateArityMismatch .. => "TemplateArityMismatch"
    | .templateArgumentMismatch .. => "TemplateArgumentMismatch"
    | .badParamReference .. => "BadParamReference"
    | .unknownTemplate _ => "UnknownTemplate"
    | .notATypeTemplate _ => "NotATypeTemplate"
    | .notAFunctionTemplate _ => "NotAFunctionTemplate"
    | .incompleteType _ => "IncompleteType"
    | .infiniteSize _ => "InfiniteSize"
    | .unsupportedWidth .. => "UnsupportedWidth"
    | .registry _ => "Registry"
    | .foreignType _ => "ForeignType"
  message := wording TypeId.dump Name.dump
  isMisuse
    | .foreignType _ => true
    | _ => false

end TypeError

end FrontEnd
