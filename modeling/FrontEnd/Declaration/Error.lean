import FrontEnd.Spelling.Basic
import FrontEnd.Typing.Report

/-!
What is wrong with declarations.
-/

namespace FrontEnd

/-- Definitions that cannot be templates. -/
inductive TemplateSubject where
  | interfaces | enumerations | valuesAndMethods
  deriving DecidableEq

/-- The words for such definitions. -/
def TemplateSubject.text : TemplateSubject → String
  | .interfaces => "interfaces"
  | .enumerations => "enumerations"
  | .valuesAndMethods => "variables and methods"

/-- Why a declaration is refused, or a part of it is taken for an error. -/
inductive DeclareError where
  | unknownType (spelling : String)
  /-- The text spells no type. -/
  | malformed (spelling : String) (cause : SpellingError)
  /-- What needs a type has none. -/
  | missingType (name : String)
  | unsupportedTemplate (subject : TemplateSubject)
  /-- A type has arguments. -/
  | notATemplate (name : String)
  /-- A constant is no integer. -/
  | constantValue (name : String)
  | duplicate (name : Name)
  | template (cause : TemplateDefError)
  | type (cause : TypeError)
  deriving DecidableEq

instance : Fault DeclareError where
  label
    | .unknownType _ => "UnknownType"
    | .malformed .. => "Malformed"
    | .missingType _ => "MissingType"
    | .unsupportedTemplate _ => "UnsupportedTemplate"
    | .notATemplate _ => "NotATemplate"
    | .constantValue _ => "ConstantValue"
    | .duplicate _ => "Duplicate"
    | .template cause => Fault.label cause
    | .type cause => Fault.label cause
  message
    | .unknownType spelling => s!"unknown type `{spelling}`"
    | .malformed spelling cause =>
      s!"`{spelling}` is not a valid type: " ++ Fault.message cause
    | .missingType name => s!"`{name}` has no declared type"
    | .unsupportedTemplate subject => s!"{subject.text} cannot be templates"
    | .notATemplate name => s!"`{name}` is not a template"
    | .constantValue name => s!"value of `{name}` must be an integer literal"
    | .duplicate name => s!"{name.dump} is defined more than once"
    | .template cause => Fault.message cause
    | .type cause => Fault.message cause

namespace DeclareError

/-- The code under which an error is reported. -/
def code : DeclareError → ErrorCode
  | .unknownType _ | .malformed .. | .missingType _ | .notATemplate _ => .unknownType
  | .duplicate _ => .duplicateDefinition
  | .constantValue _ => .unexpectedToken
  | .template _ | .unsupportedTemplate _ => .argumentSort
  | .type cause => cause.code

/-- The report of an error at a place. -/
def report (err : DeclareError) (ctx : TypeContext) (names : Interner) (source : SourceId)
    (span : TokenSpan) : Diagnostic :=
  match err with
  | .type cause => ctx.report names cause source span
  | .duplicate name =>
    (Diagnostic.error err.code s!"`{names.textOf name}` is defined more than once").withLabel
      source span "redefined here"
  | .unknownType _ =>
    (Diagnostic.error err.code (Fault.message err)).withLabel source span
      "not found in this module or its imports"
  | _ =>
    (Diagnostic.error err.code (Fault.message err)).withLabel source span "in this declaration"

end DeclareError

end FrontEnd
