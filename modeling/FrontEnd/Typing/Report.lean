import FrontEnd.Diagnostic.Basic
import FrontEnd.Typing.Text

/-!
Type errors as diagnostics, with types and names spelled out.
-/

namespace FrontEnd

namespace TypeError

/-- The code under which an error is reported. -/
def code : TypeError → ErrorCode
  | .memberNotFound .. | .operatorNotFound .. => .memberNotFound
  | .ambiguousCall .. => .ambiguousCall
  | .noMatchingOverload .. => .noMatchingOverload
  | .recursionLimitExceeded .. => .recursionLimit
  | .templateArityMismatch .. => .argumentCount
  | .templateArgumentMismatch .. | .badParamReference .. | .notATypeTemplate _
  | .notAFunctionTemplate _ => .argumentSort
  | .unknownTemplate _ => .unknownType
  | .incompleteType _ | .unsupportedWidth .. => .incompleteType
  | .infiniteSize _ => .infiniteType
  | .registry (.duplicate ..) => .duplicateDefinition
  | .registry _ | .foreignType _ => .tableExhausted

/-- What the place of an error is said to be. -/
def placeRemark : TypeError → String
  | .memberNotFound .. => "unknown member"
  | .operatorNotFound .. => "operator not defined"
  | .ambiguousCall .. => "ambiguous call"
  | .noMatchingOverload .. => "no matching overload"
  | .recursionLimitExceeded .. => "specialized here"
  | .templateArityMismatch .. => "wrong number of arguments"
  | .templateArgumentMismatch .. => "wrong kind of argument"
  | .badParamReference .. => "in this specialization"
  | .unknownTemplate _ => "not a template"
  | .notATypeTemplate _ => "expected a type"
  | .notAFunctionTemplate _ => "expected a function"
  | .incompleteType _ => "size not known here"
  | .unsupportedWidth .. => "unsupported width"
  | .infiniteSize _ => "recursive without indirection"
  | .registry (.duplicate ..) => "redefined here"
  | .registry _ | .foreignType _ => "internal error"

end TypeError

namespace TypeContext

/-- What is reported of an error. -/
def errorText (ctx : TypeContext) (names : Interner) (err : TypeError) : String :=
  let type := ctx.display names
  let name := names.textOf
  let template := ctx.templateName names
  match err with
  | .memberNotFound ty member _ => s!"no member `{name member}` on `{type ty}`"
  | .operatorNotFound ty op => s!"`{type ty}` has no `{op.label}` operator"
  | .ambiguousCall callee _ => s!"call to `{name callee}` is ambiguous"
  | .noMatchingOverload callee arguments _ =>
    s!"no overload of `{name callee}` accepts (" ++ ", ".intercalate (arguments.map type) ++ ")"
  | .recursionLimitExceeded limit _ => s!"template recursion limit of {limit} exceeded"
  | .templateArityMismatch id least most found =>
    let expected := if least = most then toString least else s!"{least} to {most}"
    s!"`{template id}` takes {expected} template arguments but {found} were given"
  | .templateArgumentMismatch id index expected found =>
    s!"template argument {index + 1} of `{template id}` must be a {expected.word}, " ++
      s!"found a {found.word}"
  | .badParamReference id index expected =>
    s!"`{template id}` uses its parameter {index + 1} as a {expected.word}"
  | .unknownTemplate id => s!"unknown template {id.dump}"
  | .notATypeTemplate id => s!"`{template id}` is a function template"
  | .notAFunctionTemplate id => s!"`{template id}` is not a function template"
  | .incompleteType ty => s!"`{type ty}` is incomplete"
  | .unsupportedWidth ty bits => s!"`{type ty}` has no layout for a {bits}-bit scalar"
  | .infiniteSize ty => s!"`{type ty}` contains itself by value"
  | .registry (.duplicate dup _) => s!"`{name dup}` is defined more than once"
  | .registry _ | .foreignType _ => Fault.message err

/-- The notes on an error: candidates, or the innermost four requests in progress. -/
def errorNotes (ctx : TypeContext) (names : Interner) (err : TypeError) : List String :=
  let candidates (texts : List String) := (Diagnostic.candidatesNote? texts).toList
  match err with
  | .memberNotFound _ _ found => candidates (found.map names.textOf)
  | .ambiguousCall _ found => candidates (found.map (ctx.display names))
  | .noMatchingOverload _ _ found => candidates (found.map (ctx.display names))
  | .recursionLimitExceeded _ chain =>
    let shown := (chain.reverse.take 4).map fun key =>
      s!"while specializing `{ctx.displayKey names key}`"
    let hidden := chain.length - shown.length
    shown ++ (if hidden > 0 then [s!"... and {hidden} more"] else [])
  | .infiniteSize _ => ["insert a pointer to break the cycle"]
  | _ => []

/-- The report of an error at a place. -/
def report (ctx : TypeContext) (names : Interner) (err : TypeError) (source : SourceId)
    (span : TokenSpan) : Diagnostic where
  code := err.code
  message := ctx.errorText names err
  labels := [⟨source, span, err.placeRemark, true⟩]
  notes := ctx.errorNotes names err

end TypeContext

end FrontEnd
