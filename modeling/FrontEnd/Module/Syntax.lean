import FrontEnd.Diagnostic.Basic
import FrontEnd.Item.Roles

/-!
What a parser makes of a source: a tree, unless the source is beyond repair, the imports, and the
errors from which it recovered.
-/

namespace FrontEnd

/-- An import of a module by its name. -/
structure ImportRef where
  path : Name
  span : TokenSpan
  deriving DecidableEq

/-- An error that a parser found. -/
structure SyntaxError where
  span : TokenSpan
  message : String
  deriving DecidableEq

/-- The report of a syntax error. -/
def SyntaxError.report (err : SyntaxError) (source : SourceId) : Diagnostic :=
  (Diagnostic.error .unexpectedToken err.message).withLabel source err.span "syntax error"

/-- What a parser gives for one source. -/
structure ParsedSource where
  tree : Option ItemTree := none
  imports : List ImportRef := []
  errors : List SyntaxError := []

/-- The imports among the items directly below the root of a tree. -/
def ItemTree.imports (tree : ItemTree) : List ImportRef :=
  (tree.childrenOf tree.root (.kind .importModule)).filterMap fun id =>
    (tree.node? id).bind fun node => match tree.rolesOf id node with
      | .importModule path _ => some ⟨path, node.span⟩
      | _ => none

namespace ParsedSource

/-- A source that parsed to a tree. -/
def ofTree (tree : ItemTree) : ParsedSource := { tree, imports := tree.imports }

/-- A source of which nothing is usable. -/
def failed (errors : List SyntaxError) : ParsedSource := { errors }

/-- Whether the source is not as it should be. -/
def hasErrors (parsed : ParsedSource) : Bool := !parsed.errors.isEmpty || parsed.tree.isNone

end ParsedSource

/-- What turns the tokens of a source into a tree. It may intern names while it does. -/
structure Parser where
  parse : Interner → SourceFile → TokenStream → ParsedSource × Interner

end FrontEnd
