import FrontEnd.Item.Roles
import FrontEnd.Outline.Source

/-!
Outlines of items and trees.
-/

namespace FrontEnd

instance : Coe ItemId Outline := ⟨fun id => id.index⟩

def ItemKind.outline (kind : ItemKind) : Outline :=
  .record [("name", kind.label), ("debug", kind.label), ("display", kind.label),
    ("family", kind.family.label), ("shape", kind.shape.label), ("statement", kind.isStatement),
    ("expression", kind.isExpression), ("definition", kind.isDefinition), ("loop", kind.isLoop)]

def Operator.outline (op : Operator) : Outline :=
  .record [("mutating", op.isMutating), ("unary", op.isUnary)]

def ParameterSort.outline : ParameterSort → Outline
  | .type => "type"
  | .variable named => .list ["var", named]
  | .template arity => .list ["template", arity]

def Remark.outline : Remark → Outline
  | .doc text => .list ["doc", text]
  | .tag text => .list ["attr", text]

namespace Outline

/-- The outline of an item that may be absent. -/
def item (id : Option ItemId) : Outline := opt (number ·.index) id

/-- The outline of several items. -/
def items (ids : List ItemId) : Outline := each (number ·.index) ids

end Outline

namespace ItemRoles

open Outline (item items)

/-- The parts of an item by the words for them. -/
def fields (id : ItemId) : ItemRoles → List (String × Outline)
  | .plain => []
  | .block statements => [("statements", items statements)]
  | .conditionalLoop condition body => [("condition", item condition), ("body", item body)]
  | .countedLoop init condition step body =>
    [("init", item init), ("condition", item condition), ("step", item step), ("body", item body)]
  | .jump label => [("label", label)]
  | .branch condition thenBranch elseBranch =>
    [("condition", item condition), ("then", item thenBranch), ("else", item elseBranch)]
  | .switch scrutinee cases fallback =>
    [("scrutinee", item scrutinee), ("cases", items cases), ("default", item fallback)]
  | .handOver value => [("value", item value)]
  | .textLiteral text => [("text", text)]
  | .booleanLiteral value => [("value", value)]
  | .reference name => [("name", name)]
  | .memberAccess object member => [("object", item object), ("member", member)]
  | .call callee arguments isMethod receiver =>
    [("callee", item callee), ("argument_count", arguments.length), ("arguments", items arguments),
      ("is_method", isMethod), ("receiver", item receiver)]
  | .unary operator operand => [("operator", .opt (fun op => op.label) operator), ("operand", item operand)]
  | .binary operator lhs rhs =>
    [("operator", .opt (fun op => op.label) operator), ("lhs", item lhs), ("rhs", item rhs)]
  | .ternary condition thenValue elseValue =>
    [("condition", item condition), ("then", item thenValue), ("else", item elseValue)]
  | .blockExpression statements value => [("statements", items statements), ("value", item value)]
  | .tryCatch body handler => [("body", item body), ("handler", item handler)]
  | .useResource resource body => [("resource", item resource), ("body", item body)]
  | .caseArm value body => [("value", item value), ("body", item body)]
  | .arm body => [("body", item body)]
  | .variable data initializer =>
    [("name", data.name), ("type_name", .opt .name data.typeName), ("initializer", item initializer),
      ("def", id)]
  | .callable data parameters body =>
    [("name", data.name), ("parameters", items parameters), ("return_type", .opt .name data.typeName),
      ("body", item body)]
  | .classDefinition data base interfaces fields methods =>
    [("name", data.name), ("base", .opt .name base), ("interfaces", .each .name interfaces),
      ("fields", items fields), ("methods", items methods)]
  | .interfaceDefinition data methods =>
    [("name", data.name), ("bases", .each .name data.bases), ("methods", items methods)]
  | .record data fields => [("name", data.name), ("fields", items fields)]
  | .enumeration data constants =>
    [("name", data.name), ("constants", items constants), ("index_type", .opt .name data.typeName)]
  | .typeAlias data => [("name", data.name), ("target", .opt .name data.typeName)]
  | .importModule path localName => [("path", path), ("alias", .opt .name localName)]
  | .parameterList parameters => [("parameters", items parameters)]
  | .parameter name sort default =>
    [("name", name), ("syntax", sort.outline), ("default", item default)]
  | .argumentList arguments => [("arguments", items arguments)]
  | .specialization template arguments =>
    [("template", template), ("arguments", item arguments)]
  | .module name topLevel definitions imports =>
    [("name", name), ("top_level", items topLevel), ("definitions", items definitions),
      ("imports", items imports)]

end ItemRoles

namespace ItemTree

def outline (tree : ItemTree) : Outline :=
  .record [("debug", tree.dump), ("source", tree.source), ("root", tree.root), ("len", tree.size),
    ("is_empty", tree.size == 0)]

/-- An item with its place in the tree. -/
def itemOutline (tree : ItemTree) (id : ItemId) (node : ItemNode) : Outline :=
  .record [("item", dumpItem id node), ("parent", .item node.parent),
    ("children", .items node.children), ("deterministic", tree.isDeterministic id)]

/-- What the head of a definition says, and whether it is tagged with a text that is asked for. -/
def definitionOutline (tree : ItemTree) (id : ItemId) (data : DefinitionData)
    (tagged : Option Bool) : Outline :=
  let parameters := tree.templateParameters? id
  .record [("name", data.name), ("type_name", .opt .name data.typeName),
    ("bases", .each .name data.bases), ("annotations", .each Remark.outline data.remarks),
    ("docs", .each .name data.docs), ("has_attribute", .opt .flag tagged),
    ("template_parameters", .item parameters), ("is_template", parameters.isSome)]

/-- The parts of an item, with what its family adds. The text of a tag may be asked for. -/
def rolesOutline (tree : ItemTree) (names : Interner) (tag : Option String) (id : ItemId)
    (node : ItemNode) : Outline :=
  let tagged := tag.map fun text => ((names.get? text).map node.payload.definitionData.hasTag).getD
    false
  let definition := if node.kind.isDefinition then
    [("definition", tree.definitionOutline id node.payload.definitionData tagged)] else []
  let literal := if node.kind.isLiteral then
    [("literal", match node.payload with
      | .literal text => .name text
      | _ => .absent)] else []
  let family := if node.kind.isStatement || node.kind.isExpression then
    [("family", .text (node.kind.family.label ++ " " ++ node.kind.label))] else []
  .record ((tree.rolesOf id node).fields id ++ definition ++ literal ++ family)

end ItemTree

end FrontEnd
