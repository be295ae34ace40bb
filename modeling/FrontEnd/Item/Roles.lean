import FrontEnd.Item.View

/-!
Roles: what the children and the payload of an item mean, by the kind of the item. Children that
are absent leave their role empty, so that items of any shape have roles.
-/

namespace FrontEnd

/-- The parts of an item by the kind that it has. -/
inductive ItemRoles where
  /-- Kinds without parts. -/
  | plain
  | block (statements : List ItemId)
  /-- A loop over one condition. -/
  | conditionalLoop (condition body : Option ItemId)
  | countedLoop (init condition step body : Option ItemId)
  | jump (label : Name)
  | branch (condition thenBranch elseBranch : Option ItemId)
  | switch (scrutinee : Option ItemId) (cases : List ItemId) (fallback : Option ItemId)
  /-- A statement that hands a value on. -/
  | handOver (value : Option ItemId)
  | textLiteral (text : Name)
  | booleanLiteral (value : Bool)
  | reference (name : Name)
  | memberAccess (object : Option ItemId) (member : Name)
  | call (callee : Option ItemId) (arguments : List ItemId) (isMethod : Bool)
      (receiver : Option ItemId)
  | unary (op : Option Operator) (operand : Option ItemId)
  | binary (op : Option Operator) (lhs rhs : Option ItemId)
  | ternary (condition thenValue elseValue : Option ItemId)
  /-- The last child of a block expression is its value. -/
  | blockExpression (statements : List ItemId) (value : Option ItemId)
  | tryCatch (body handler : Option ItemId)
  | useResource (resource body : Option ItemId)
  | caseArm (value body : Option ItemId)
  /-- An arm without a value. -/
  | arm (body : Option ItemId)
  | variable (data : DefinitionData) (initializer : Option ItemId)
  | callable (data : DefinitionData) (parameters : List ItemId) (body : Option ItemId)
  /-- The first base of a class is the class it extends, the others are interfaces. -/
  | classDefinition (data : DefinitionData) (base : Option Name) (interfaces : List Name)
      (fields methods : List ItemId)
  | interfaceDefinition (data : DefinitionData) (methods : List ItemId)
  | record (data : DefinitionData) (fields : List ItemId)
  | enumeration (data : DefinitionData) (constants : List ItemId)
  | typeAlias (data : DefinitionData)
  | importModule (path : Name) (localName : Option Name)
  | parameterList (parameters : List ItemId)
  | parameter (name : Name) (sort : ParameterSort) (default : Option ItemId)
  | argumentList (arguments : List ItemId)
  | specialization (template : Name) (arguments : Option ItemId)
  | module (name : Name) (topLevel definitions imports : List ItemId)

namespace ItemTree

/-- The operator of an item. -/
def operator? (payload : ItemPayload) : Option Operator :=
  match payload with
  | .operator op => some op
  | _ => none

/-- The object on which a method is called. -/
def receiver? (tree : ItemTree) (id : ItemId) : Option ItemId := do
  let callee ← tree.child? id 0
  if tree.isA (.kind .memberAccess) callee then tree.child? callee 0 else none

/-- The parts of an item. -/
def rolesOf (tree : ItemTree) (id : ItemId) (node : ItemNode) : ItemRoles :=
  let child := tree.child? id
  let data := node.payload.definitionData
  let fields := tree.childrenOf id (.kind .variableDefinition)
  let methods := tree.childrenOf id (.kind .methodDefinition)
  match node.kind with
  | .breakLoop | .continueLoop | .nullLiteral => .plain
  | .block => .block node.children
  | .whileLoop | .untilLoop => .conditionalLoop (child 0) (child 1)
  | .doWhile => .conditionalLoop (child 1) (child 0)
  | .forLoop => .countedLoop (child 0) (child 1) (child 2) (child 3)
  | .goto => .jump node.payload.text
  | .ifThen =>
    .branch ((child 0).filter (tree.isA .expression)) (child 1) (child 2)
  | .switch =>
    .switch (child 0) (tree.childrenOf id (.kind .caseArm)) (tree.firstOf? id (.kind .elseArm))
  | .returnValue | .yieldValue => .handOver (child 0)
  | .integerLiteral | .floatLiteral | .stringLiteral | .charLiteral =>
    .textLiteral node.payload.text
  | .booleanLiteral => .booleanLiteral (node.payload == .bool true)
  | .variableReference => .reference node.payload.text
  | .memberAccess => .memberAccess (child 0) node.payload.text
  | .call =>
    let isMethod := node.payload == .call true
    .call (child 0) (node.children.drop 1) isMethod
      (if isMethod then tree.receiver? id else none)
  | .unary => .unary (operator? node.payload) (child 0)
  | .binary => .binary (operator? node.payload) (child 0) (child 1)
  | .ternary => .ternary (child 0) (child 1) (child 2)
  | .blockExpression => .blockExpression node.children.dropLast node.children.getLast?
  | .tryCatch => .tryCatch (child 0) (child 1)
  | .useResource => .useResource (child 0) (child 1)
  | .caseArm => .caseArm (child 0) (child 1)
  | .thenArm | .elseArm => .arm (child 0)
  | .variableDefinition => .variable data (tree.firstOf? id .expression)
  | .functionDefinition | .methodDefinition =>
    .callable data fields (tree.lastOf? id (.kind .block))
  | .classDefinition =>
    .classDefinition data data.bases.head? (data.bases.drop 1) fields methods
  | .interfaceDefinition => .interfaceDefinition data methods
  | .structureDefinition | .unionDefinition => .record data fields
  | .enumerationDefinition => .enumeration data fields
  | .typeAliasDefinition => .typeAlias data
  | .importModule => match node.payload with
    | .importPath path localName => .importModule path localName
    | _ => .importModule .empty none
  | .templateParameterList =>
    .parameterList (tree.childrenOf id (.kind .templateParameter))
  | .templateParameter => match node.payload with
    | .templateParameter name sort => .parameter name sort (child 0)
    | _ => .parameter .empty .type (child 0)
  | .templateArgumentList => .argumentList node.children
  | .specialization =>
    .specialization node.payload.text (tree.firstOf? id (.kind .templateArgumentList))
  | .module =>
    let name := match node.payload with
      | .module name => name
      | _ => .empty
    .module name node.children (tree.childrenOf id .definition)
      (tree.childrenOf id (.kind .importModule))

/-- The template parameters of a definition that is a template. -/
def templateParameters? (tree : ItemTree) (id : ItemId) : Option ItemId :=
  tree.firstOf? id (.kind .templateParameterList)

end ItemTree

namespace DefinitionData

/-- The texts of the doc comments. -/
def docs (data : DefinitionData) : List Name :=
  data.remarks.filterMap fun remark => match remark with
    | .doc text => some text
    | .tag _ => none

/-- Whether a definition is tagged with a text. -/
def hasTag (data : DefinitionData) (text : Name) : Bool :=
  data.remarks.contains (.tag text)

end DefinitionData

end FrontEnd
