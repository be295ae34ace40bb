/-!
Kinds of item. Each kind has a byte, by which packed addresses name it, a family, which says what
role its items play in a tree, and a payload shape. The main statements say that `byte` and
`ofByte?` are inverse to each other.
-/

namespace FrontEnd

/-- What role the items of a kind play. -/
inductive ItemFamily where
  | statement | expression | definition | directive | template | root
  deriving DecidableEq

/-- The name of a family. -/
def ItemFamily.label : ItemFamily → String
  | .statement => "Statement" | .expression => "Expression" | .definition => "Definition"
  | .directive => "Directive" | .template => "Template" | .root => "Root"

/-- What an item of a kind carries beside its children. -/
inductive PayloadShape where
  | none | name | literal | bool | call | operator | definition | importPath
  | templateParameter | module
  deriving DecidableEq

/-- The name of a shape. -/
def PayloadShape.label : PayloadShape → String
  | .none => "None" | .name => "Name" | .literal => "Literal" | .bool => "Bool"
  | .call => "Call" | .operator => "Operator" | .definition => "Definition"
  | .importPath => "Import" | .templateParameter => "TemplateParameter" | .module => "Module"

/-- The kinds of item in a source. -/
inductive ItemKind where
  | block | breakLoop | continueLoop | doWhile | forLoop | goto | ifThen | switch | returnValue
  | whileLoop | untilLoop | yieldValue
  | integerLiteral | floatLiteral | stringLiteral | charLiteral | booleanLiteral | nullLiteral
  | variableReference | memberAccess | call | unary | binary | ternary | blockExpression
  | tryCatch | useResource | caseArm | elseArm | thenArm
  | variableDefinition | functionDefinition | methodDefinition | classDefinition
  | interfaceDefinition | structureDefinition | unionDefinition | enumerationDefinition
  | typeAliasDefinition
  | importModule
  | templateParameterList | templateParameter | templateArgumentList | specialization
  | module
  deriving DecidableEq, Inhabited

namespace ItemKind

/-- Every kind, in the order of the bytes. -/
def all : List ItemKind :=
  [.block, .breakLoop, .continueLoop, .doWhile, .forLoop, .goto, .ifThen, .switch, .returnValue,
   .whileLoop, .untilLoop, .yieldValue, .integerLiteral, .floatLiteral, .stringLiteral,
   .charLiteral, .booleanLiteral, .nullLiteral, .variableReference, .memberAccess, .call, .unary,
   .binary, .ternary, .blockExpression, .tryCatch, .useResource, .caseArm, .elseArm, .thenArm,
   .variableDefinition, .functionDefinition, .methodDefinition, .classDefinition,
   .interfaceDefinition, .structureDefinition, .unionDefinition, .enumerationDefinition,
   .typeAliasDefinition, .importModule, .templateParameterList, .templateParameter,
   .templateArgumentList, .specialization, .module]

/-- The byte that stands for a kind. -/
def byte : ItemKind → UInt8
  | .block => 1 | .breakLoop => 2 | .continueLoop => 3 | .doWhile => 4 | .forLoop => 5
  | .goto => 6 | .ifThen => 7 | .switch => 8 | .returnValue => 9 | .whileLoop => 10
  | .untilLoop => 11 | .yieldValue => 12 | .integerLiteral => 32 | .floatLiteral => 33
  | .stringLiteral => 34 | .charLiteral => 35 | .booleanLiteral => 36 | .nullLiteral => 37
  | .variableReference => 38 | .memberAccess => 39 | .call => 40 | .unary => 41 | .binary => 42
  | .ternary => 43 | .blockExpression => 44 | .tryCatch => 45 | .useResource => 46
  | .caseArm => 47 | .elseArm => 48 | .thenArm => 49 | .variableDefinition => 64
  | .functionDefinition => 65 | .methodDefinition => 66 | .classDefinition => 67
  | .interfaceDefinition => 68 | .structureDefinition => 69 | .unionDefinition => 70
  | .enumerationDefinition => 71 | .typeAliasDefinition => 72 | .importModule => 96
  | .templateParameterList => 112 | .templateParameter => 113 | .templateArgumentList => 114
  | .specialization => 115 | .module => 127

/-- The kind that a byte stands for, if any does. -/
def ofByte? (byte : UInt8) : Option ItemKind :=
  all.find? fun kind => kind.byte == byte

/-- The name of a kind in dumps and messages. -/
def label : ItemKind → String
  | .block => "Block" | .breakLoop => "Break" | .continueLoop => "Continue"
  | .doWhile => "DoWhile" | .forLoop => "For" | .goto => "Goto" | .ifThen => "If"
  | .switch => "Switch" | .returnValue => "Return" | .whileLoop => "While"
  | .untilLoop => "Until" | .yieldValue => "Yield" | .integerLiteral => "IntegerLiteral"
  | .floatLiteral => "FloatLiteral" | .stringLiteral => "StringLiteral"
  | .charLiteral => "CharLiteral" | .booleanLiteral => "BooleanLiteral"
  | .nullLiteral => "NullLiteral" | .variableReference => "VariableReference"
  | .memberAccess => "MemberAccess" | .call => "Call" | .unary => "Unary" | .binary => "Binary"
  | .ternary => "Ternary" | .blockExpression => "BlockExpression" | .tryCatch => "Try"
  | .useResource => "Use" | .caseArm => "Case" | .elseArm => "Else" | .thenArm => "Then"
  | .variableDefinition => "VariableDefinition" | .functionDefinition => "FunctionDefinition"
  | .methodDefinition => "MethodDefinition" | .classDefinition => "ClassDefinition"
  | .interfaceDefinition => "InterfaceDefinition" | .structureDefinition => "StructureDefinition"
  | .unionDefinition => "UnionDefinition" | .enumerationDefinition => "EnumerationDefinition"
  | .typeAliasDefinition => "TypeAliasDefinition" | .importModule => "Import"
  | .templateParameterList => "TemplateParameterList" | .templateParameter => "TemplateParameter"
  | .templateArgumentList => "TemplateArgumentList" | .specialization => "Specialization"
  | .module => "Module"

/-- The kind with a given name. -/
def ofLabel? (label : String) : Option ItemKind :=
  all.find? fun kind => kind.label == label

/-- The family of a kind. -/
def family : ItemKind → ItemFamily
  | .block | .breakLoop | .continueLoop | .doWhile | .forLoop | .goto | .ifThen | .switch
  | .returnValue | .whileLoop | .untilLoop | .yieldValue => .statement
  | .integerLiteral | .floatLiteral | .stringLiteral | .charLiteral | .booleanLiteral
  | .nullLiteral | .variableReference | .memberAccess | .call | .unary | .binary | .ternary
  | .blockExpression | .tryCatch | .useResource | .caseArm | .elseArm | .thenArm => .expression
  | .variableDefinition | .functionDefinition | .methodDefinition | .classDefinition
  | .interfaceDefinition | .structureDefinition | .unionDefinition | .enumerationDefinition
  | .typeAliasDefinition => .definition
  | .importModule => .directive
  | .templateParameterList | .templateParameter | .templateArgumentList | .specialization => .template
  | .module => .root

/-- The payload that items of a kind carry. -/
def shape : ItemKind → PayloadShape
  | .goto | .variableReference | .memberAccess | .specialization => .name
  | .integerLiteral | .floatLiteral | .stringLiteral | .charLiteral => .literal
  | .booleanLiteral => .bool
  | .call => .call
  | .unary | .binary => .operator
  | .variableDefinition | .functionDefinition | .methodDefinition | .classDefinition
  | .interfaceDefinition | .structureDefinition | .unionDefinition | .enumerationDefinition
  | .typeAliasDefinition => .definition
  | .importModule => .importPath
  | .templateParameter => .templateParameter
  | .module => .module
  | _ => .none

def isStatement (kind : ItemKind) : Bool := kind.family == .statement

def isExpression (kind : ItemKind) : Bool := kind.family == .expression

def isDefinition (kind : ItemKind) : Bool := kind.family == .definition

/-- Statements that repeat their body. -/
def isLoop : ItemKind → Bool
  | .forLoop | .whileLoop | .doWhile | .untilLoop => true
  | _ => false

/-- Expressions that spell a value out. -/
def isLiteral : ItemKind → Bool
  | .integerLiteral | .floatLiteral | .stringLiteral | .charLiteral | .booleanLiteral
  | .nullLiteral => true
  | _ => false

@[simp] theorem ofByte?_byte (kind : ItemKind) : ofByte? kind.byte = some kind := by
  cases kind <;> rfl

theorem byte_of_ofByte? {byte : UInt8} {kind : ItemKind} (found : ofByte? byte = some kind) :
    kind.byte = byte := by
  simpa using List.find?_some found

theorem ofByte?_eq_some_iff {byte : UInt8} {kind : ItemKind} :
    ofByte? byte = some kind ↔ kind.byte = byte :=
  ⟨byte_of_ofByte?, fun same => same ▸ ofByte?_byte kind⟩

end ItemKind

end FrontEnd
