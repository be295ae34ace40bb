import FrontEnd.Declaration.Error
import FrontEnd.Item.Roles
import FrontEnd.Text.Integer

/-!
Definitions as items of a tree, and what their texts say before any type is looked up.
-/

namespace FrontEnd

/-- An item that defines something. -/
structure Definition where
  id : ItemId
  node : ItemNode
  deriving DecidableEq

namespace Definition

/-- What the head of the definition says. -/
def data (definition : Definition) : DefinitionData := definition.node.payload.definitionData

def name (definition : Definition) : Name := definition.data.name

def span (definition : Definition) : TokenSpan := definition.node.span

def kind (definition : Definition) : ItemKind := definition.node.kind

/-- The kind of type that a definition introduces, if it introduces one. -/
def defKind? (definition : Definition) : Option DefKind :=
  match definition.kind with
  | .structureDefinition => some .struct
  | .unionDefinition => some .union
  | .classDefinition => some .classType
  | .interfaceDefinition => some .interface
  | .enumerationDefinition => some .enumeration
  | _ => none

/-- Why a definition cannot be a template, if it cannot. -/
def unsupported? (definition : Definition) : Option TemplateSubject :=
  match definition.kind with
  | .interfaceDefinition => some .interfaces
  | .enumerationDefinition => some .enumerations
  | .variableDefinition | .methodDefinition => some .valuesAndMethods
  | _ => none

/-- The text behind the dots of a variadic parameter's type. -/
def behindDots? (text : String) : Option String :=
  match text.toList with
  | '.' :: '.' :: '.' :: rest => some (String.ofList rest)
  | _ => none

/-- The text that spells the type of a parameter, and whether the parameter is variadic. Only the
last parameter may be. -/
def parameterText (param : Definition) (names : Interner) (isLast : Bool) :
    Except DeclareError (String × Bool) :=
  match param.data.typeName with
  | none => .error (.missingType (names.textOf param.name))
  | some spelled =>
    let text := names.textOf spelled
    match behindDots? text with
    | none => .ok (text, false)
    | some element =>
      if isLast then .ok (element, true) else .error (.malformed text ⟨0, .plainType⟩)

end Definition

/-- The value of an integer literal. Underscores between the digits do not count. -/
def literalInteger? (text : String) : Option Int :=
  match text.toList.filter (· ≠ '_') with
  | '0' :: 'x' :: digits | '0' :: 'X' :: digits => Text.integer? 16 digits
  | digits => Text.integer? 10 digits

namespace ItemTree

/-- The definition that an item is. -/
def definition? (tree : ItemTree) (id : ItemId) : Option Definition :=
  (tree.node? id).map (Definition.mk id)

/-- The definitions that some items are. -/
def definitions (tree : ItemTree) (ids : List ItemId) : List Definition :=
  ids.filterMap tree.definition?

/-- The definitions directly below the root. -/
def topDefinitions (tree : ItemTree) : List Definition :=
  tree.definitions (tree.childrenOf tree.root .definition)

/-- Whether a definition has template parameters. -/
def isTemplate (tree : ItemTree) (definition : Definition) : Bool :=
  (tree.templateParameters? definition.id).isSome

/-- The parts of a definition. -/
def partsOf (tree : ItemTree) (definition : Definition) : ItemRoles :=
  tree.rolesOf definition.id definition.node

/-- The parameters and the result of a function or method. -/
def callableParts (tree : ItemTree) (definition : Definition) :
    List Definition × Option Name :=
  match tree.partsOf definition with
  | .callable data parameters _ => (tree.definitions parameters, data.typeName)
  | _ => ([], none)

end ItemTree

end FrontEnd
