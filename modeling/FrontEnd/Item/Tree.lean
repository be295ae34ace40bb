import FrontEnd.Item.Payload
import FrontEnd.Source.Registry

/-!
Item trees. Items are pushed children first: a new item takes items that have no parent yet as its
children, so the items pushed so far always form a forest. A forest whose only parentless item is
the root is a tree, and is then never changed again.

The finished tree also knows which of its items are deterministic. An item is judged after its
children, so that one pass from the first item to the last suffices.
-/

namespace FrontEnd

/-- The number of an item in its tree, in the order of pushing. -/
structure ItemId where
  index : Nat
  deriving DecidableEq, Hashable, Inhabited

namespace ItemId

/-- An id as messages show it. -/
def describe (id : ItemId) : String := s!"#{id.index}"

/-- An id as dumps show it. -/
def dump (id : ItemId) : String := s!"ItemId({id.index})"

end ItemId

/-- One item. -/
structure ItemNode where
  kind : ItemKind
  span : TokenSpan
  payload : ItemPayload
  children : List ItemId
  parent : Option ItemId := none
  deriving DecidableEq

/-- An item that is not of the kind asked for. -/
structure InvalidCast where
  item : ItemId
  expected : String
  found : ItemKind
  deriving DecidableEq

instance : Fault InvalidCast where
  label _ := "InvalidCast"
  message cast := s!"cannot view {cast.found.label} item {cast.item.describe} as {cast.expected}"

/-- Why items do not make a tree. -/
inductive TreeError where
  /-- The payload does not have the shape that the kind asks for. -/
  | payloadMismatch (kind : ItemKind) (found : PayloadShape)
  | unknownChild (child : ItemId)
  /-- The child has a parent already. -/
  | alreadyAttached (child parent : ItemId)
  /-- The child is listed twice. -/
  | duplicateChild (child : ItemId)
  | unknownRoot (root : ItemId)
  | rootHasParent (root parent : ItemId)
  /-- An item beside the root has no parent. -/
  | orphan (item : ItemId)
  /-- Only definitions are annotated. -/
  | notDefinition (cast : InvalidCast)
  deriving DecidableEq

instance : Fault TreeError where
  label
    | .payloadMismatch .. => "PayloadMismatch"
    | .unknownChild _ => "UnknownChild"
    | .alreadyAttached .. => "ChildAlreadyAttached"
    | .duplicateChild _ => "DuplicateChild"
    | .unknownRoot _ => "UnknownRoot"
    | .rootHasParent .. => "RootHasParent"
    | .orphan _ => "Orphan"
    | .notDefinition _ => "Annotation"
  message
    | .payloadMismatch kind found =>
      s!"{kind.label} items take a {kind.shape.label} payload, found {found.label}"
    | .unknownChild child => s!"child {child.describe} does not exist"
    | .alreadyAttached child parent =>
      s!"child {child.describe} already belongs to {parent.describe}"
    | .duplicateChild child => s!"child {child.describe} listed twice"
    | .unknownRoot root => s!"root {root.describe} does not exist"
    | .rootHasParent root parent => s!"root {root.describe} has parent {parent.describe}"
    | .orphan item => s!"item {item.describe} is not reachable from the root"
    | .notDefinition cast => Fault.message cast

/-- The items pushed so far for one source. -/
structure ItemForest where
  source : SourceId
  nodes : Array ItemNode := #[]

namespace ItemForest

def size (forest : ItemForest) : Nat := forest.nodes.size

/-- Refuses children that do not exist, that have a parent, or that come twice. The children that
were accepted before are in `earlier`. -/
def checkChildren (forest : ItemForest) (earlier : List ItemId) :
    List ItemId → Except TreeError Unit
  | [] => .ok ()
  | child :: rest => match forest.nodes[child.index]? with
    | none => .error (.unknownChild child)
    | some node => match node.parent with
      | some parent => .error (.alreadyAttached child parent)
      | none =>
        if child ∈ earlier then .error (.duplicateChild child)
        else forest.checkChildren (child :: earlier) rest

/-- Puts an item under a parent. -/
def attach (parent : ItemId) (nodes : Array ItemNode) (child : ItemId) : Array ItemNode :=
  nodes.modify child.index fun node => { node with parent := some parent }

/-- Pushes an item over children that have been pushed before it. -/
def push (forest : ItemForest) (kind : ItemKind) (span : TokenSpan) (payload : ItemPayload)
    (children : List ItemId) : Except TreeError (ItemId × ItemForest) :=
  if payload.shape ≠ kind.shape then .error (.payloadMismatch kind payload.shape)
  else match forest.checkChildren [] children with
    | .error err => .error err
    | .ok () =>
      let id : ItemId := ⟨forest.nodes.size⟩
      let nodes := children.foldl (attach id) forest.nodes
      .ok (id, { forest with nodes := nodes.push { kind, span, payload, children } })

/-- Adds a remark to a definition. -/
def annotate (forest : ItemForest) (id : ItemId) (remark : Remark) :
    Except TreeError ItemForest :=
  match forest.nodes[id.index]? with
  | none => .error (.unknownChild id)
  | some node => match node.payload with
    | .definition data =>
      let data := { data with remarks := data.remarks ++ [remark] }
      .ok { forest with
        nodes := forest.nodes.modify id.index fun node => { node with payload := .definition data } }
    | _ => .error (.notDefinition ⟨id, "Definition", node.kind⟩)

/-- The first item beside the root that has no parent. -/
def orphan? (forest : ItemForest) (root : ItemId) : Option ItemId :=
  (forest.nodes.toList.findIdx? fun node => node.parent.isNone).bind fun first =>
    if first ≠ root.index then some ⟨first⟩
    else ((forest.nodes.toList.drop (first + 1)).findIdx? fun node => node.parent.isNone).map
      fun next => ⟨first + 1 + next⟩

end ItemForest

/-- How the determinism of an item follows from that of its children. -/
inductive Determinism where
  /-- The item depends on more than its operands, or changes something. -/
  | never
  /-- What is below the item does not run where the item stands. -/
  | always
  /-- The item is as deterministic as these children. -/
  | asChildren (children : List ItemId)

namespace ItemNode

/-- What decides whether an item is deterministic. Of a call, the callee is only looked up. -/
def determinism (node : ItemNode) : Determinism :=
  match node.kind with
  | .forLoop | .whileLoop | .doWhile | .untilLoop | .breakLoop | .continueLoop | .goto
  | .yieldValue | .tryCatch | .useResource => .never
  | .integerLiteral | .floatLiteral | .stringLiteral | .charLiteral | .booleanLiteral
  | .nullLiteral | .variableReference | .importModule | .templateParameterList
  | .templateParameter | .templateArgumentList | .specialization | .functionDefinition
  | .methodDefinition | .classDefinition | .interfaceDefinition | .structureDefinition
  | .unionDefinition | .enumerationDefinition | .typeAliasDefinition => .always
  | .call =>
    if node.payload = .call true then .never else .asChildren (node.children.drop 1)
  | .unary | .binary => match node.payload with
    | .operator op => if op.isMutating then .never else .asChildren node.children
    | _ => .asChildren node.children
  | _ => .asChildren node.children

/-- The verdict on an item when those on all items before it are known. -/
def judge (node : ItemNode) (known : Array Bool) : Bool :=
  match node.determinism with
  | .never => false
  | .always => true
  | .asChildren children => children.all fun child => known[child.index]?.getD false

end ItemNode

/-- The verdicts on items, each judged after those before it. -/
def verdicts (nodes : Array ItemNode) : Array Bool :=
  nodes.foldl (fun known node => known.push (node.judge known)) #[]

/-- A finished tree: its items, and for each whether it is deterministic. -/
structure ItemTree where
  source : SourceId
  root : ItemId
  nodes : Array ItemNode
  deterministic : Array Bool

/-- Takes the forest as the tree under a root. -/
def ItemForest.finish (forest : ItemForest) (root : ItemId) : Except TreeError ItemTree :=
  match forest.nodes[root.index]? with
  | none => .error (.unknownRoot root)
  | some node => match node.parent with
    | some parent => .error (.rootHasParent root parent)
    | none => match forest.orphan? root with
      | some item => .error (.orphan item)
      | none => .ok {
          source := forest.source
          root
          nodes := forest.nodes
          deterministic := verdicts forest.nodes }

/-- An id that a tree does not have. -/
structure UnknownItem where
  item : ItemId
  deriving DecidableEq

instance : Fault UnknownItem where
  label _ := "UnknownItem"
  message err := s!"{err.item.dump} is not in this tree"
  isMisuse _ := true

namespace ItemTree

def size (tree : ItemTree) : Nat := tree.nodes.size

/-- The item of an id. -/
def node? (tree : ItemTree) (id : ItemId) : Option ItemNode := tree.nodes[id.index]?

/-- All ids in order. -/
def ids (tree : ItemTree) : List ItemId := (List.range tree.size).map ItemId.mk

/-- The item of an id that has to be one of the tree's. -/
def node (tree : ItemTree) (id : ItemId) : Except UnknownItem ItemNode :=
  match tree.node? id with
  | some node => .ok node
  | none => .error ⟨id⟩

def kind? (tree : ItemTree) (id : ItemId) : Option ItemKind := (tree.node? id).map (·.kind)

/-- The span of an item, the empty one for an unknown id. -/
def span (tree : ItemTree) (id : ItemId) : TokenSpan :=
  ((tree.node? id).map (·.span)).getD .nowhere

def children (tree : ItemTree) (id : ItemId) : List ItemId :=
  ((tree.node? id).map (·.children)).getD []

/-- The child at a position. -/
def child? (tree : ItemTree) (id : ItemId) (position : Nat) : Option ItemId :=
  (tree.children id)[position]?

def parent? (tree : ItemTree) (id : ItemId) : Option ItemId := (tree.node? id).bind (·.parent)

def payload (tree : ItemTree) (id : ItemId) : ItemPayload :=
  ((tree.node? id).map (·.payload)).getD .none

def isDeterministic (tree : ItemTree) (id : ItemId) : Bool :=
  tree.deterministic[id.index]?.getD false

/-- The items above an item, the nearest first, as far as `steps` steps lead. -/
def climb (tree : ItemTree) (id : ItemId) : (steps : Nat) → List ItemId
  | 0 => []
  | steps + 1 => match tree.parent? id with
    | some parent => parent :: tree.climb parent steps
    | none => []

/-- The items above an item, the nearest first. A tree has no longer path than it has items. -/
def ancestors (tree : ItemTree) (id : ItemId) : List ItemId := tree.climb id tree.size

/-- The address of an item, unless its first token lies too far from the start of the source. -/
def locator (tree : ItemTree) (id : ItemId) (node : ItemNode) : Except LocatorError ItemLocator :=
  ItemLocator.ofParts node.kind tree.source (tree.span id).start

/-- Where an item stands in its source. -/
def locate (tree : ItemTree) (sources : SourceRegistry) (id : ItemId) :
    Except SourceError SourceLocation :=
  sources.locate tree.source (tree.span id)

/-- An item as dumps show it. -/
def dumpItem (id : ItemId) (node : ItemNode) : String :=
  node.kind.label ++ id.describe ++ " " ++ node.span.dump

/-- A tree as dumps show it. -/
def dump (tree : ItemTree) : String :=
  s!"ItemTree \x7b source: {tree.source.dump}, root: {tree.root.dump}, items: {tree.size} \x7d"

end ItemTree

end FrontEnd
