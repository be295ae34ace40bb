import FrontEnd.Item.Tree

/-!
Items in two arrays. An item knows its parent and the stretch of the second array in which its
children stand; the children of all items stand there one after the other. A call changes the
arrays in place, and checks everything before it changes anything.

The forest of `ItemForest` keeps the children of an item with the item, but it is the same forest.
-/

namespace FrontEnd

/-- A stretch of the children of all items. -/
structure ChildRange where
  start : Nat
  length : Nat
  deriving DecidableEq

/-- One item of an arena. -/
structure PackedNode where
  kind : ItemKind
  span : TokenSpan
  payload : ItemPayload
  range : ChildRange
  parent : Option ItemId := none
  deriving DecidableEq

/-- The items pushed so far for one source, and the children of all of them. -/
structure ItemArena where
  source : SourceId
  nodes : Array PackedNode := #[]
  childIds : Array ItemId := #[]
  deriving DecidableEq

/-- A change of an arena. What it did stays when it fails. -/
abbrev ArenaM := ExceptT TreeError (StateM ItemArena)

namespace ItemArena

/-- The children in a stretch. -/
def childrenIn (arena : ItemArena) (range : ChildRange) : List ItemId :=
  (arena.childIds.toList.drop range.start).take range.length

/-- Refuses a child that does not exist, has a parent, or came before. -/
def checkChild (earlier : List ItemId) (child : ItemId) : ArenaM Unit := do
  match (← get).nodes[child.index]? with
  | none => throw (.unknownChild child)
  | some node => match node.parent with
    | some parent => throw (.alreadyAttached child parent)
    | none => if child ∈ earlier then throw (.duplicateChild child)

/-- Checks children one after the other. -/
def checkChildren (earlier : List ItemId) : List ItemId → ArenaM Unit
  | [] => return ()
  | child :: rest => do
    checkChild earlier child
    checkChildren (child :: earlier) rest

/-- Puts an item under a parent. -/
def attach (parent child : ItemId) : ArenaM Unit :=
  modify fun arena => { arena with
    nodes := arena.nodes.modify child.index fun node => { node with parent := some parent } }

/-- Puts an item behind all others, and its children behind all other children. -/
def append (kind : ItemKind) (span : TokenSpan) (payload : ItemPayload) (children : List ItemId) :
    ArenaM Unit :=
  modify fun arena => { arena with
    nodes := arena.nodes.push
      { kind, span, payload, range := ⟨arena.childIds.size, children.length⟩ }
    childIds := arena.childIds ++ children.toArray }

/-- Pushes an item over children that have been pushed before it. -/
def push (kind : ItemKind) (span : TokenSpan) (payload : ItemPayload) (children : List ItemId) :
    ArenaM ItemId := do
  if payload.shape ≠ kind.shape then throw (.payloadMismatch kind payload.shape)
  let id : ItemId := ⟨(← get).nodes.size⟩
  checkChildren [] children
  children.forM (attach id)
  append kind span payload children
  return id

/-- Adds a remark to a definition. -/
def annotate (id : ItemId) (remark : Remark) : ArenaM Unit := do
  match (← get).nodes[id.index]? with
  | none => throw (.unknownChild id)
  | some node => match node.payload with
    | .definition data =>
      let data := { data with remarks := data.remarks ++ [remark] }
      modify fun arena => { arena with
        nodes := arena.nodes.modify id.index fun node => { node with payload := .definition data } }
    | _ => throw (.notDefinition ⟨id, "Definition", node.kind⟩)

/-- An item together with its children. -/
def unpackNode (arena : ItemArena) (node : PackedNode) : ItemNode where
  kind := node.kind
  span := node.span
  payload := node.payload
  children := arena.childrenIn node.range
  parent := node.parent

/-- The forest of the items in an arena. -/
def unpack (arena : ItemArena) : ItemForest where
  source := arena.source
  nodes := arena.nodes.map arena.unpackNode

end ItemArena

end FrontEnd
