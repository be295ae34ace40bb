import FrontEnd.Item.Tree

/-!
Views: classes of items by kind. The children of an item that a view accepts are taken one by one
from either end of the list of children.
-/

namespace FrontEnd

/-- A class of items. -/
inductive ItemView where
  /-- Every item. -/
  | item
  | statement | expression | definition | literal | loop
  /-- The items of one kind. -/
  | kind (wanted : ItemKind)
  deriving DecidableEq

namespace ItemView

/-- The name of a view. -/
def label : ItemView → String
  | .item => "Item"
  | .statement => "Statement"
  | .expression => "Expression"
  | .definition => "Definition"
  | .literal => "Literal"
  | .loop => "Loop"
  | .kind wanted => wanted.label

/-- Whether items of a kind belong to the view. -/
def accepts : ItemView → ItemKind → Bool
  | .item, _ => true
  | .statement, found => found.isStatement
  | .expression, found => found.isExpression
  | .definition, found => found.isDefinition
  | .literal, found => found.isLiteral
  | .loop, found => found.isLoop
  | .kind wanted, found => found == wanted

/-- The view with a given name. -/
def ofLabel? (label : String) : Option ItemView :=
  match [ItemView.item, .statement, .expression, .definition, .literal, .loop].find?
      fun view => view.label == label with
  | some view => some view
  | none => (ItemKind.ofLabel? label).map .kind

end ItemView

namespace ItemTree

/-- Whether an item belongs to a view. -/
def isA (tree : ItemTree) (view : ItemView) (id : ItemId) : Bool :=
  match tree.kind? id with
  | some kind => view.accepts kind
  | none => false

/-- Refuses an item that does not belong to a view. -/
def cast (id : ItemId) (node : ItemNode) (view : ItemView) : Except InvalidCast ItemId :=
  if view.accepts node.kind then .ok id else .error ⟨id, view.label, node.kind⟩

/-- The nearest item above an item that belongs to a view. -/
def enclosing? (tree : ItemTree) (id : ItemId) (view : ItemView) : Option ItemId :=
  (tree.ancestors id).find? (tree.isA view)

end ItemTree

/-- The children of an item that are still to be looked at for a view. -/
structure TypedItems where
  tree : ItemTree
  view : ItemView
  pending : List ItemId

namespace TypedItems

/-- No more items than this are still to come. -/
def bound (items : TypedItems) : Nat := items.pending.length

/-- Whether the view accepts an item. -/
def takes (items : TypedItems) (id : ItemId) : Bool := items.tree.isA items.view id

/-- Takes the next item from the front. -/
def next (items : TypedItems) : Option ItemId × TypedItems :=
  match items.pending.dropWhile fun id => !items.takes id with
  | [] => (none, { items with pending := [] })
  | id :: rest => (some id, { items with pending := rest })

/-- Takes the next item from the back. -/
def nextBack (items : TypedItems) : Option ItemId × TypedItems :=
  match items.pending.reverse.dropWhile fun id => !items.takes id with
  | [] => (none, { items with pending := [] })
  | id :: rest => (some id, { items with pending := rest.reverse })

/-- Every item taken leaves fewer to be looked at. -/
theorem length_next {items left : TypedItems} {id : ItemId} (h : items.next = (some id, left)) :
    left.pending.length < items.pending.length := by
  have shorter := List.Sublist.length_le
    (List.dropWhile_sublist (fun id => !items.takes id) (l := items.pending))
  unfold next at h
  split at h <;> grind

theorem length_nextBack {items left : TypedItems} {id : ItemId}
    (h : items.nextBack = (some id, left)) : left.pending.length < items.pending.length := by
  have shorter := List.Sublist.length_le
    (List.dropWhile_sublist (fun id => !items.takes id) (l := items.pending.reverse))
  unfold nextBack at h
  split at h <;> grind

/-- All that are still to come, from the front. -/
def toList (items : TypedItems) : List ItemId :=
  match taken : items.next with
  | (some id, left) =>
    have := length_next taken
    id :: left.toList
  | (none, _) => []
termination_by items.pending.length

/-- All that are still to come, from the back. -/
def toListBack (items : TypedItems) : List ItemId :=
  match taken : items.nextBack with
  | (some id, left) =>
    have := length_nextBack taken
    id :: left.toListBack
  | (none, _) => []
termination_by items.pending.length

end TypedItems

namespace ItemTree

/-- The children of an item that belong to a view, to be taken one by one. -/
def typedItems (tree : ItemTree) (id : ItemId) (view : ItemView) : TypedItems :=
  ⟨tree, view, tree.children id⟩

/-- The children of an item that belong to a view. -/
def childrenOf (tree : ItemTree) (id : ItemId) (view : ItemView) : List ItemId :=
  (tree.children id).filter (tree.isA view)

/-- The first child that belongs to a view. -/
def firstOf? (tree : ItemTree) (id : ItemId) (view : ItemView) : Option ItemId :=
  (tree.typedItems id view).next.1

/-- The last child that belongs to a view. -/
def lastOf? (tree : ItemTree) (id : ItemId) (view : ItemView) : Option ItemId :=
  (tree.typedItems id view).nextBack.1

end ItemTree

end FrontEnd
