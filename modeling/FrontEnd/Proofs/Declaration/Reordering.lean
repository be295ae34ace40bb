import FrontEnd.Proofs.Declaration.Pass
import FrontEnd.Proofs.Item.Tree

/-!
Trees whose top items come in another order. Nothing below the top items depends on their order, since
the root is below no item. So the pass over a tree with another order is the pass over the same
definitions in that order.
-/

namespace FrontEnd

/-- The items that the roles of a definition name. -/
def ItemRoles.parts : ItemRoles → List ItemId
  | .variable _ initializer => initializer.toList
  | .callable _ parameters _ => parameters
  | .classDefinition _ _ _ fields methods => fields ++ methods
  | .interfaceDefinition _ methods => methods
  | .record _ fields => fields
  | .enumeration _ constants => constants
  | .parameter _ _ default => default.toList
  | _ => []

namespace ItemTree

variable {tree : ItemTree} {order : List ItemId} {id : ItemId} {node : ItemNode}

/-- The tree with other items directly below its root. -/
def withTop (tree : ItemTree) (order : List ItemId) : ItemTree :=
  { tree with
    nodes := tree.nodes.modify tree.root.index fun node => { node with children := order } }

/-- The root is below no item. -/
def RootFree (tree : ItemTree) : Prop := ∀ id, tree.root ∉ tree.children id

theorem IsTree.rootFree (isTree : tree.IsTree) : tree.RootFree := by
  intro id member
  obtain ⟨node, present, -⟩ := mem_children.1 member
  have inside : id.index < tree.size := (Array.getElem?_eq_some_iff.1 present).1
  exact isTree.root_not_child (List.mem_flatMap.2 ⟨id, mem_ids.2 inside, member⟩)

theorem rootFree_of_nodes (free : ∀ node ∈ tree.nodes.toList, tree.root ∉ node.children) :
    tree.RootFree := by
  intro id member
  obtain ⟨node, present, child⟩ := mem_children.1 member
  exact free node (Array.mem_toList_iff.2 (Array.mem_of_getElem? present)) child

/-! ### Single items -/

theorem node?_withTop (id : ItemId) : (tree.withTop order).node? id =
    if id = tree.root then (tree.node? id).map fun node => { node with children := order }
    else tree.node? id := by
  obtain ⟨index⟩ := id
  obtain ⟨_, ⟨root⟩, nodes, _⟩ := tree
  by_cases same : root = index <;>
    simp [withTop, node?, Array.getElem?_modify, same, eq_comm (a := index)]

/-- Only the children of the root differ. -/
theorem node?_below (below : id ≠ tree.root) : (tree.withTop order).node? id = tree.node? id := by
  rw [node?_withTop, if_neg below]

theorem kind?_withTop (id : ItemId) : (tree.withTop order).kind? id = tree.kind? id := by
  rw [kind?, kind?, node?_withTop]
  split <;> cases tree.node? id <;> rfl

theorem span_withTop (id : ItemId) : (tree.withTop order).span id = tree.span id := by
  rw [span, span, node?_withTop]
  split <;> cases tree.node? id <;> rfl

theorem isA_withTop : (tree.withTop order).isA = tree.isA := by
  funext view id
  rw [isA, isA, kind?_withTop]

theorem children_below (below : id ≠ tree.root) :
    (tree.withTop order).children id = tree.children id := by
  rw [children, children, node?_below below]

theorem children_root (perm : order.Perm (tree.children tree.root)) :
    (tree.withTop order).children tree.root = order := by
  rw [children, node?_withTop, if_pos rfl]
  cases stored : tree.node? tree.root with
  | some node => rfl
  | none =>
    rw [children, stored] at perm
    exact perm.eq_nil.symm

/-! ### Children by kind -/

theorem child?_below (below : id ≠ tree.root) (position : Nat) :
    (tree.withTop order).child? id position = tree.child? id position := by
  rw [child?, child?, children_below below]

theorem childrenOf_below (below : id ≠ tree.root) (view : ItemView) :
    (tree.withTop order).childrenOf id view = tree.childrenOf id view := by
  rw [childrenOf, childrenOf, children_below below, isA_withTop]

theorem firstOf?_below (below : id ≠ tree.root) (view : ItemView) :
    (tree.withTop order).firstOf? id view = tree.firstOf? id view := by
  simp only [firstOf?, typedItems, TypedItems.next, TypedItems.takes, children_below below,
    isA_withTop]
  split <;> simp_all

theorem lastOf?_below (below : id ≠ tree.root) (view : ItemView) :
    (tree.withTop order).lastOf? id view = tree.lastOf? id view := by
  simp only [lastOf?, typedItems, TypedItems.nextBack, TypedItems.takes, children_below below,
    isA_withTop]
  split <;> simp_all

theorem mem_of_child? {position : Nat} {child : ItemId}
    (found : tree.child? id position = some child) : child ∈ tree.children id :=
  List.mem_of_getElem? found

theorem mem_of_childrenOf {view : ItemView} {child : ItemId}
    (member : child ∈ tree.childrenOf id view) : child ∈ tree.children id :=
  (List.mem_filter.1 member).1

theorem mem_of_firstOf? {view : ItemView} {child : ItemId}
    (found : tree.firstOf? id view = some child) : child ∈ tree.children id := by
  simp only [firstOf?, TypedItems.next] at found
  split at found
  · cases found
  · rename_i first rest remaining
    cases found
    exact (List.dropWhile_sublist _).subset (remaining ▸ List.mem_cons_self)

theorem receiver?_below (free : tree.RootFree) (below : id ≠ tree.root) :
    (tree.withTop order).receiver? id = tree.receiver? id := by
  unfold receiver?
  rw [child?_below below, isA_withTop]
  cases found : tree.child? id 0 with
  | none => rfl
  | some callee =>
    have below : callee ≠ tree.root := by
      rintro rfl
      exact free id (mem_of_child? found)
    simp only [Option.bind_eq_bind, Option.bind_some, child?_below below]

/-! ### Roles -/

theorem rolesOf_below (free : tree.RootFree) (below : id ≠ tree.root) (node : ItemNode) :
    (tree.withTop order).rolesOf id node = tree.rolesOf id node := by
  unfold rolesOf
  simp only [child?_below below, childrenOf_below below, firstOf?_below below, lastOf?_below below,
    receiver?_below free below, isA_withTop]
  
/-- What the roles of an item name are children of the item. -/
theorem mem_of_parts {child : ItemId} (member : child ∈ (tree.rolesOf id node).parts) :
    child ∈ tree.children id := by
  unfold rolesOf at member
  dsimp only at member
  split at member <;>
    simp only [ItemRoles.parts, List.not_mem_nil, Option.mem_toList, List.mem_append] at member
  any_goals exact mem_of_childrenOf member
  · exact mem_of_firstOf? member
  · exact member.elim mem_of_childrenOf mem_of_childrenOf
  · generalize node.payload = payload at member
    cases payload <;> cases member
  · generalize node.payload = payload at member
    cases payload <;> exact mem_of_child? (Option.mem_toList.1 member)

theorem definitions_below {ids : List ItemId} (below : tree.root ∉ ids) :
    (tree.withTop order).definitions ids = tree.definitions ids := by
  refine List.filterMap_congr fun id member => ?_
  rw [definition?, definition?, node?_below (ne_of_mem_of_not_mem member below)]

theorem below_of_definitions {ids : List ItemId} {definition : Definition}
    (below : tree.root ∉ ids) (member : definition ∈ tree.definitions ids) :
    definition.id ≠ tree.root := by
  obtain ⟨id, listed, found⟩ := List.mem_filterMap.1 member
  obtain ⟨node, -, rfl⟩ := Option.map_eq_some_iff.1 found
  exact ne_of_mem_of_not_mem listed below

variable {definition : Definition}

theorem isTemplate_below (below : definition.id ≠ tree.root) :
    (tree.withTop order).isTemplate definition = tree.isTemplate definition := by
  rw [isTemplate, isTemplate, templateParameters?, templateParameters?, firstOf?_below below]

theorem partsOf_below (free : tree.RootFree) (below : definition.id ≠ tree.root) :
    (tree.withTop order).partsOf definition = tree.partsOf definition :=
  rolesOf_below free below _

/-- The root is no part of a definition. -/
theorem root_not_part (free : tree.RootFree) {roles : ItemRoles}
    (parts : tree.partsOf definition = roles) : tree.root ∉ roles.parts :=
  fun member => free _ (mem_of_parts (parts ▸ member))

theorem callableParts_below (free : tree.RootFree) (below : definition.id ≠ tree.root) :
    (tree.withTop order).callableParts definition = tree.callableParts definition := by
  rw [callableParts, callableParts, partsOf_below free below]
  split
  · rename_i data parameters body parts
    exact congrArg (·, data.typeName) (definitions_below (root_not_part free parts))
  · rfl

end ItemTree

namespace TemplateScope

variable {tree : ItemTree} {order : List ItemId} {definition : Definition}

theorem methodExpr_below (scope : TemplateScope) (free : tree.RootFree)
    (below : definition.id ≠ tree.root) :
    scope.methodExpr (tree.withTop order) definition = scope.methodExpr tree definition := by
  rw [methodExpr, methodExpr, ItemTree.callableParts_below free below]

theorem body_below (scope : TemplateScope) (free : tree.RootFree)
    (below : definition.id ≠ tree.root) :
    scope.body (tree.withTop order) definition = scope.body tree definition := by
  rw [body, body, ItemTree.partsOf_below free below]
  split
  · rename_i data fields parts
    have outside : tree.root ∉ fields := ItemTree.root_not_part free parts
    rw [ItemTree.definitions_below outside]
  · rename_i data base interfaces fields methods parts
    have outside : tree.root ∉ fields ++ methods := ItemTree.root_not_part free parts
    obtain ⟨outsideFields, outsideMethods⟩ := not_or.1 (mt List.mem_append.2 outside)
    have made : (tree.definitions methods).mapM (scope.methodExpr (tree.withTop order)) =
        (tree.definitions methods).mapM (scope.methodExpr tree) :=
      mapM_congr fun method member =>
        methodExpr_below scope free (ItemTree.below_of_definitions outsideMethods member)
    rw [ItemTree.definitions_below outsideFields, ItemTree.definitions_below outsideMethods, made]
  · rename_i data parameters body parts
    have outside : tree.root ∉ parameters := ItemTree.root_not_part free parts
    rw [ItemTree.definitions_below outside]
  · rfl

end TemplateScope

namespace ModuleSource

variable {source : ModuleSource} {order : List ItemId} {definition : Definition}

/-- The module with other items directly below the root of its tree. -/
def withTop (source : ModuleSource) (order : List ItemId) : ModuleSource :=
  { source with tree := source.tree.withTop order }

section Below

variable (free : source.tree.RootFree) (below : definition.id ≠ source.tree.root)

theorem parameterTypes_withTop (params : List Definition) :
    (source.withTop order).parameterTypes params = source.parameterTypes params := by
  induction params with
  | nil => rfl
  | cons param rest ih =>
    rw [parameterTypes, parameterTypes, ih]
    rfl

include free below

theorem signature_below :
    (source.withTop order).signature definition = source.signature definition := by
  have parts : (source.withTop order).tree.callableParts definition = _ :=
    ItemTree.callableParts_below free below
  rw [signature, signature, parts]
  simp only [parameterTypes_withTop]
  rfl

theorem method_below : (source.withTop order).method definition = source.method definition := by
  rw [method, method, signature_below free below]

theorem constantValue_below :
    (source.withTop order).constantValue definition = source.constantValue definition := by
  have parts : (source.withTop order).tree.partsOf definition = _ :=
    ItemTree.partsOf_below free below
  rw [constantValue, constantValue, parts]
  split
  · rename_i data value parts
    have outside : source.tree.root ∉ (some value).toList := ItemTree.root_not_part free parts
    have node : (source.withTop order).tree.node? value = _ :=
      ItemTree.node?_below fun same => outside (List.mem_singleton.2 same.symm)
    have span : (source.withTop order).tree.span value = _ := ItemTree.span_withTop value
    rw [node, span]
    rfl
  · rfl

theorem bodyOf_below : (source.withTop order).bodyOf definition = source.bodyOf definition := by
  have parts : (source.withTop order).tree.partsOf definition = _ :=
    ItemTree.partsOf_below free below
  have definitions : ∀ {ids}, source.tree.root ∉ ids →
      (source.withTop order).tree.definitions ids = source.tree.definitions ids :=
    ItemTree.definitions_below
  have methods : ∀ {ids}, source.tree.root ∉ ids →
      (source.tree.definitions ids).mapM (source.withTop order).method =
        (source.tree.definitions ids).mapM source.method :=
    fun outside => mapM_congr fun method member =>
      method_below free (ItemTree.below_of_definitions outside member)
  unfold bodyOf
  dsimp only
  rw [parts]
  split
  · rename_i data base interfaces fields callable parts
    have outside : source.tree.root ∉ fields ++ callable := ItemTree.root_not_part free parts
    obtain ⟨fields, callable⟩ := not_or.1 (mt List.mem_append.2 outside)
    rw [definitions fields, definitions callable, methods callable]
    rfl
  · rename_i data callable parts
    have outside : source.tree.root ∉ callable := ItemTree.root_not_part free parts
    rw [definitions outside, methods outside]
    rfl
  · rename_i data constants parts
    have outside : source.tree.root ∉ constants := ItemTree.root_not_part free parts
    have values : ((source.tree.definitions constants).mapM fun constant => do
        return (constant.name, ← (source.withTop order).constantValue constant)) =
        (source.tree.definitions constants).mapM fun constant => do
          return (constant.name, ← source.constantValue constant) :=
      mapM_congr fun constant member => by
        rw [constantValue_below free (ItemTree.below_of_definitions outside member)]
    rw [definitions outside, values]
    rfl
  · rename_i data fields parts
    have outside : source.tree.root ∉ fields := ItemTree.root_not_part free parts
    rw [definitions outside]
    rfl
  · rfl

theorem templateParameter_below :
    (source.withTop order).templateParameter definition = source.templateParameter definition := by
  have parts : (source.withTop order).tree.partsOf definition = _ :=
    ItemTree.partsOf_below free below
  rw [templateParameter, templateParameter, parts]
  split
  · rename_i name sort default parts
    have outside : source.tree.root ∉ default.toList := ItemTree.root_not_part free parts
    cases default with
    | none => rfl
    | some value =>
      have below : value ≠ source.tree.root :=
        fun same => outside (List.mem_singleton.2 same.symm)
      have given : (source.withTop order).tree.definition? value =
          source.tree.definition? value := by
        unfold ItemTree.definition?
        exact congrArg _ (ItemTree.node?_below below)
      dsimp only [Option.bind_some]
      rw [given]
      cases found : source.tree.definition? value with
      | none => rfl
      | some default =>
        obtain ⟨node, -, rfl⟩ := Option.map_eq_some_iff.1 found
        have roles : (source.withTop order).tree.rolesOf value node = _ :=
          ItemTree.rolesOf_below free below node
        have argument : (source.withTop order).defaultArgument value node =
            source.defaultArgument value node := by
          rw [defaultArgument, defaultArgument, roles]
          rfl
        dsimp only
        rw [argument]
        rfl
  · rfl

theorem templateParameters_below :
    (source.withTop order).templateParameters definition = source.templateParameters definition := by
  have list : (source.withTop order).tree.templateParameters? definition.id =
      source.tree.templateParameters? definition.id := ItemTree.firstOf?_below below _
  unfold templateParameters
  dsimp only
  rw [list]
  split
  · rename_i list found
    have under : list ≠ source.tree.root := by
      rintro rfl
      exact free _ (ItemTree.mem_of_firstOf? found)
    have children : (source.withTop order).tree.childrenOf list (.kind .templateParameter) =
        source.tree.childrenOf list (.kind .templateParameter) := ItemTree.childrenOf_below under _
    have outside : source.tree.root ∉ source.tree.childrenOf list (.kind .templateParameter) :=
      fun member => free _ (ItemTree.mem_of_childrenOf member)
    have definitions : (source.withTop order).tree.definitions _ = _ :=
      ItemTree.definitions_below outside
    rw [children, definitions]
    exact mapM_congr fun param member =>
      templateParameter_below free (ItemTree.below_of_definitions outside member)
  · rfl

theorem declareTemplate_below :
    (source.withTop order).declareTemplate definition = source.declareTemplate definition := by
  have registers : (source.withTop order).registerTemplate definition =
      source.registerTemplate definition := by
    funext parameters
    unfold registerTemplate
    have body : ∀ scope : TemplateScope, scope.body (source.withTop order).tree definition =
        scope.body source.tree definition := fun scope => scope.body_below free below
    simp only [body]
    rfl
  unfold declareTemplate
  rw [registers, templateParameters_below free below]
  rfl

theorem defineNominal_below (ty : TypeId) :
    (source.withTop order).defineNominal definition ty = source.defineNominal definition ty := by
  rw [defineNominal, defineNominal, bodyOf_below free below]
  rfl

theorem declareFunction_below :
    (source.withTop order).declareFunction definition = source.declareFunction definition := by
  rw [declareFunction, declareFunction, signature_below free below]

end Below

/-! ### The pass -/

/-- The pass over some definitions. -/
def declareAll (source : ModuleSource) (definitions : List Definition) : DeclareM Unit := do
  let pending ← source.declareNominals definitions
  (definitions.filter source.tree.isTemplate).forM source.declareTemplate
  (source.plainOf .typeAliasDefinition definitions).forM source.declareAlias
  pending.forM fun (definition, ty) => source.defineNominal definition ty
  (source.plainOf .functionDefinition definitions).forM source.declareFunction

theorem declare_eq (source : ModuleSource) :
    source.declare = source.declareAll source.tree.topDefinitions := rfl

/-- What is declared is among the definitions. -/
theorem mem_of_declareNominals (definitions : List Definition) (state : Declaring) :
    ∀ declared ∈ ((source.declareNominals definitions).run state).1, declared.1 ∈ definitions := by
  induction definitions generalizing state with
  | nil => exact List.forall_mem_nil _
  | cons definition rest ih =>
    have behind : ∀ declared ∈ ((source.declareNominals rest).run state).1,
        declared.1 ∈ definition :: rest :=
      fun declared member => List.mem_cons_of_mem _ (ih state declared member)
    unfold declareNominals
    split
    · exact behind
    · rename_i kind _
      split
      · exact behind
      · intro declared member
        rcases List.mem_append.1 member with first | others
        · obtain ⟨ty, -, rfl⟩ := Option.map_eq_some_iff.1 (Option.mem_toList.1 first)
          exact List.mem_cons_self
        · exact List.mem_cons_of_mem _ (ih _ declared others)

section Below

variable {definitions : List Definition} (free : source.tree.RootFree)
  (below : ∀ definition ∈ definitions, definition.id ≠ source.tree.root)

include below

theorem isTemplate_withTop : ∀ definition ∈ definitions,
    (source.withTop order).tree.isTemplate definition = source.tree.isTemplate definition :=
  fun definition member => ItemTree.isTemplate_below (below definition member)

theorem filter_withTop : definitions.filter (source.withTop order).tree.isTemplate =
    definitions.filter source.tree.isTemplate :=
  List.filter_congr (isTemplate_withTop below)

theorem plainOf_withTop (kind : ItemKind) :
    (source.withTop order).plainOf kind definitions = source.plainOf kind definitions :=
  List.filter_congr fun definition member => by rw [isTemplate_withTop below definition member]

theorem declareNominals_withTop :
    (source.withTop order).declareNominals definitions = source.declareNominals definitions := by
  have single : (source.withTop order).declareNominal = source.declareNominal := by
    have request : (source.withTop order).requestOf = source.requestOf := by
      funext definition kind
      have locator : (source.withTop order).tree.locator definition.id definition.node =
          source.tree.locator definition.id definition.node := by
        unfold ItemTree.locator
        exact congrArg (fun span => ItemLocator.ofParts _ _ (TokenSpan.start span))
          (ItemTree.span_withTop definition.id)
      rw [requestOf, requestOf, locator]
    funext definition kind
    unfold declareNominal
    rw [request]
    rfl
  induction definitions with
  | nil => rfl
  | cons definition rest ih =>
    obtain ⟨first, others⟩ := List.forall_mem_cons.1 below
    rw [declareNominals, declareNominals, ih others, single]
    have template : (source.withTop order).tree.isTemplate definition = _ :=
      ItemTree.isTemplate_below first
    rw [template]

include free

/-- The pass does the same for definitions below the root. -/
theorem declareAll_withTop (state : Declaring) :
    ((source.withTop order).declareAll definitions).run state =
      (source.declareAll definitions).run state := by
  have inside : ∀ {kept : Definition → Bool}, ∀ definition ∈ definitions.filter kept,
      definition.id ≠ source.tree.root :=
    fun definition member => below definition (List.mem_filter.1 member).1
  have templates : (definitions.filter source.tree.isTemplate).forM
      (source.withTop order).declareTemplate =
        (definitions.filter source.tree.isTemplate).forM source.declareTemplate :=
    forM_congr fun definition member => declareTemplate_below free (inside definition member)
  have functions : (source.plainOf .functionDefinition definitions).forM
      (source.withTop order).declareFunction =
        (source.plainOf .functionDefinition definitions).forM source.declareFunction :=
    forM_congr fun definition member => declareFunction_below free (inside definition member)
  rcases ran : (source.declareNominals definitions).run state with ⟨pending, after⟩
  have bodies : pending.forM
      (fun (definition, ty) => (source.withTop order).defineNominal definition ty) =
        pending.forM fun (definition, ty) => source.defineNominal definition ty := by
    refine forM_congr fun declared member => defineNominal_below free (below _ ?_) _
    have among := source.mem_of_declareNominals definitions state declared
    rw [ran] at among
    exact among member
  unfold declareAll
  rw [declareNominals_withTop below, filter_withTop below, plainOf_withTop below,
    plainOf_withTop below, templates, functions, run_bind_of ran, run_bind_of ran, bodies]
  rfl

end Below

/-- The definitions below the root in another order. -/
theorem topDefinitions_withTop (free : source.tree.RootFree)
    (perm : order.Perm (source.tree.children source.tree.root)) :
    (source.withTop order).tree.topDefinitions =
      source.tree.definitions (order.filter (source.tree.isA .definition)) := by
  have children : (source.withTop order).tree.children source.tree.root = order :=
    ItemTree.children_root perm
  have views : (source.withTop order).tree.isA = source.tree.isA := ItemTree.isA_withTop
  have root : (source.withTop order).tree.root = source.tree.root := rfl
  rw [ItemTree.topDefinitions, ItemTree.childrenOf, root, children, views]
  exact ItemTree.definitions_below fun member =>
    free _ (perm.subset (List.mem_filter.1 member).1)

theorem perm_topDefinitions (free : source.tree.RootFree)
    (perm : order.Perm (source.tree.children source.tree.root)) :
    (source.withTop order).tree.topDefinitions.Perm source.tree.topDefinitions := by
  rw [topDefinitions_withTop free perm]
  exact (perm.filter _).filterMap _

/-- The definitions directly below the root are not the root. -/
theorem below_topDefinitions (free : source.tree.RootFree) :
    ∀ definition ∈ source.tree.topDefinitions, definition.id ≠ source.tree.root :=
  fun _ => ItemTree.below_of_definitions fun member =>
    free _ (ItemTree.mem_of_childrenOf member)

/-- The pass over a tree in another order is the pass over its definitions in that order. -/
theorem declare_withTop (free : source.tree.RootFree)
    (perm : order.Perm (source.tree.children source.tree.root)) (state : Declaring) :
    (source.withTop order).declare.run state =
      (source.declareAll (source.withTop order).tree.topDefinitions).run state := by
  rw [declare_eq]
  exact declareAll_withTop free (fun definition member => below_topDefinitions free definition
    ((perm_topDefinitions free perm).subset member)) state

end ModuleSource

end FrontEnd
