import FrontEnd.Proofs.Item.Forest

/-!
What makes a tree of items a tree. The parents above an item have ever larger numbers, and only the
root has no parent, so that they lead to the root from wherever they start. The root therefore has
the largest number of all.
-/

namespace FrontEnd

namespace ItemTree

/-- One item is the parent of the other. -/
def Above (tree : ItemTree) (child parent : ItemId) : Prop := tree.parent? child = some parent

/-- The items make up a tree under the root, with parents pushed after their children. -/
structure IsTree (tree : ItemTree) : Prop where
  /-- The two directions agree. -/
  mem_children_iff : ∀ parent child, child ∈ tree.children parent ↔ tree.Above child parent
  /-- Of all the places in all lists of children, every item but the root has exactly one. -/
  count_eq_one : ∀ child, child.index < tree.size → child ≠ tree.root →
    (tree.ids.flatMap tree.children).count child = 1
  root_not_child : tree.root ∉ tree.ids.flatMap tree.children
  root_bare : tree.parent? tree.root = none
  below : ∀ child parent, tree.Above child parent → child.index < parent.index
  /-- The root was pushed last. -/
  root_last : tree.root.index + 1 = tree.size
  /-- From an item, parents lead up to the root. -/
  chain : ∀ id, id.index < tree.size → (id :: tree.ancestors id).IsChain tree.Above ∧
    (id :: tree.ancestors id).Pairwise (fun lower upper => lower.index < upper.index) ∧
    (id :: tree.ancestors id).getLast? = some tree.root
  /-- The climb ends by itself, however many more steps it may take. -/
  climb_eq : ∀ id steps, id.index < tree.size → tree.size ≤ steps →
    tree.climb id steps = tree.ancestors id
  reachable : ∀ id, id.index < tree.size →
    Relation.ReflTransGen (fun parent child => child ∈ tree.children parent) tree.root id

variable {tree : ItemTree} {id parent child root : ItemId} {node : ItemNode}

theorem exists_node (inside : id.index < tree.size) : ∃ node, tree.node? id = some node :=
  ⟨_, Array.getElem?_eq_getElem inside⟩

theorem above_iff : tree.Above child parent ↔
    ∃ node, tree.node? child = some node ∧ node.parent = some parent := by
  rw [Above, parent?, Option.bind_eq_some_iff]

theorem mem_children : child ∈ tree.children parent ↔
    ∃ node, tree.node? parent = some node ∧ child ∈ node.children := by
  rw [children]
  cases tree.node? parent <;> simp

theorem mem_ids : id ∈ tree.ids ↔ id.index < tree.size := by
  obtain ⟨index⟩ := id
  simp [ids]

theorem nodup_ids : tree.ids.Nodup :=
  List.nodup_range.map fun _ _ same => congrArg ItemId.index same

/-! ### Climbing -/

section Climb

variable (below : ∀ child parent, tree.Above child parent → child.index < parent.index)
  (stays : ∀ child parent, tree.Above child parent → parent.index < tree.size)
  (alone : ∀ id, id.index < tree.size → id ≠ root → ∃ parent, tree.Above id parent)
  (bare : tree.parent? root = none)

include below in
theorem climb_pairwise (id : ItemId) (steps : Nat) :
    (id :: tree.climb id steps).IsChain tree.Above ∧
      (id :: tree.climb id steps).Pairwise fun lower upper => lower.index < upper.index := by
  have linked : (id :: tree.climb id steps).IsChain tree.Above := by
    induction steps generalizing id with
    | zero => exact .singleton id
    | succ steps ih =>
      rw [climb]
      cases above : tree.parent? id with
      | none => exact .singleton id
      | some parent => exact .cons_cons above (ih parent)
  refine ⟨linked, ?_⟩
  have rising := linked.imp (S := fun lower upper => lower.index < upper.index) below
  exact List.isChain_iff_pairwise.1 rising

include below stays alone bare in
/-- With enough steps the climb arrives, since every step leaves fewer items above. -/
theorem climb_arrives (id : ItemId) (inside : id.index < tree.size) (steps : Nat)
    (enough : tree.size ≤ id.index + steps) :
    (id :: tree.climb id steps).getLast? = some root ∧
      ∀ more, tree.climb id (steps + more) = tree.climb id steps := by
  induction steps generalizing id with
  | zero => omega
  | succ steps ih =>
    simp only [Nat.add_right_comm steps 1, climb]
    by_cases top : id = root
    · subst top
      simp [bare]
    · obtain ⟨parent, above⟩ := alone id inside top
      have higher := below id parent above
      obtain ⟨last, same⟩ := ih parent (stays id parent above) (by omega)
      rw [show tree.parent? id = some parent from above]
      exact ⟨by rw [List.getLast?_cons_cons, last], fun more => congrArg _ (same more)⟩

end Climb

/-- Going up along a chain, the top reaches the bottom. -/
theorem reachable_of_chain {top : ItemId} {path : List ItemId}
    (agree : ∀ parent child, child ∈ tree.children parent ↔ tree.Above child parent)
    (linked : (id :: path).IsChain tree.Above) (last : (id :: path).getLast? = some top) :
    Relation.ReflTransGen (fun parent child => child ∈ tree.children parent) top id := by
  induction path generalizing id with
  | nil =>
    cases last
    exact .refl
  | cons parent rest ih =>
    obtain ⟨above, linked⟩ := List.isChain_cons_cons.1 linked
    rw [List.getLast?_cons_cons] at last
    exact .tail (ih linked last) ((agree parent id).2 above)

end ItemTree

namespace ItemForest

variable {forest : ItemForest} {root : ItemId} {tree : ItemTree}

/-- A tidy forest that has become a tree is one. -/
theorem Tidy.isTree (tidy : forest.Tidy) (finished : forest.finish root = .ok tree) :
    tree.IsTree := by
  obtain ⟨⟨top, stored, bare⟩, attached, rfl⟩ := finish_eq_ok_iff.1 finished
  set tree : ItemTree := ⟨forest.source, root, forest.nodes, verdicts forest.nodes⟩
  have agree : ∀ parent child, child ∈ tree.children parent ↔ tree.Above child parent := by
    intro parent child
    rw [ItemTree.mem_children, ItemTree.above_iff]
    exact ⟨fun ⟨node, present, member⟩ => tidy.exists_child parent node present child member,
      fun ⟨inner, present, above⟩ => tidy.exists_parent child inner parent present above⟩
  have below : ∀ child parent, tree.Above child parent → child.index < parent.index := by
    intro child parent above
    obtain ⟨inner, present, above⟩ := ItemTree.above_iff.1 above
    exact tidy.below child inner parent present above
  have stays : ∀ child parent, tree.Above child parent → parent.index < tree.size := by
    intro child parent above
    obtain ⟨node, present, -⟩ := ItemTree.mem_children.1 ((agree parent child).2 above)
    exact (Array.getElem?_eq_some_iff.1 present).1
  have alone : ∀ id, id.index < tree.size → id ≠ root → ∃ parent, tree.Above id parent := by
    intro id inside different
    obtain ⟨node, present⟩ := ItemTree.exists_node inside
    obtain ⟨parent, above⟩ := Option.ne_none_iff_exists'.1 (attached id node different present)
    exact ⟨parent, ItemTree.above_iff.2 ⟨node, present, above⟩⟩
  have rootBare : tree.parent? root = none := by
    rw [ItemTree.parent?, show tree.node? root = some top from stored]
    exact bare
  have once : (tree.ids.flatMap tree.children).Nodup := by
    refine List.nodup_flatMap.2 ⟨fun parent member => ?_, ?_⟩
    · obtain ⟨node, present⟩ := ItemTree.exists_node (ItemTree.mem_ids.1 member)
      rw [ItemTree.children, present]
      exact tidy.once parent node present
    · -- A child that stood under two parents would have to have both.
      refine ItemTree.nodup_ids.imp fun {one other} different => ?_
      refine List.disjoint_left.2 fun child first second => different ?_
      exact Option.some.inj (((agree one child).1 first).symm.trans ((agree other child).1 second))
  have arrives := fun id inside =>
    ItemTree.climb_arrives below stays alone rootBare id inside tree.size (Nat.le_add_left ..)
  have chain : ∀ id, id.index < tree.size → (id :: tree.ancestors id).IsChain tree.Above ∧
      (id :: tree.ancestors id).Pairwise (fun lower upper => lower.index < upper.index) ∧
      (id :: tree.ancestors id).getLast? = some root := by
    intro id inside
    obtain ⟨linked, rising⟩ := ItemTree.climb_pairwise below id tree.size
    exact ⟨linked, rising, (arrives id inside).1⟩
  refine
    { mem_children_iff := agree
      count_eq_one := fun child inside different => ?_
      root_not_child := fun member => ?_
      root_bare := rootBare
      below := below
      root_last := ?_
      chain := chain
      climb_eq := fun id steps inside enough => ?_
      reachable := fun id inside =>
        ItemTree.reachable_of_chain agree (chain id inside).1 (chain id inside).2.2 }
  · obtain ⟨parent, above⟩ := alone child inside different
    exact List.count_eq_one_of_mem once (List.mem_flatMap.2
      ⟨parent, ItemTree.mem_ids.2 (stays child parent above), (agree parent child).2 above⟩)
  · obtain ⟨parent, -, member⟩ := List.mem_flatMap.1 member
    cases rootBare.symm.trans ((agree parent root).1 member)
  · -- From the item that was pushed last there is no way up, so it is the root.
    have inside := lt_size_of_node? stored
    have positive : 0 < forest.size := Nat.zero_lt_of_lt inside
    by_contra other
    obtain ⟨parent, above⟩ := alone ⟨forest.size - 1⟩ (Nat.sub_lt positive Nat.one_pos)
      fun same => other (by
        rw [← congrArg ItemId.index same]
        exact Nat.sub_add_cancel positive)
    have higher := below _ parent above
    have bounded := stays _ parent above
    simp only [ItemTree.size, tree] at bounded
    simp only [ItemForest.size] at higher
    omega
  · obtain ⟨more, rfl⟩ := Nat.exists_eq_add_of_le enough
    exact (arrives id inside).2 more

end ItemForest

end FrontEnd
