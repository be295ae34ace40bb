import FrontEnd.Item.Tree
import Mathlib.Data.List.Chain
import Mathlib.Data.List.Nodup
import Mathlib.Logic.Relation

/-!
Forests are forests and trees are trees. Pushing keeps the two directions in step: a child knows its
parent exactly if it stands among the parent's children, there once, and before the parent. A forest
in which only one item has no parent is therefore a tree: from every item the parents lead up to the
root, and the root is the item that was pushed last.
-/

namespace FrontEnd

/-- A call of whoever builds a tree. -/
inductive TreeCall where
  | push (kind : ItemKind) (span : TokenSpan) (payload : ItemPayload) (children : List ItemId)
  | annotate (id : ItemId) (remark : Remark)

namespace ItemForest

/-- The answer to a call, the new item if it pushes one, and the forest after it. -/
def perform (forest : ItemForest) : TreeCall → Except TreeError (Option ItemId) × ItemForest
  | .push kind span payload children => match forest.push kind span payload children with
    | .ok (id, after) => (.ok (some id), after)
    | .error err => (.error err, forest)
  | .annotate id remark => match forest.annotate id remark with
    | .ok after => (.ok none, after)
    | .error err => (.error err, forest)

/-- The forest after calls one after the other. -/
def after (forest : ItemForest) (calls : List TreeCall) : ItemForest :=
  calls.foldl (fun forest call => (forest.perform call).2) forest

/-- An item of the forest. -/
def node? (forest : ItemForest) (id : ItemId) : Option ItemNode := forest.nodes[id.index]?

variable {forest next : ItemForest} {id parent child root : ItemId} {kind : ItemKind}
  {span : TokenSpan} {payload : ItemPayload} {children : List ItemId} {node : ItemNode}

/-! ### Single calls -/

private theorem getElem?_attachAll (children : List ItemId) (nodes : Array ItemNode) (index : Nat) :
    (children.foldl (attach parent) nodes)[index]? = nodes[index]?.map fun node =>
      if ⟨index⟩ ∈ children then { node with parent := some parent } else node := by
  induction children generalizing nodes with
  | nil => simp
  | cons child rest ih =>
    rw [List.foldl_cons, ih, attach, Array.getElem?_modify]
    obtain ⟨own⟩ := child
    by_cases same : own = index
    · subst same
      cases nodes[own]? <;> simp
    · have other : (⟨index⟩ : ItemId) ≠ ⟨own⟩ := fun equal =>
        same (congrArg ItemId.index equal).symm
      simp [same, other]

private theorem size_attachAll (children : List ItemId) (nodes : Array ItemNode) :
    (children.foldl (attach parent) nodes).size = nodes.size := by
  induction children generalizing nodes with
  | nil => rfl
  | cons child rest ih => rw [List.foldl_cons, ih, attach, Array.size_modify]

/-- Children pass the check exactly if each exists, has no parent, and comes once. -/
theorem checkChildren_eq_ok_iff {earlier : List ItemId} :
    forest.checkChildren earlier children = .ok () ↔
      (∀ child ∈ children, child ∉ earlier ∧
        ∃ node, forest.node? child = some node ∧ node.parent = none) ∧ children.Nodup := by
  induction children generalizing earlier with
  | nil => simp [checkChildren]
  | cons child rest ih =>
    rw [checkChildren, List.forall_mem_cons, List.nodup_cons]
    cases found : forest.nodes[child.index]? with
    | none => simp [node?, found]
    | some node =>
      cases parent : node.parent with
      | some parent => simp [node?, found, parent]
      | none =>
        by_cases seen : child ∈ earlier
        · simp [parent, seen]
        · simp only [parent, seen, if_false, ih, node?, found]
          grind

/-- What a push does: it gives the children their parent and puts the new item behind all others. -/
theorem push_ok (pushed : forest.push kind span payload children = .ok (id, next)) :
    payload.shape = kind.shape ∧ next.source = forest.source ∧ id = ⟨forest.size⟩ ∧ children.Nodup ∧
      (∀ child ∈ children, ∃ node, forest.node? child = some node ∧ node.parent = none) ∧
      ∀ other, next.node? other = if other = id then some { kind, span, payload, children }
        else (forest.node? other).map fun node =>
          if other ∈ children then { node with parent := some id } else node := by
  unfold push at pushed
  split at pushed
  · cases pushed
  · rename_i fits
    split at pushed
    · cases pushed
    · rename_i checked
      cases pushed
      obtain ⟨free, once⟩ := checkChildren_eq_ok_iff.1 checked
      refine ⟨not_not.1 fits, rfl, rfl, once,
        fun child member => (free child member).2, fun ⟨index⟩ => ?_⟩
      simp only [node?, Array.getElem?_push, size_attachAll, getElem?_attachAll, ItemId.mk.injEq]

/-- What an annotation does: it changes the payload of one definition. -/
theorem annotate_ok {remark : Remark} (annotated : forest.annotate id remark = .ok next) :
    next.source = forest.source ∧
    ∃ stored data, forest.node? id = some stored ∧ stored.payload = .definition data ∧
      ∀ other, next.node? other = if other = id then
          some { stored with
            payload := .definition { data with remarks := data.remarks ++ [remark] } }
        else forest.node? other := by
  unfold annotate at annotated
  split at annotated
  · cases annotated
  · rename_i stored found
    split at annotated
    · rename_i data same
      cases annotated
      refine ⟨rfl, stored, data, found, same, fun ⟨index⟩ => ?_⟩
      obtain ⟨place⟩ := id
      simp only [node?, Array.getElem?_modify, ItemId.mk.injEq]
      by_cases equal : place = index
      · subst equal
        simp [found]
      · simp [equal, Ne.symm equal]
    · cases annotated

/-- A call that succeeds pushes an item or annotates one; any other changes nothing. -/
theorem perform_cases (forest : ItemForest) (call : TreeCall) :
    (forest.perform call).2 = forest ∨
      (∃ kind span payload children id,
        forest.push kind span payload children = .ok (id, (forest.perform call).2)) ∨
      ∃ id remark, forest.annotate id remark = .ok (forest.perform call).2 := by
  cases call with
  | push kind span payload children =>
    simp only [perform]
    cases pushed : forest.push kind span payload children with
    | ok result => exact .inr (.inl ⟨kind, span, payload, children, result.1, pushed⟩)
    | error err => exact .inl rfl
  | annotate id remark =>
    simp only [perform]
    cases annotated : forest.annotate id remark with
    | ok after => exact .inr (.inr ⟨id, remark, annotated⟩)
    | error err => exact .inl rfl

/-- Parents and children are in step. -/
structure Tidy (forest : ItemForest) : Prop where
  /-- Only items of the forest are children. -/
  exists_child : ∀ parent node, forest.node? parent = some node →
    ∀ child ∈ node.children, ∃ inner, forest.node? child = some inner ∧ inner.parent = some parent
  exists_parent : ∀ child inner parent, forest.node? child = some inner →
    inner.parent = some parent → ∃ node, forest.node? parent = some node ∧ child ∈ node.children
  once : ∀ parent node, forest.node? parent = some node → node.children.Nodup
  below : ∀ child inner parent, forest.node? child = some inner → inner.parent = some parent →
    child.index < parent.index
  shape : ∀ id node, forest.node? id = some node → node.payload.shape = node.kind.shape

theorem lt_size_of_node? (found : forest.node? id = some node) : id.index < forest.size :=
  (Array.getElem?_eq_some_iff.1 found).1

theorem tidy_empty (source : SourceId) : Tidy { source } where
  exists_child parent node found := by simp [node?] at found
  exists_parent child inner parent found := by simp [node?] at found
  once parent node found := by simp [node?] at found
  below child inner parent found := by simp [node?] at found
  shape id node found := by simp [node?] at found

theorem Tidy.push (tidy : forest.Tidy)
    (pushed : forest.push kind span payload children = .ok (id, next)) : next.Tidy := by
  obtain ⟨fits, -, rfl, once, free, found⟩ := push_ok pushed
  -- An item is the new one, or one that was there and may have got the new one for its parent.
  have cases_ : ∀ other node, next.node? other = some node →
      (other = ⟨forest.size⟩ ∧ node = { kind, span, payload, children }) ∨
      other ≠ ⟨forest.size⟩ ∧ ∃ old, forest.node? other = some old ∧
        node = if other ∈ children then { old with parent := some ⟨forest.size⟩ } else old := by
    intro other node present
    rw [found] at present
    split at present
    · rename_i same
      exact .inl ⟨same, (Option.some.inj present).symm⟩
    · rename_i different
      obtain ⟨old, stored, same⟩ := Option.map_eq_some_iff.1 present
      exact .inr ⟨different, old, stored, same.symm⟩
  have kept : ∀ other old, forest.node? other = some old → next.node? other = some
      (if other ∈ children then { old with parent := some ⟨forest.size⟩ } else old) := by
    intro other old stored
    have inside := lt_size_of_node? stored
    rw [found, if_neg (by rintro rfl; exact Nat.lt_irrefl _ inside), stored, Option.map_some]
  refine ⟨fun parent node present child member => ?_, fun child inner parent present attached => ?_,
    fun parent node present => ?_, fun child inner parent present attached => ?_,
    fun other node present => ?_⟩
  · rcases cases_ parent node present with ⟨rfl, rfl⟩ | ⟨-, old, stored, rfl⟩
    · obtain ⟨old, stored, -⟩ := free child member
      exact ⟨_, kept child old stored, by rw [if_pos member]⟩
    · have member : child ∈ old.children := by split at member <;> exact member
      obtain ⟨inner, stored', attached⟩ := tidy.exists_child parent old stored child member
      refine ⟨_, kept child inner stored', ?_⟩
      rw [if_neg fun taken => ?_]
      · exact attached
      · obtain ⟨other, again, none_⟩ := free child taken
        cases stored'.symm.trans again
        rw [attached] at none_
        cases none_
  · rcases cases_ child inner present with ⟨rfl, rfl⟩ | ⟨-, old, stored, rfl⟩
    · cases attached
    · split at attached
      · rename_i member
        cases attached
        exact ⟨_, (found _).trans (if_pos rfl), member⟩
      · obtain ⟨node, above, member⟩ := tidy.exists_parent child old parent stored attached
        refine ⟨_, kept parent node above, ?_⟩
        split <;> exact member
  · rcases cases_ parent node present with ⟨rfl, rfl⟩ | ⟨-, old, stored, rfl⟩
    · exact once
    · have before := tidy.once parent old stored
      split <;> exact before
  · rcases cases_ child inner present with ⟨rfl, rfl⟩ | ⟨-, old, stored, rfl⟩
    · cases attached
    · split at attached
      · cases attached
        exact lt_size_of_node? stored
      · exact tidy.below child old parent stored attached
  · rcases cases_ other node present with ⟨rfl, rfl⟩ | ⟨-, old, stored, rfl⟩
    · exact fits
    · have before := tidy.shape other old stored
      split <;> exact before

theorem Tidy.annotate {remark : Remark} (tidy : forest.Tidy)
    (annotated : forest.annotate id remark = .ok next) : next.Tidy := by
  obtain ⟨-, target, data, stored, holds, found⟩ := annotate_ok annotated
  -- Every item is what it was, its payload aside.
  have back : ∀ other node, next.node? other = some node → ∃ old, forest.node? other = some old ∧
      node.children = old.children ∧ node.parent = old.parent ∧ node.kind = old.kind ∧
      node.payload.shape = old.payload.shape := by
    intro other node present
    rw [found] at present
    split at present
    · rename_i same
      cases present
      exact ⟨target, same ▸ stored, rfl, rfl, rfl, by rw [holds]; rfl⟩
    · exact ⟨node, present, rfl, rfl, rfl, rfl⟩
  have kept : ∀ other old, forest.node? other = some old → ∃ node, next.node? other = some node ∧
      node.children = old.children ∧ node.parent = old.parent := by
    intro other old present
    rw [found]
    split
    · rename_i same
      subst same
      cases stored.symm.trans present
      exact ⟨_, rfl, rfl, rfl⟩
    · exact ⟨old, present, rfl, rfl⟩
  refine ⟨fun parent node present child member => ?_, fun child inner parent present attached => ?_,
    fun parent node present => ?_, fun child inner parent present attached => ?_,
    fun other node present => ?_⟩
  · obtain ⟨old, present', children, -⟩ := back parent node present
    obtain ⟨inner, below, attached⟩ :=
      tidy.exists_child parent old present' child (children ▸ member)
    obtain ⟨inner', below', -, same⟩ := kept child inner below
    exact ⟨inner', below', same.trans attached⟩
  · obtain ⟨old, present', -, same, -⟩ := back child inner present
    obtain ⟨node, above, member⟩ := tidy.exists_parent child old parent present' (same ▸ attached)
    obtain ⟨node', above', children, -⟩ := kept parent node above
    exact ⟨node', above', children ▸ member⟩
  · obtain ⟨old, present', children, -⟩ := back parent node present
    exact children ▸ tidy.once parent old present'
  · obtain ⟨old, present', -, same, -⟩ := back child inner present
    exact tidy.below child old parent present' (same ▸ attached)
  · obtain ⟨old, present', -, -, kind, shape⟩ := back other node present
    rw [shape, kind]
    exact tidy.shape other old present'

theorem Tidy.perform (tidy : forest.Tidy) (call : TreeCall) : (forest.perform call).2.Tidy := by
  rcases forest.perform_cases call with same | ⟨_, _, _, _, _, pushed⟩ | ⟨_, _, annotated⟩
  · rw [same]
    exact tidy
  · exact tidy.push pushed
  · exact tidy.annotate annotated

theorem Tidy.after (tidy : forest.Tidy) (calls : List TreeCall) : (forest.after calls).Tidy := by
  induction calls generalizing forest with
  | nil => exact tidy
  | cons call rest ih => exact ih (tidy.perform call)

/-! ### What stays -/

/-- The item keeps what it was pushed with, remarks and parent aside. -/
def Holds (forest : ItemForest) (id : ItemId) (kind : ItemKind) (span : TokenSpan)
    (children : List ItemId) : Prop :=
  ∃ node, forest.node? id = some node ∧ node.kind = kind ∧ node.span = span ∧
    node.children = children

theorem Holds.perform (holds : forest.Holds id kind span children) (call : TreeCall) :
    (forest.perform call).2.Holds id kind span children := by
  obtain ⟨node, stored, rfl, rfl, rfl⟩ := holds
  rcases forest.perform_cases call with same | ⟨_, _, _, taken, _, pushed⟩ | ⟨_, _, annotated⟩
  · rw [same]
    exact ⟨node, stored, rfl, rfl, rfl⟩
  · obtain ⟨-, -, rfl, -, -, found⟩ := push_ok pushed
    have inside := lt_size_of_node? stored
    rw [Holds, found, if_neg (by rintro rfl; exact Nat.lt_irrefl _ inside), stored,
      Option.map_some]
    refine ⟨_, rfl, ?_⟩
    split <;> exact ⟨rfl, rfl, rfl⟩
  · obtain ⟨-, target, data, present, -, found⟩ := annotate_ok annotated
    rw [Holds, found]
    split
    · rename_i same
      subst same
      cases present.symm.trans stored
      exact ⟨_, rfl, rfl, rfl, rfl⟩
    · exact ⟨node, stored, rfl, rfl, rfl⟩

theorem Holds.after (holds : forest.Holds id kind span children) (calls : List TreeCall) :
    (forest.after calls).Holds id kind span children := by
  induction calls generalizing forest with
  | nil => exact holds
  | cons call rest ih => exact ih (holds.perform call)

/-! ### Finishing -/

/-- No orphan is found exactly if every item beside the root has a parent. -/
private theorem orphan?_eq_none_iff (stored : forest.node? root = some node)
    (bare : node.parent = none) : forest.orphan? root = none ↔
      ∀ other inner, other ≠ root → forest.node? other = some inner → inner.parent ≠ none := by
  have found : forest.nodes.toList[root.index]? = some node := by simpa [node?] using stored
  unfold orphan?
  cases search : forest.nodes.toList.findIdx? fun node => node.parent.isNone with
  | none =>
    -- The root itself is without a parent, so the search finds something.
    have none_ := List.findIdx?_eq_none_iff.1 search node (List.mem_of_getElem? found)
    simp [bare] at none_
  | some first =>
    obtain ⟨inside, free, before⟩ := List.findIdx?_eq_some_iff_getElem.1 search
    have ahead : ∀ index inner, index < first → forest.nodes.toList[index]? = some inner →
        inner.parent ≠ none := by
      intro index inner less present
      obtain ⟨_, rfl⟩ := List.getElem?_eq_some_iff.1 present
      simpa using before index less
    simp only [Option.bind_some]
    by_cases same : first = root.index
    · subst same
      simp only [ne_eq, not_true_eq_false, if_false, Option.map_eq_none_iff,
        List.findIdx?_eq_none_iff]
      constructor
      · intro rest ⟨index⟩ inner different present
        have present' : forest.nodes.toList[index]? = some inner := by simpa [node?] using present
        rcases Nat.lt_trichotomy index root.index with less | equal | more
        · exact ahead index inner less present'
        · exact absurd (congrArg ItemId.mk equal) different
        · have member : inner ∈ forest.nodes.toList.drop (root.index + 1) :=
            List.mem_of_getElem? (i := index - (root.index + 1)) (by
              rw [List.getElem?_drop, Nat.add_sub_cancel' more, present'])
          simpa [← Option.isSome_iff_ne_none] using rest inner member
      · intro alone inner member
        obtain ⟨index, present⟩ := List.mem_iff_getElem?.1 member
        rw [List.getElem?_drop] at present
        have attached := alone ⟨root.index + 1 + index⟩ inner
          (fun equal => by have := congrArg ItemId.index equal; simp at this; omega)
          (by simpa [node?] using present)
        simpa [← Option.isSome_iff_ne_none] using attached
    · simp only [ne_eq, same, not_false_eq_true, if_true, reduceCtorEq, false_iff]
      intro alone
      have different : (⟨first⟩ : ItemId) ≠ root := fun equal => same (congrArg ItemId.index equal)
      refine alone ⟨first⟩ forest.nodes.toList[first] different ?_ (by simpa using free)
      simp [node?]

/-- The forest becomes a tree exactly if the root is the only item without a parent. -/
theorem finish_eq_ok_iff {tree : ItemTree} : forest.finish root = .ok tree ↔
    (∃ node, forest.node? root = some node ∧ node.parent = none) ∧
    (∀ other node, other ≠ root → forest.node? other = some node → node.parent ≠ none) ∧
    tree = ⟨forest.source, root, forest.nodes, verdicts forest.nodes⟩ := by
  unfold finish
  cases stored : forest.nodes[root.index]? with
  | none => simp [node?, stored]
  | some node =>
    cases bare : node.parent with
    | some parent => simp [node?, stored, bare]
    | none =>
      have alone : forest.orphan? root = none ↔ _ := orphan?_eq_none_iff stored bare
      have present : ∃ node, forest.node? root = some node ∧ node.parent = none :=
        ⟨node, stored, bare⟩
      cases orphan : forest.orphan? root with
      | some item =>
        rw [orphan] at alone
        simp only [reduceCtorEq, false_iff, bare] at alone ⊢
        exact fun ⟨_, rest, _⟩ => alone rest
      | none =>
        simp only [Except.ok.injEq, bare]
        exact ⟨fun same => ⟨present, alone.1 orphan, same.symm⟩, fun ⟨_, _, same⟩ => same.symm⟩

end ItemForest

end FrontEnd
