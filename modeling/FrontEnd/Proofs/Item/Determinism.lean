import FrontEnd.Proofs.Item.Arena
import Mathlib

/-!
What the verdicts on items mean. An item is deterministic exactly if no impure item runs where it
stands: none is reached from it by going down to children, where one neither goes below an opaque item
nor into the callee of a call. The one pass over the items finds this because children come before
their parents, so that each verdict is there when it is read.
-/

namespace FrontEnd

namespace ItemNode

/-- The item depends on more than its operands, or changes something, whatever is below it. -/
def IsImpure (node : ItemNode) : Prop :=
  node.kind.isLoop ∨
    node.kind ∈ [.breakLoop, .continueLoop, .goto, .yieldValue, .tryCatch, .useResource] ∨
    (node.kind = .call ∧ node.payload = .call true) ∨
    (node.kind = .unary ∨ node.kind = .binary) ∧ ∃ op, node.payload = .operator op ∧ op.isMutating

/-- What is below the item does not run where the item stands. Of the definitions, only those of
variables run. -/
def IsOpaque (node : ItemNode) : Prop :=
  node.kind.isLiteral ∨ node.kind = .variableReference ∨ node.kind = .importModule ∨
    node.kind.family = .template ∨ (node.kind.isDefinition ∧ node.kind ≠ .variableDefinition)

/-- The item has the child at a place other than that of a callee. -/
def HasOperand (node : ItemNode) (child : ItemId) : Prop :=
  ∃ position, node.children[position]? = some child ∧ ¬ (node.kind = .call ∧ position = 0)

/-- The verdict on an item, if each verdict that it is made from is there. -/
def judge? (node : ItemNode) (known : Array Bool) : Option Bool :=
  match node.determinism with
  | .never => some false
  | .always => some true
  | .asChildren children =>
    (children.mapM fun child => known[child.index]?).map fun verdicts => verdicts.all id

variable {node : ItemNode} {known later : Array Bool} {child : ItemId}

theorem hasOperand_iff (other : node.kind ≠ .call) :
    node.HasOperand child ↔ child ∈ node.children := by
  simp [HasOperand, other, List.mem_iff_getElem?]

theorem hasOperand_call (isCall : node.kind = .call) :
    node.HasOperand child ↔ child ∈ node.children.drop 1 := by
  rw [HasOperand, List.mem_iff_getElem?]
  constructor
  · rintro ⟨position, found, behind⟩
    obtain ⟨place, rfl⟩ := Nat.exists_eq_succ_of_ne_zero fun first => behind ⟨isCall, first⟩
    exact ⟨place, by rwa [List.getElem?_drop, Nat.add_comm]⟩
  · rintro ⟨place, found⟩
    exact ⟨1 + place, by rwa [List.getElem?_drop] at found, by omega⟩

/-- The rules of the many kinds come down to three: an impure item is never deterministic, an opaque
one always is, and any other is if its operands are. -/
theorem determinism_cases (node : ItemNode) :
    (node.determinism = .never ∧ node.IsImpure) ∨
    (node.determinism = .always ∧ ¬ node.IsImpure ∧ node.IsOpaque) ∨
    ∃ children, node.determinism = .asChildren children ∧ ¬ node.IsImpure ∧ ¬ node.IsOpaque ∧
      ∀ child, child ∈ children ↔ node.HasOperand child := by
  obtain ⟨kind, span, payload, children, parent⟩ := node
  cases kind <;> simp [determinism, IsImpure, IsOpaque, ItemKind.isLoop, ItemKind.isLiteral,
    ItemKind.family, ItemKind.isDefinition, hasOperand_iff]
  case call =>
    by_cases method : payload = .call true
    · exact .inl method
    · have isCall : ItemNode.kind ⟨.call, span, payload, children, parent⟩ = .call := rfl
      exact .inr ⟨children.drop 1, by simp [method], method, fun _ => (hasOperand_call isCall).symm⟩
  all_goals
    -- An operator decides, and a payload of another shape does not count as one.
    cases payload with
    | operator op =>
      cases mutates : op.isMutating with
      | true => exact .inl (by simp [mutates])
      | false => exact .inr ⟨children, by simp [mutates]⟩
    | _ => exact .inr ⟨children, by simp⟩

/-- The verdict on an item is true exactly if it is not impure, and is opaque or has true verdicts on
all its operands. -/
theorem judge_eq_true_iff : node.judge known = true ↔ ¬ node.IsImpure ∧
    (¬ node.IsOpaque → ∀ child, node.HasOperand child → known[child.index]?.getD false = true) := by
  rw [judge]
  rcases node.determinism_cases with ⟨rule, impure⟩ | ⟨rule, pure_, hidden⟩ |
    ⟨children, rule, pure_, open_, operands⟩
  · simp [rule, impure]
  · simp [rule, pure_, hidden]
  · simp [rule, pure_, open_, ← operands]

/-- Verdicts that are all there when they are read may as well be read later. -/
theorem judge?_eq (reads : ∀ child ∈ node.children, ∃ verdict, known[child.index]? = some verdict ∧
    later[child.index]? = some verdict) : node.judge? known = some (node.judge later) := by
  unfold judge? judge
  rcases node.determinism_cases with ⟨rule, -⟩ | ⟨rule, -⟩ | ⟨children, rule, -, -, operands⟩
  · rw [rule]
  · rw [rule]
  · rw [rule]
    have inside : ∀ child ∈ children, child ∈ node.children := by
      intro child member
      obtain ⟨position, found, -⟩ := (operands child).1 member
      exact List.mem_of_getElem? found
    clear rule operands
    dsimp only
    induction children with
    | nil => rfl
    | cons child rest ih =>
      obtain ⟨verdict, now, then_⟩ := reads child (inside child List.mem_cons_self)
      have others := ih fun child member => inside child (List.mem_cons_of_mem _ member)
      obtain ⟨verdicts, read, same⟩ := Option.map_eq_some_iff.1 others
      simp [now, then_, read, same]

end ItemNode

/-! ### One pass -/

/-- The verdicts on items in one pass that stops where a verdict is read that is not there yet. -/
def verdicts? (nodes : List ItemNode) : Option (Array Bool) :=
  nodes.foldlM (fun known node => (node.judge? known).map known.push) #[]

/-- Every child comes before its parent. -/
def Descends (nodes : List ItemNode) : Prop :=
  ∀ (index : Nat) (node : ItemNode), nodes[index]? = some node →
    ∀ child ∈ node.children, child.index < index

variable {nodes before : List ItemNode} {node : ItemNode}

theorem Descends.init (descends : Descends (before ++ [node])) : Descends before := by
  intro index inner found
  refine descends index inner ?_
  rw [List.getElem?_append_left (List.getElem?_eq_some_iff.1 found).1]
  exact found

/-- What one step keeps: the verdicts so far are one for each item, and each follows from the others
by the rule for its item. -/
structure Judged (nodes : List ItemNode) (known : Array Bool) : Prop where
  size : known.size = nodes.length
  rule : ∀ (index : Nat) (node : ItemNode), nodes[index]? = some node → known[index]? = some (node.judge known)

theorem Judged.push {known : Array Bool} (judged : Judged before known)
    (descends : Descends (before ++ [node])) :
    node.judge? known = some (node.judge known) ∧
      Judged (before ++ [node]) (known.push (node.judge known)) := by
  -- A verdict is not changed by what comes behind all that it is made from.
  have stays : ∀ (index : Nat) (inner : ItemNode), (before ++ [node])[index]? = some inner →
      index ≤ before.length → inner.judge? known = some (inner.judge known) ∧
        inner.judge (known.push (node.judge known)) = inner.judge known := by
    intro index inner found early
    have there : ∀ child ∈ inner.children, child.index < known.size := fun child member =>
      judged.size ▸ Nat.lt_of_lt_of_le (descends index inner found child member) early
    have now : inner.judge? known = some (inner.judge known) :=
      ItemNode.judge?_eq fun child member => ⟨_, Array.getElem?_eq_getElem (there child member),
        Array.getElem?_eq_getElem (there child member)⟩
    have then_ : inner.judge? known = some (inner.judge (known.push (node.judge known))) :=
      ItemNode.judge?_eq fun child member => ⟨_, Array.getElem?_eq_getElem (there child member),
        Array.getElem?_push_lt (there child member)⟩
    exact ⟨now, Option.some.inj (then_.symm.trans now)⟩
  refine ⟨(stays before.length node (by simp) le_rfl).1, by simp [judged.size], ?_⟩
  intro index inner found
  rcases Nat.lt_trichotomy index before.length with early | rfl | late
  · have known_ : before[index]? = some inner := by rwa [List.getElem?_append_left early] at found
    rw [(stays index inner found early.le).2, Array.getElem?_push, if_neg (judged.size ▸ early.ne)]
    exact judged.rule index inner known_
  · have same : node = inner := by simpa using found
    subst same
    rw [(stays _ node found le_rfl).2, ← judged.size, Array.getElem?_push_size]
  · have outside : (before ++ [node])[index]? = none := by
      rw [List.getElem?_eq_none_iff, List.length_append]
      exact late
    cases outside.symm.trans found

/-- Over items of which the children come first, the pass never stops, and leaves one verdict for each
item by the rule for it. -/
theorem verdicts_judged (descends : Descends nodes) :
    verdicts? nodes = some (verdicts nodes.toArray) ∧ Judged nodes (verdicts nodes.toArray) := by
  induction nodes using List.reverseRecOn with
  | nil => exact ⟨rfl, rfl, fun index node found => by simp at found⟩
  | append_singleton before node ih =>
    obtain ⟨passed, judged⟩ := ih descends.init
    obtain ⟨there, judged'⟩ := judged.push descends
    have grown : verdicts (before ++ [node]).toArray =
        (verdicts before.toArray).push (node.judge (verdicts before.toArray)) := by
      simp [verdicts]
    rw [grown]
    refine ⟨?_, judged'⟩
    have passed' : before.foldlM (fun known node => (node.judge? known).map known.push) #[] =
        some (verdicts before.toArray) := passed
    rw [verdicts?, List.foldlM_append, passed']
    simp [there]

namespace ItemTree

/-! ### What verdicts mean -/

/-- The lower item is a child of the upper one and runs where the upper one stands. -/
def Runs (tree : ItemTree) (upper lower : ItemId) : Prop :=
  ∃ node, tree.node? upper = some node ∧ ¬ node.IsOpaque ∧ node.HasOperand lower

/-- An impure item runs where the item stands, which may be the item itself. -/
def RunsImpure (tree : ItemTree) (id : ItemId) : Prop :=
  ∃ below node, Relation.ReflTransGen tree.Runs id below ∧ tree.node? below = some node ∧
    node.IsImpure

variable {tree : ItemTree} {id : ItemId} {node : ItemNode}

/-- An item runs an impure one if it is impure itself or one of its operands runs one. -/
theorem runsImpure_iff (found : tree.node? id = some node) : tree.RunsImpure id ↔
    node.IsImpure ∨ ¬ node.IsOpaque ∧ ∃ child, node.HasOperand child ∧ tree.RunsImpure child := by
  constructor
  · rintro ⟨below, inner, reached, present, impure⟩
    rcases reached.cases_head with rfl | ⟨child, ⟨upper, found', open_, operand⟩, rest⟩
    · cases found.symm.trans present
      exact .inl impure
    · cases found.symm.trans found'
      exact .inr ⟨open_, child, operand, below, inner, rest, present, impure⟩
  · rintro (impure | ⟨open_, child, operand, below, inner, rest, present, impure⟩)
    · exact ⟨id, node, .refl, found, impure⟩
    · exact ⟨below, inner, .head ⟨node, found, open_, operand⟩ rest, present, impure⟩

/-- The operands of an item of a tree are items of the tree that come before it. -/
theorem IsTree.operand_lt (isTree : tree.IsTree) (found : tree.node? id = some node) {child : ItemId}
    (operand : node.HasOperand child) : child.index < id.index := by
  obtain ⟨position, stored, -⟩ := operand
  have member : child ∈ tree.children id :=
    mem_children.2 ⟨node, found, List.mem_of_getElem? stored⟩
  exact isTree.below child id ((isTree.mem_children_iff id child).1 member)

theorem IsTree.descends (isTree : tree.IsTree) : Descends tree.nodes.toList := by
  intro index node found child member
  rw [Array.getElem?_toList] at found
  exact isTree.below child ⟨index⟩
    ((isTree.mem_children_iff ⟨index⟩ child).1 (mem_children.2 ⟨node, found, member⟩))

/-- Verdicts by the rules are true exactly on the items that run no impure one. The induction goes
along the order of pushing, in which operands come first. -/
theorem IsTree.deterministic_iff_of_judged (isTree : tree.IsTree)
    (judged : Judged tree.nodes.toList tree.deterministic) (inside : id.index < tree.size) :
    tree.isDeterministic id = true ↔ ¬ tree.RunsImpure id := by
  induction bound : id.index using Nat.strong_induction_on generalizing id with
  | _ index ih =>
    obtain ⟨node, found⟩ := exists_node inside
    have verdict : tree.isDeterministic id = node.judge tree.deterministic := by
      have stored := judged.rule id.index node (by rwa [Array.getElem?_toList])
      rw [isDeterministic, stored, Option.getD_some]
    have operands : ∀ child, node.HasOperand child →
        (tree.isDeterministic child = true ↔ ¬ tree.RunsImpure child) := by
      intro child operand
      have lower := isTree.operand_lt found operand
      exact ih child.index (bound ▸ lower) (lower.trans inside) rfl
    rw [verdict, ItemNode.judge_eq_true_iff, runsImpure_iff found, not_or]
    refine and_congr_right fun _ => ?_
    rw [not_and]
    refine imp_congr_right fun _ => ?_
    rw [not_exists]
    refine forall_congr' fun child => ?_
    rw [not_and]
    exact imp_congr_right (operands child)

end ItemTree

/-- However a tree was built, the pass that judges its items never reads a verdict that is not there
yet, and an item is deterministic exactly if neither it is impure nor an impure item is reached from
it by going down to children, where one does not pass below an opaque item and does not enter the
callee of a call. -/
theorem ItemArena.deterministic_after (source : SourceId) (calls : List TreeCall) (root : ItemId)
    (tree : ItemTree)
    (finished : (ItemArena.after { source } calls).unpack.finish root = .ok tree) :
    verdicts? tree.nodes.toList = some tree.deterministic ∧
      ∀ id, id.index < tree.size → (tree.isDeterministic id = true ↔ ¬ tree.RunsImpure id) := by
  obtain ⟨-, same⟩ := after_unpack (packed_empty source) calls
  have start : unpack { source } = { source } := by simp [unpack]
  rw [start] at same
  rw [same] at finished
  have isTree := ((ItemForest.tidy_empty source).after calls).isTree finished
  obtain ⟨-, -, rfl⟩ := ItemForest.finish_eq_ok_iff.1 finished
  obtain ⟨passed, judged⟩ := verdicts_judged isTree.descends
  exact ⟨passed, fun id inside => isTree.deterministic_iff_of_judged judged inside⟩

namespace ItemArena

/-- Calls that build a call with one argument, the callee of which changes an operand. -/
def changingCallee : List TreeCall :=
  [.push .variableReference .nowhere (.name .empty) [],
   .push .unary .nowhere (.operator .postIncrement) [⟨0⟩],
   .push .integerLiteral .nowhere (.literal .empty) [],
   .push .call .nowhere (.call false) [⟨1⟩, ⟨2⟩]]

/-- What comes of them. -/
def changingCalleeTree : ItemTree where
  source := default
  root := ⟨3⟩
  nodes := #[
    ⟨.variableReference, .nowhere, .name .empty, [], some ⟨1⟩⟩,
    ⟨.unary, .nowhere, .operator .postIncrement, [⟨0⟩], some ⟨3⟩⟩,
    ⟨.integerLiteral, .nowhere, .literal .empty, [], some ⟨3⟩⟩,
    ⟨.call, .nowhere, .call false, [⟨1⟩, ⟨2⟩], none⟩]
  deterministic := #[true, false, true, true]

/-- The callee is not deterministic, but the call is. -/
theorem deterministic_after_changingCallee :
    (ItemArena.after { source := default } changingCallee).unpack.finish ⟨3⟩ =
        .ok changingCalleeTree ∧
      changingCalleeTree.RunsImpure ⟨1⟩ ∧ ¬ changingCalleeTree.RunsImpure ⟨3⟩ := by
  have finished : (ItemArena.after { source := default } changingCallee).unpack.finish ⟨3⟩ =
      .ok changingCalleeTree := by cbv
  obtain ⟨-, verdicts⟩ := deterministic_after default changingCallee ⟨3⟩ changingCalleeTree finished
  refine ⟨finished, ?_, (verdicts ⟨3⟩ (by decide)).1 rfl⟩
  by_contra pure_
  cases (verdicts ⟨1⟩ (by decide)).2 pure_

end ItemArena

end FrontEnd
