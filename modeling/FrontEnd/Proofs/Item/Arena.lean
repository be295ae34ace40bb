import FrontEnd.Item.Arena
import FrontEnd.Proofs.Item.Tree
import FrontEnd.Proofs.Outcome

/-!
The arena of items and the forest of items give the same answers. A call on the arena goes wrong
before it changes anything, so that the arena is left as it was. Whatever comes to be from an empty
arena can therefore be read as a tidy forest, and becomes a tree when it is finished.
-/

namespace FrontEnd

namespace ItemArena

/-- The answer to a call, the new item if it pushes one, and the arena after it. -/
def perform (arena : ItemArena) : TreeCall → Except TreeError (Option ItemId) × ItemArena
  | .push kind span payload children => outcome (some <$> push kind span payload children) arena
  | .annotate id remark => outcome ((fun () => none) <$> annotate id remark) arena

/-- The arena after calls one after the other. -/
def after (arena : ItemArena) (calls : List TreeCall) : ItemArena :=
  calls.foldl (fun arena call => (arena.perform call).2) arena

/-- Every stretch lies within the list of children. -/
def Packed (arena : ItemArena) : Prop :=
  ∀ node ∈ arena.nodes, node.range.start + node.range.length ≤ arena.childIds.size

variable {arena : ItemArena}

/-! ### Reading a forest from an arena -/

theorem size_unpack (arena : ItemArena) : arena.unpack.nodes.size = arena.nodes.size :=
  Array.size_map

theorem getElem?_unpack (arena : ItemArena) (index : Nat) :
    arena.unpack.nodes[index]? = arena.nodes[index]?.map arena.unpackNode :=
  Array.getElem?_map

/-- A change of one item that keeps its children is the same change of the item of the forest. -/
theorem unpack_modify (change : PackedNode → PackedNode) (same : ItemNode → ItemNode)
    (agree : ∀ node, arena.unpackNode (change node) = same (arena.unpackNode node)) (index : Nat) :
    ({ arena with nodes := arena.nodes.modify index change } : ItemArena).unpack =
      { arena.unpack with nodes := arena.unpack.nodes.modify index same } := by
  refine congrArg (ItemForest.mk arena.source) (Array.ext_getElem? fun place => ?_)
  rw [Array.getElem?_map, Array.getElem?_modify, Array.getElem?_modify, getElem?_unpack]
  split
  · cases arena.nodes[place]? with
    | none => rfl
    | some node => exact congrArg some (agree node)
  · rfl

theorem Packed.modify (packed : arena.Packed) (change : PackedNode → PackedNode)
    (keeps : ∀ node, (change node).range = node.range) (index : Nat) :
    ({ arena with nodes := arena.nodes.modify index change } : ItemArena).Packed := by
  intro node member
  obtain ⟨place, present⟩ := Array.mem_iff_getElem?.1 member
  rw [Array.getElem?_modify] at present
  split at present
  · obtain ⟨old, stored, rfl⟩ := Option.map_eq_some_iff.1 present
    rw [keeps]
    exact packed old (Array.mem_of_getElem? stored)
  · exact packed node (Array.mem_of_getElem? present)

/-- New children behind all others leave the stretches that there are as they were. -/
theorem unpack_append (packed : arena.Packed) (kind : ItemKind) (span : TokenSpan)
    (payload : ItemPayload) (children : List ItemId) :
    ({ arena with
        nodes := arena.nodes.push
          { kind, span, payload, range := ⟨arena.childIds.size, children.length⟩ }
        childIds := arena.childIds ++ children.toArray } : ItemArena).unpack =
      { arena.unpack with nodes := arena.unpack.nodes.push { kind, span, payload, children } } := by
  refine congrArg (ItemForest.mk arena.source) ?_
  rw [Array.map_push]
  refine congrArg₂ Array.push (Array.map_congr_left fun node member => ?_) ?_
  · have inside := packed node member
    simp only [unpackNode, childrenIn, Array.toList_append]
    rw [List.drop_append_of_le_length (by simp; omega),
      List.take_append_of_le_length (by simp; omega)]
  · simp [unpackNode, childrenIn]

/-! ### The steps of a call -/

theorem outcome_checkChild (arena : ItemArena) (earlier : List ItemId) (child : ItemId)
    (rest : List ItemId) :
    outcome (checkChild earlier child) arena = (.ok (), arena) ∧
        arena.unpack.checkChildren earlier (child :: rest) =
          arena.unpack.checkChildren (child :: earlier) rest ∨
      ∃ err, outcome (checkChild earlier child) arena = (.error err, arena) ∧
        arena.unpack.checkChildren earlier (child :: rest) = .error err := by
  rw [ItemForest.checkChildren, getElem?_unpack, checkChild, outcome_get_bind]
  cases arena.nodes[child.index]? with
  | none => exact .inr ⟨_, rfl, rfl⟩
  | some node =>
    obtain ⟨_, _, _, _, parent⟩ := node
    cases parent with
    | some parent => exact .inr ⟨_, rfl, rfl⟩
    | none =>
      by_cases seen : child ∈ earlier
      · exact .inr ⟨.duplicateChild child, by simp [seen], by simp [seen, unpackNode]⟩
      · exact .inl (by simp [seen, unpackNode])

theorem outcome_checkChildren (arena : ItemArena) (earlier children : List ItemId) :
    outcome (checkChildren earlier children) arena =
      (arena.unpack.checkChildren earlier children, arena) := by
  induction children generalizing earlier with
  | nil => rfl
  | cons child rest ih =>
    rw [checkChildren]
    obtain ⟨ran, same⟩ | ⟨err, ran, same⟩ := outcome_checkChild arena earlier child rest
    · rw [outcome_bind_ok ran, ih, same]
    · rw [outcome_bind_error ran, same]

/-- Putting items under a parent never fails, and leaves the list of children alone. -/
theorem outcome_attachAll (packed : arena.Packed) (parent : ItemId) (children : List ItemId) :
    ∃ after, after.Packed ∧
    outcome (children.forM (attach parent)) arena = (.ok (), after) ∧
    after.unpack = { arena.unpack with
      nodes := children.foldl (ItemForest.attach parent) arena.unpack.nodes } := by
  induction children generalizing arena with
  | nil => exact ⟨arena, packed, rfl, rfl⟩
  | cons child rest ih =>
    let moved : ItemArena := { arena with
      nodes := arena.nodes.modify child.index fun node => { node with parent := some parent } }
    have packed' : moved.Packed :=
      packed.modify (fun node => { node with parent := some parent }) (fun _ => rfl) child.index
    obtain ⟨after, packed'', ran, same⟩ := ih packed'
    have ran' : outcome (attach parent child) arena = (.ok (), moved) := rfl
    refine ⟨after, packed'', ?_, ?_⟩
    · exact (outcome_bind_ok ran').trans ran
    · have step : moved.unpack = { arena.unpack with
          nodes := ItemForest.attach parent arena.unpack.nodes child } :=
        unpack_modify _ (fun node => { node with parent := some parent }) (fun _ => rfl) _
      rw [same, step]
      rfl

/-! ### Calls -/

/-- A push that fails has changed nothing. One that succeeds has pushed what the forest pushes. -/
theorem outcome_push (packed : arena.Packed) (kind : ItemKind) (span : TokenSpan)
    (payload : ItemPayload) (children : List ItemId) :
    (∃ id after next, outcome (push kind span payload children) arena = (.ok id, after) ∧
      after.Packed ∧ arena.unpack.push kind span payload children = .ok (id, next) ∧
      after.unpack = next) ∨
    ∃ err, outcome (push kind span payload children) arena = (.error err, arena) ∧
      arena.unpack.push kind span payload children = .error err := by
  unfold push ItemForest.push
  by_cases fits : payload.shape = kind.shape
  · rw [if_neg (not_not.2 fits), if_neg (not_not.2 fits)]
    have checks := outcome_checkChildren arena [] children
    cases checked : arena.unpack.checkChildren [] children with
    | error err =>
      rw [checked] at checks
      exact .inr ⟨err, (outcome_get_bind ..).trans (outcome_bind_error checks), rfl⟩
    | ok =>
      rw [checked] at checks
      obtain ⟨moved, packed', ran, same⟩ :=
        outcome_attachAll packed ⟨arena.nodes.size⟩ children
      have appended := unpack_append packed' kind span payload children
      refine .inl ⟨_, _, _, (outcome_get_bind ..).trans ((outcome_bind_ok checks).trans
        ((outcome_bind_ok ran).trans rfl)), ?_, by rw [size_unpack], ?_⟩
      · intro node member
        have grown : (moved.childIds ++ children.toArray).size =
            moved.childIds.size + children.length := Array.size_append
        rcases Array.mem_push.1 member with old | rfl
        · exact Nat.le_trans (packed' node old) (grown ▸ Nat.le_add_right ..)
        · exact Nat.le_of_eq grown.symm
      · rw [appended, same]
  · rw [if_pos fits, if_pos fits]
    exact .inr ⟨_, rfl, rfl⟩

theorem outcome_annotate (packed : arena.Packed) (id : ItemId) (remark : Remark) :
    (∃ after, outcome (annotate id remark) arena = (.ok (), after) ∧ after.Packed ∧
      arena.unpack.annotate id remark = .ok after.unpack) ∨
    ∃ err, outcome (annotate id remark) arena = (.error err, arena) ∧
      arena.unpack.annotate id remark = .error err := by
  have given : outcome (annotate id remark) arena = outcome (annotate id remark) arena := rfl
  conv at given => rhs; rw [annotate, outcome_get_bind]
  rw [ItemForest.annotate, getElem?_unpack, given]
  cases found : arena.nodes[id.index]? with
  | none => exact .inr ⟨_, rfl, rfl⟩
  | some node =>
    obtain ⟨kind, span, payload, range, parent⟩ := node
    cases payload with
    | definition data =>
      let remarked : ItemPayload := .definition { data with remarks := data.remarks ++ [remark] }
      refine .inl ⟨_, rfl, packed.modify (fun node => { node with payload := remarked })
        (fun _ => rfl) id.index, congrArg Except.ok (Eq.symm ?_)⟩
      exact unpack_modify _ (fun node => { node with payload := remarked }) (fun _ => rfl) id.index
    | _ => exact .inr ⟨_, rfl, rfl⟩

/-- The arena answers as the forest does, and a call that fails leaves it as it was. -/
theorem perform_unpack (packed : arena.Packed) (call : TreeCall) :
    (arena.perform call).2.Packed ∧
      arena.unpack.perform call = ((arena.perform call).1, (arena.perform call).2.unpack) ∧
      ∀ err, (arena.perform call).1 = .error err → (arena.perform call).2 = arena := by
  cases call with
  | push kind span payload children =>
    rw [perform, ItemForest.perform, map_eq_pure_bind]
    obtain ⟨id, after, next, ran, packed', pushed, same⟩ | ⟨err, ran, pushed⟩ :=
      outcome_push packed kind span payload children
    · rw [outcome_bind_ok ran, pushed, ← same]
      exact ⟨packed', rfl, fun _ failed => by cases failed⟩
    · rw [outcome_bind_error ran, pushed]
      exact ⟨packed, rfl, fun _ _ => rfl⟩
  | annotate id remark =>
    rw [perform, ItemForest.perform, map_eq_pure_bind]
    obtain ⟨after, ran, packed', annotated⟩ | ⟨err, ran, annotated⟩ :=
      outcome_annotate packed id remark
    · rw [outcome_bind_ok ran, annotated]
      exact ⟨packed', rfl, fun _ failed => by cases failed⟩
    · rw [outcome_bind_error ran, annotated]
      exact ⟨packed, rfl, fun _ _ => rfl⟩

theorem after_unpack (packed : arena.Packed) (calls : List TreeCall) :
    (arena.after calls).Packed ∧ (arena.after calls).unpack = arena.unpack.after calls := by
  induction calls generalizing arena with
  | nil => exact ⟨packed, rfl⟩
  | cons call rest ih =>
    obtain ⟨packed', agree, -⟩ := perform_unpack packed call
    have same : (arena.unpack.perform call).2 = (arena.perform call).2.unpack :=
      congrArg Prod.snd agree
    rw [after, ItemForest.after, List.foldl_cons, List.foldl_cons, same]
    exact ih packed'

theorem packed_empty (source : SourceId) : Packed { source } := fun _ member =>
  absurd member (Array.not_mem_empty _)

end ItemArena

end FrontEnd
