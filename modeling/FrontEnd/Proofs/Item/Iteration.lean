import FrontEnd.Item.View

/-!
Taking the children that a view accepts from both ends. A call from either end drops what the view
rejects on its way, so that what is still to come is always a stretch of the accepted children: the
one between those that were taken from the front and those that were taken from the back.
-/

namespace FrontEnd

namespace TypedItems

variable {items left : TypedItems} {id : ItemId}

/-! ### One call -/

/-- The items that are still to come. -/
def remaining (items : TypedItems) : List ItemId := items.pending.filter items.takes

/-- Dropping what is rejected from the front rejects nothing else. -/
private theorem filter_eq_dropWhile (accepts : α → Bool) (values : List α) :
    values.filter accepts = match values.dropWhile fun value => !accepts value with
      | [] => []
      | value :: rest => value :: rest.filter accepts := by
  induction values with
  | nil => rfl
  | cons value rest ih => by_cases accepted : accepts value <;> simp [accepted, ih]

/-- A call from the front takes the first of the items that are still to come. -/
theorem remaining_next (items : TypedItems) :
    items.remaining = items.next.1.toList ++ items.next.2.remaining := by
  have kept := filter_eq_dropWhile items.takes items.pending
  unfold next
  split
  · rename_i ended
    rw [remaining, kept, ended]
    rfl
  · rename_i first rest found
    rw [remaining, kept, found]
    rfl

/-- A call from the back takes the last of the items that are still to come. -/
theorem remaining_nextBack (items : TypedItems) :
    items.remaining = items.nextBack.2.remaining ++ items.nextBack.1.toList := by
  have kept := filter_eq_dropWhile items.takes items.pending.reverse
  rw [List.filter_reverse, List.reverse_eq_iff] at kept
  unfold nextBack
  split
  · rename_i ended
    rw [remaining, kept, ended]
    rfl
  · rename_i last rest found
    rw [remaining, kept, found, List.reverse_cons, ← List.filter_reverse]
    rfl

theorem remaining_eq_nil_of_next (ended : items.next.1 = none) : items.remaining = [] := by
  have kept := filter_eq_dropWhile items.takes items.pending
  unfold next at ended
  split at ended <;> simp_all [remaining]

theorem remaining_eq_nil_of_nextBack (ended : items.nextBack.1 = none) : items.remaining = [] := by
  have kept := filter_eq_dropWhile items.takes items.pending.reverse
  rw [List.filter_reverse, List.reverse_eq_iff] at kept
  unfold nextBack at ended
  split at ended <;> simp_all [remaining]

/-- What calls from the front give, as long as they give something, is all that is still to come. -/
theorem toList_eq (items : TypedItems) : items.toList = items.remaining := by
  fun_induction toList items with
  | case1 items id left taken shorter ih =>
    rw [remaining_next, taken, ih]
    rfl
  | case2 items left taken =>
    rw [remaining_eq_nil_of_next (by rw [taken])]

theorem length_remaining_le (items : TypedItems) : items.remaining.length ≤ items.bound :=
  List.length_filter_le ..

/-! ### Any calls -/

/-- An end of the list of children. -/
inductive Side where
  | front | back
  deriving DecidableEq

/-- Takes the next item from an end. -/
def take (items : TypedItems) : Side → Option ItemId × TypedItems
  | .front => items.next
  | .back => items.nextBack

/-- The answers to calls one after the other, each with the end that was asked, and what is left. -/
def run (items : TypedItems) : List Side → List (Side × Option ItemId) × TypedItems
  | [] => ([], items)
  | side :: rest =>
    let (answer, left) := items.take side
    let (answers, last) := left.run rest
    ((side, answer) :: answers, last)

/-- The items that answers give from an end, in the order of the calls. -/
def takenFrom (side : Side) (answers : List (Side × Option ItemId)) : List ItemId :=
  answers.filterMap fun answer => if answer.1 = side then answer.2 else none

theorem run_cons (items : TypedItems) (side : Side) (rest : List Side) :
    items.run (side :: rest) = ((side, (items.take side).1) :: ((items.take side).2.run rest).1,
      ((items.take side).2.run rest).2) := rfl

theorem takenFrom_cons (side asked : Side) (answer : Option ItemId)
    (rest : List (Side × Option ItemId)) : takenFrom side ((asked, answer) :: rest) =
      (if asked = side then answer.toList else []) ++ takenFrom side rest := by
  unfold takenFrom
  by_cases same : asked = side <;> cases answer <;> simp [same]

theorem remaining_eq_nil_of_take {side : Side} (ended : (items.take side).1 = none) :
    items.remaining = [] := by
  cases side with
  | front => exact remaining_eq_nil_of_next ended
  | back => exact remaining_eq_nil_of_nextBack ended

/-- Where nothing is still to come, nothing is given, and nothing is still to come after that. -/
theorem take_of_remaining_eq_nil (empty : items.remaining = []) (side : Side) :
    (items.take side).1 = none ∧ (items.take side).2.remaining = [] := by
  cases side with
  | front =>
    have parts := items.remaining_next
    rw [empty, eq_comm, List.append_eq_nil_iff, Option.toList_eq_nil_iff] at parts
    exact parts
  | back =>
    have parts := items.remaining_nextBack
    rw [empty, eq_comm, List.append_eq_nil_iff, Option.toList_eq_nil_iff] at parts
    exact parts.symm

/-- What is still to come is, after any calls, what they gave from the front, then what is left,
then what they gave from the back, the last of these first. -/
theorem remaining_run (items : TypedItems) (calls : List Side) :
    items.remaining = takenFrom .front (items.run calls).1 ++ (items.run calls).2.remaining ++
      (takenFrom .back (items.run calls).1).reverse := by
  induction calls generalizing items with
  | nil => simp [run, takenFrom]
  | cons side rest ih =>
    rw [run_cons, takenFrom_cons, takenFrom_cons]
    cases side with
    | front =>
      rw [items.remaining_next, ih items.next.2]
      simp [take]
    | back =>
      have single : items.nextBack.1.toList.reverse = items.nextBack.1.toList := by
        cases items.nextBack.1 <;> rfl
      rw [items.remaining_nextBack, ih items.nextBack.2]
      simp [take, single]

/-- Nothing is still to come once a call was given nothing. -/
theorem remaining_run_of_none {calls : List Side} {side : Side}
    (ended : (side, none) ∈ (items.run calls).1) : (items.run calls).2.remaining = [] := by
  induction calls generalizing items with
  | nil => cases ended
  | cons asked rest ih =>
    rw [run_cons, List.mem_cons] at ended
    rcases ended with here | later
    · have empty := remaining_eq_nil_of_take (Prod.mk.inj here).2.symm
      rw [remaining_run items (asked :: rest), List.append_eq_nil_iff,
        List.append_eq_nil_iff] at empty
      exact empty.1.2
    · exact ih later

theorem none_of_remaining_eq_nil (empty : items.remaining = []) (calls : List Side) :
    ∀ answer ∈ (items.run calls).1, answer.2 = none := by
  induction calls generalizing items with
  | nil => exact nofun
  | cons side rest ih =>
    obtain ⟨given, empty'⟩ := take_of_remaining_eq_nil empty side
    rw [run_cons]
    exact List.forall_mem_cons.2 ⟨given, ih empty'⟩

end TypedItems

namespace ItemTree

open TypedItems

theorem remaining_typedItems (tree : ItemTree) (id : ItemId) (view : ItemView) :
    (tree.typedItems id view).remaining = tree.childrenOf id view := rfl

/-- Whatever calls are made from the two ends, and in whatever order: the children that the view
accepts are those that were taken from the front, then those that are still to come, then those that
were taken from the back, the last of these first. There are never more to come than the bound
says. Once a call was given nothing, every child that the view accepts has been taken, and no
further call is given anything, from either end. -/
theorem taken_from_both_ends (tree : ItemTree) (id : ItemId) (view : ItemView)
    (calls : List Side) :
    let ran := (tree.typedItems id view).run calls
    tree.childrenOf id view =
        takenFrom .front ran.1 ++ ran.2.toList ++ (takenFrom .back ran.1).reverse ∧
      ran.2.toList.length ≤ ran.2.bound ∧
      ∀ side, (side, none) ∈ ran.1 →
        tree.childrenOf id view = takenFrom .front ran.1 ++ (takenFrom .back ran.1).reverse ∧
        ∀ further, ∀ answer ∈ (ran.2.run further).1, answer.2 = none := by
  intro ran
  have parts := (tree.typedItems id view).remaining_run calls
  rw [remaining_typedItems] at parts
  rw [toList_eq]
  refine ⟨parts, length_remaining_le _, fun side ended => ?_⟩
  have empty := remaining_run_of_none ended
  refine ⟨?_, none_of_remaining_eq_nil empty⟩
  rw [parts, empty, List.append_nil]

end ItemTree

end FrontEnd
