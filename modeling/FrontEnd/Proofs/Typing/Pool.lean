import FrontEnd.Typing.Pool
import Mathlib.Data.List.Nodup
import Mathlib.Data.List.Perm.Subperm
import Std.Data.HashMap.Lemmas

/-!
The pool never forgets a type, and each form has one id. Both hold of the new pool and after every
interning, whatever form is interned: the ids that a form mentions need not be those of the pool.
-/

namespace FrontEnd

/-- Different types below a bound are no more than it counts. -/
theorem TypeId.length_le_of_nodup {types : List TypeId} {bound : Nat} (once : types.Nodup)
    (below : ∀ ty ∈ types, ty.index < bound) : types.length ≤ bound := by
  have numbers : (types.map TypeId.index).Nodup :=
    once.map fun first second same => by
      cases first
      cases second
      exact congrArg TypeId.mk same
  have inside : types.map TypeId.index ⊆ List.range bound := by
    intro index member
    obtain ⟨ty, present, rfl⟩ := List.mem_map.1 member
    exact List.mem_range.2 (below ty present)
  have fewer := (numbers.subperm inside).length_le
  rwa [List.length_map, List.length_range] at fewer

namespace TypePool

/-- The two tables of the pool answer each other: a type has a form exactly if the form has the
type as its id. -/
def Exact (pool : TypePool) : Prop :=
  ∀ form ty, pool.ids[form]? = some ty ↔ pool.form? ty = some form

/-- The flag of qualified types is set for them and for no others. -/
def Honest (pool : TypePool) : Prop :=
  ∀ (index : Nat) entry, pool.entries[index]? = some entry →
    entry.2.isQualified = (TypeFlags.ofOutermost entry.1).isQualified

/-- What holds of every pool that starts as the new one and only ever interns. -/
structure Sound (pool : TypePool) : Prop where
  exact : pool.Exact
  honest : pool.Honest

/-- Every type of one pool has the same form and flags in another. -/
def Kept (before after : TypePool) : Prop :=
  ∀ (index : Nat) entry, before.entries[index]? = some entry → after.entries[index]? = some entry

variable {pool before between after : TypePool} {ty : TypeId} {form : TypeForm}

theorem Kept.refl (pool : TypePool) : Kept pool pool := fun _ _ found => found

theorem Kept.trans (first : Kept before between) (second : Kept between after) :
    Kept before after :=
  fun index entry found => second index entry (first index entry found)

theorem form?_kept (kept : Kept before after) (found : before.form? ty = some form) :
    after.form? ty = some form := by
  obtain ⟨entry, stored, rfl⟩ := Option.map_eq_some_iff.1 found
  simp [form?, kept _ _ stored]

theorem lt_size_of_form? (found : pool.form? ty = some form) : ty.index < pool.size := by
  obtain ⟨entry, stored, -⟩ := Option.map_eq_some_iff.1 found
  exact (Array.getElem?_eq_some_iff.1 stored).1

theorem exists_form? (known : ty.index < pool.size) : ∃ form, pool.form? ty = some form :=
  ⟨_, by rw [form?, Array.getElem?_eq_getElem known, Option.map_some]⟩

theorem size_kept (kept : Kept before after) : before.size ≤ after.size := by
  cases sized : before.size with
  | zero => exact Nat.zero_le _
  | succ last =>
    have known : (TypeId.mk last).index < before.size := by simp [sized]
    obtain ⟨form, found⟩ := exists_form? known
    exact lt_size_of_form? (form?_kept kept found)

theorem flags_kept (kept : Kept before after) (known : ty.index < before.size) :
    after.flags ty = before.flags ty := by
  have stored := Array.getElem?_eq_getElem (show ty.index < before.entries.size from known)
  simp [flags, stored, kept _ _ stored]

/-! ### Adding a form -/

theorem size_push : (pool.push form).size = pool.size + 1 := by simp [push, size]

theorem entries_push (index : Nat) : (pool.push form).entries[index]? =
    if index = pool.size then some (form, .ofForm form (form.children.map pool.flags))
    else pool.entries[index]? :=
  Array.getElem?_push

theorem form?_push (ty : TypeId) : (pool.push form).form? ty =
    if ty.index = pool.size then some form else pool.form? ty := by
  simp only [form?, entries_push]
  split <;> rfl

theorem kept_push (pool : TypePool) (form : TypeForm) : Kept pool (pool.push form) := by
  intro index entry found
  have below := (Array.getElem?_eq_some_iff.1 found).1
  rw [entries_push, if_neg (by simp only [size]; omega)]
  exact found

/-- A form that was not there makes the tables answer each other for one more type. -/
theorem exact_push (exact : Exact pool) (absent : pool.ids[form]? = none) :
    Exact (pool.push form) := by
  intro other ty
  rw [form?_push]
  simp only [push, Std.HashMap.getElem?_insert, beq_iff_eq]
  by_cases same : form = other
  · subst same
    by_cases last : ty.index = pool.size
    · cases ty
      simp_all [size]
    · have unknown : pool.form? ty ≠ some form := by
        rw [Ne, ← exact, absent]
        simp
      simp only [↓reduceIte, Option.some.injEq, last, unknown, iff_false]
      rintro rfl
      exact last rfl
  · by_cases last : ty.index = pool.size
    · have unknown : pool.ids[other]? ≠ some ty := by
        rw [Ne, exact]
        exact fun found => absurd (lt_size_of_form? found) (by omega)
      simp [same, last, unknown]
    · simp [same, last, exact other ty]

private theorem exact_foldl_push (forms : List TypeForm) (pool : TypePool) (exact : Exact pool)
    (distinct : forms.Nodup) (absent : ∀ form ∈ forms, pool.ids[form]? = none) :
    Exact (forms.foldl push pool) := by
  induction forms generalizing pool with
  | nil => exact exact
  | cons form rest ih =>
    obtain ⟨unseen, distinct⟩ := List.nodup_cons.1 distinct
    refine ih _ (exact_push exact (absent form (by simp))) distinct fun other member => ?_
    have different : form ≠ other := fun same => unseen (same ▸ member)
    simpa [push, Std.HashMap.getElem?_insert, different] using absent other (by simp [member])

theorem honest_push (honest : Honest pool) (form : TypeForm) : Honest (pool.push form) := by
  intro index entry stored
  rw [entries_push] at stored
  split at stored
  · cases stored
    rfl
  · exact honest index entry stored

theorem sound_new : Sound new := by
  refine ⟨exact_foldl_push _ _ (fun form ty => by simp [form?]) (by decide) (by simp), ?_⟩
  have start : Honest {} := fun index entry stored => by simp at stored
  exact List.foldlRecOn TypeForm.primitives push start
    fun pool honest form _ => honest_push honest form

theorem forms_foldl_push (forms : List TypeForm) (pool : TypePool) :
    (forms.foldl push pool).entries.toList.map Prod.fst =
      pool.entries.toList.map Prod.fst ++ forms := by
  induction forms generalizing pool with
  | nil => simp
  | cons form rest ih => simp [ih, push]

/-- The new pool holds the primitive types in their order. -/
theorem form?_new_eq (ty : TypeId) : new.form? ty = TypeForm.primitives[ty.index]? := by
  rw [form?, ← Array.getElem?_toList, ← List.getElem?_map, new, forms_foldl_push]
  simp

theorem form?_new (found : new.form? ty = some form) : form ∈ TypeForm.primitives :=
  List.mem_of_getElem? ((form?_new_eq ty).symm.trans found)

private theorem size_foldl_push (forms : List TypeForm) (pool : TypePool) :
    (forms.foldl push pool).size = pool.size + forms.length := by
  simpa [size] using congrArg List.length (forms_foldl_push forms pool)

theorem size_new : new.size = TypeId.primitiveCount := size_foldl_push TypeForm.primitives {}

/-! ### Interning -/

theorem intern_of_some (found : pool.ids[form]? = some ty) : pool.intern form = (ty, pool) := by
  simp [intern, found]

theorem intern_of_none (absent : pool.ids[form]? = none) :
    pool.intern form = (⟨pool.size⟩, pool.push form) := by
  simp [intern, absent, size]

theorem kept_intern (pool : TypePool) (form : TypeForm) : Kept pool (pool.intern form).2 := by
  cases found : pool.ids[form]? with
  | some ty => rw [intern_of_some found]; exact .refl pool
  | none => rw [intern_of_none found]; exact kept_push pool form

theorem sound_intern (sound : Sound pool) (form : TypeForm) : Sound (pool.intern form).2 := by
  cases found : pool.ids[form]? with
  | some ty => rw [intern_of_some found]; exact sound
  | none =>
    rw [intern_of_none found]
    exact ⟨exact_push sound.exact found, honest_push sound.honest form⟩

/-- The id that interning gives is that of the form. -/
theorem form?_intern (sound : Sound pool) (form : TypeForm) :
    (pool.intern form).2.form? (pool.intern form).1 = some form := by
  cases found : pool.ids[form]? with
  | some ty => rw [intern_of_some found]; exact (sound.exact form ty).1 found
  | none => rw [intern_of_none found, form?_push]; simp

/-- Qualifying a type either changes nothing in the pool or interns one form. -/
theorem qualified_cases (pool : TypePool) (ty : TypeId) (quals : Qualifiers) :
    pool.qualified ty quals = ((pool.split ty).1, pool) ∨
      pool.qualified ty quals =
        pool.intern (.qualified (pool.split ty).1 ((pool.split ty).2.union quals)) := by
  simp only [qualified]
  split
  · exact .inl rfl
  · exact .inr rfl

theorem kept_qualified (pool : TypePool) (ty : TypeId) (quals : Qualifiers) :
    Kept pool (pool.qualified ty quals).2 := by
  rcases qualified_cases pool ty quals with same | interned
  · rw [same]; exact .refl pool
  · rw [interned]; exact kept_intern pool _

theorem sound_qualified (sound : Sound pool) (ty : TypeId) (quals : Qualifiers) :
    Sound (pool.qualified ty quals).2 := by
  rcases qualified_cases pool ty quals with same | interned
  · rw [same]; exact sound
  · rw [interned]; exact sound_intern sound _

/-- What a type is split into can be read off its form. -/
theorem split_eq (honest : Honest pool) (ty : TypeId) : pool.split ty =
    match pool.form? ty with
    | some (.qualified base quals) => (base, quals)
    | _ => (ty, .empty) := by
  unfold split flags form?
  cases stored : pool.entries[ty.index]? with
  | none => rfl
  | some entry =>
    obtain ⟨form, flags⟩ := entry
    have flag : flags.isQualified = (TypeFlags.ofOutermost form).isQualified :=
      honest ty.index _ stored
    simp only [Option.map_some, Option.getD_some, flag]
    cases form <;> rfl

/-! ### What needs no addition -/

/-- A form that is there is given its type, and nothing is added. -/
theorem intern_of_form? (exact : Exact pool) (found : pool.form? ty = some form) :
    pool.intern form = (ty, pool) :=
  intern_of_some ((exact form ty).2 found)

theorem form?_of_intern_eq (exact : Exact pool) (same : pool.intern form = (ty, pool)) :
    pool.form? ty = some form := by
  cases known : pool.ids[form]? with
  | some other =>
    rw [intern_of_some known] at same
    cases same
    exact (exact form ty).1 known
  | none =>
    rw [intern_of_none known] at same
    have grown := congrArg (TypePool.size ∘ Prod.snd) same
    simp [size_push] at grown

theorem split_kept (kept : Kept before after) (known : ty.index < before.size) :
    after.split ty = before.split ty := by
  obtain ⟨form, found⟩ := exists_form? known
  unfold split
  rw [flags_kept kept known, form?_kept kept found, found]

/-- The base is known, and qualifying it gives a type without an addition to the pool. -/
def Qualifies (pool : TypePool) (base : TypeId) (quals : Qualifiers) (ty : TypeId) : Prop :=
  base.index < pool.size ∧ pool.qualified base quals = (ty, pool)

theorem Qualifies.kept {base : TypeId} {quals : Qualifiers} (exact : Exact before)
    (exact' : Exact after) (kept : Kept before after)
    (qualifies : before.Qualifies base quals ty) : after.Qualifies base quals ty := by
  obtain ⟨known, same⟩ := qualifies
  refine ⟨Nat.lt_of_lt_of_le known (size_kept kept), ?_⟩
  simp only [qualified, split_kept kept known] at same ⊢
  split at same
  · rename_i plain
    cases same
    rw [if_pos plain]
  · rename_i further
    rw [if_neg further]
    exact intern_of_form? exact' (form?_kept kept (form?_of_intern_eq exact same))

/-- Once a type is qualified, qualifying it again adds nothing. -/
theorem qualifies_qualified (sound : Sound pool) (known : ty.index < pool.size)
    (quals : Qualifiers) :
    (pool.qualified ty quals).2.Qualifies ty quals (pool.qualified ty quals).1 := by
  by_cases plain : ((pool.split ty).2.union quals).isEmpty
  · have unchanged : pool.qualified ty quals = ((pool.split ty).1, pool) := by
      simp [qualified, plain]
    rw [unchanged]
    exact ⟨known, unchanged⟩
  · have interned : pool.qualified ty quals =
        pool.intern (.qualified (pool.split ty).1 ((pool.split ty).2.union quals)) := by
      simp [qualified, plain]
    have kept := kept_qualified pool ty quals
    have sound' := sound_qualified sound ty quals
    rw [interned] at kept sound' ⊢
    refine ⟨Nat.lt_of_lt_of_le known (size_kept kept), ?_⟩
    rw [qualified, split_kept kept known]
    simp only [if_neg plain]
    exact intern_of_form? sound'.exact (form?_intern sound _)

end TypePool

end FrontEnd
