import FrontEnd.Proofs.Typing.History

/-!
Types that live. A request that fails takes back the definitions that it declared, while their types
stay in the pool, so that a type may be built from a definition that is gone. A type lives if it is
not, and it goes on living as long as no definition is lost.
-/

namespace FrontEnd

namespace TypeContext

variable {ctx before middle after : TypeContext} {ty : TypeId} {id : DefId}

/-- No definition that the type is built from is gone. -/
inductive Lives (ctx : TypeContext) : TypeId → Prop where
  | built {ty : TypeId} {form : TypeForm} (found : ctx.pool.form? ty = some form)
      (live : ∀ kind id, form = .nominal kind id → (ctx.registry.get? id).isSome)
      (parts : ∀ part ∈ form.children, Lives ctx part) : Lives ctx ty

/-- Types stay, and no definition is lost. -/
structure Lasts (before after : TypeContext) : Prop where
  pool : TypePool.Kept before.pool after.pool
  live : ∀ id, (before.registry.get? id).isSome → (after.registry.get? id).isSome

theorem Lasts.refl (ctx : TypeContext) : Lasts ctx ctx := ⟨.refl _, fun _ live => live⟩

theorem Lasts.trans (first : Lasts before middle) (second : Lasts middle after) :
    Lasts before after :=
  ⟨first.pool.trans second.pool, fun id live => second.live id (first.live id live)⟩

theorem Extends.lasts (extends_ : Extends before after) : Lasts before after where
  pool := extends_.pool
  live id live := by
    obtain ⟨entry, found⟩ := Option.isSome_iff_exists.1 live
    obtain ⟨body, kept, -⟩ := extends_.defs id entry found
    rw [kept]
    rfl

theorem Lives.lasts (lives : before.Lives ty) (lasts : Lasts before after) : after.Lives ty := by
  induction lives with
  | built found live parts ih =>
    exact .built (TypePool.form?_kept lasts.pool found)
      (fun kind id nominal => lasts.live id (live kind id nominal)) ih

theorem Lives.parts {form : TypeForm} (lives : ctx.Lives ty) (found : ctx.pool.form? ty = some form) :
    (∀ kind id, form = .nominal kind id → (ctx.registry.get? id).isSome) ∧
      ∀ part ∈ form.children, ctx.Lives part := by
  obtain ⟨found', live, parts⟩ := lives
  cases found.symm.trans found'
  exact ⟨live, parts⟩

/-! ### New types -/

theorem lives_intern {form : TypeForm} (sound : ctx.pool.Sound) (plain : ∀ kind id, form ≠ .nominal kind id)
    (parts : ∀ part ∈ form.children, ctx.Lives part) :
    (ctx.intern form).2.Lives (ctx.intern form).1 := by
  have lasts : Lasts ctx (ctx.intern form).2 := ⟨TypePool.kept_intern _ _, fun _ live => live⟩
  exact .built (TypePool.form?_intern sound form) (fun kind id nominal => absurd nominal (plain kind id))
    fun part member => (parts part member).lasts lasts

theorem Lives.unqualified (lives : ctx.Lives ty) (honest : ctx.pool.Honest) :
    ctx.Lives (ctx.pool.unqualified ty) := by
  rw [TypePool.unqualified, TypePool.split_eq honest]
  split
  · rename_i base quals found
    exact (lives.parts found).2 base List.mem_cons_self
  · exact lives

theorem Lives.qualified (lives : ctx.Lives ty) (sound : ctx.pool.Sound) (quals : Qualifiers) :
    (ctx.qualified ty quals).2.Lives (ctx.qualified ty quals).1 := by
  have bare : ctx.Lives (ctx.pool.split ty).1 := lives.unqualified sound.honest
  unfold TypeContext.qualified
  rcases TypePool.qualified_cases ctx.pool ty quals with same | interned
  · rw [same]
    exact bare
  · rw [interned]
    refine lives_intern sound nofun fun part member => ?_
    cases List.mem_singleton.1 member
    exact bare

/-- The definition behind a nominal type that lives is found through the type. -/
theorem Lives.defOf (lives : ctx.Lives ty) (indexed : ctx.Indexed) {kind : DefKind}
    (nominal : ctx.pool.form? (ctx.pool.unqualified ty) = some (.nominal kind id)) :
    ∃ entry, ctx.registry.get? id = some entry ∧ ctx.defOf ty = .ok (some entry) := by
  obtain ⟨entry, live⟩ := Option.isSome_iff_exists.1
    (((lives.unqualified indexed.pool.honest).parts nominal).1 kind id rfl)
  refine ⟨entry, live, ?_⟩
  simp only [TypeContext.defOf, TypePool.form, nominal, Bind.bind, Except.bind, live, pure, Except.pure]

/-! ### Definitions -/

/-- A definition that is declared is live, and its type lives. -/
theorem lasts_declare {request : DefRequest} {entry : TypeDef} (indexed : ctx.Indexed)
    (declared : ctx.declare request = .ok (entry, after)) :
    Lasts ctx after ∧ after.Lives entry.type := by
  obtain ⟨rfl, rfl⟩ := declare_ok declared
  have found := ctx.registry.get?_push request
    (ctx.intern (.nominal request.kind ctx.registry.nextId)).1
  refine ⟨⟨TypePool.kept_intern _ _, fun id live => ?_⟩,
    .built (TypePool.form?_intern indexed.pool _) (fun kind id same => ?_) nofun⟩
  · refine (congrArg Option.isSome (found id)).trans ?_
    split
    · rfl
    · exact live
  · cases same
    exact congrArg Option.isSome ((found _).trans (if_pos rfl))

/-- Giving a definition its body loses nothing. -/
theorem lasts_registry {registry : TypeRegistry} {body : DefBody}
    (defined : ctx.registry.define id body = .ok registry) : Lasts ctx { ctx with registry } where
  pool := .refl _
  live other live := by
    obtain ⟨entry, -, -, -, -, found⟩ := TypeRegistry.define_ok defined
    refine (congrArg Option.isSome (found other)).trans ?_
    split
    · rfl
    · exact live

/-! ### Bodies -/

/-- Every live definition has a body. -/
def Whole (ctx : TypeContext) : Prop :=
  ∀ id entry, ctx.registry.get? id = some entry → entry.body.isSome

/-- Every live definition has a body, but for those of some types, which are still to be defined. -/
def Owes (ctx : TypeContext) (owed : List TypeId) : Prop :=
  ∀ id entry, ctx.registry.get? id = some entry → entry.body = none → entry.type ∈ owed

theorem owes_nil : ctx.Owes [] ↔ ctx.Whole := by
  refine forall₃_congr fun id entry live => ?_
  cases entry.body <;> simp

/-- No definition is lost, and none is new without a body. -/
structure Spares (before after : TypeContext) : Prop extends Lasts before after where
  indexed : after.Indexed
  bare : ∀ id entry, after.registry.get? id = some entry → entry.body = none →
    before.registry.get? id = some entry

variable {owed : List TypeId}

theorem Spares.refl (indexed : ctx.Indexed) : Spares ctx ctx :=
  ⟨.refl ctx, indexed, fun _ _ live _ => live⟩

theorem Spares.trans (first : Spares before middle) (second : Spares middle after) :
    Spares before after :=
  ⟨first.toLasts.trans second.toLasts, second.indexed, fun id entry live bare =>
    first.bare id entry (second.bare id entry live bare) bare⟩

theorem Owes.spares (owes : before.Owes owed) (spares : Spares before after) : after.Owes owed :=
  fun id entry live bare => owes id entry (spares.bare id entry live bare) bare

/-- More types in the pool change no definition. -/
theorem spares_pool {pool : TypePool} (indexed : ctx.Indexed) (sound : pool.Sound)
    (kept : TypePool.Kept ctx.pool pool) : Spares ctx { ctx with pool } :=
  ⟨⟨kept, fun _ live => live⟩, indexed_pool indexed sound kept, fun _ _ live _ => live⟩

theorem spares_intern (indexed : ctx.Indexed) (form : TypeForm) :
    Spares ctx (ctx.intern form).2 :=
  spares_pool indexed (TypePool.sound_intern indexed.pool form) (TypePool.kept_intern _ form)

theorem spares_qualified (indexed : ctx.Indexed) (ty : TypeId) (quals : Qualifiers) :
    Spares ctx (ctx.qualified ty quals).2 :=
  spares_pool indexed (TypePool.sound_qualified indexed.pool ty quals)
    (TypePool.kept_qualified _ ty quals)

/-- A definition that is declared is owed its body. -/
theorem Owes.declare {request : DefRequest} {entry : TypeDef} (owes : ctx.Owes owed)
    (declared : ctx.declare request = .ok (entry, after)) : after.Owes (entry.type :: owed) := by
  obtain ⟨rfl, rfl⟩ := declare_ok declared
  intro id stored live bare
  have found := ctx.registry.get?_push request
    (ctx.intern (.nominal request.kind ctx.registry.nextId)).1 id
  rw [found] at live
  split at live
  · cases live
    exact List.mem_cons_self
  · exact List.mem_cons_of_mem _ (owes id stored live bare)

/-- Defining a type settles what is owed to it: the type gets the body, or it has one already. -/
theorem Owes.define {body : DefBody} (owes : ctx.Owes (ty :: owed)) (indexed : ctx.Indexed) :
    (∀ err, ctx.define ty body = .error err → ctx.Owes owed) ∧
      ∀ after, ctx.define ty body = .ok after → after.Owes owed := by
  constructor
  · intro err refused id entry live bare
    refine (List.mem_cons.1 (owes id entry live bare)).resolve_left ?_
    rintro rfl
    obtain ⟨registry, defined⟩ : ∃ registry, ctx.registry.define entry.id body = .ok registry := by
      rw [(indexed.defs id entry live).1]
      exact TypeRegistry.define_bare live bare
    simp only [TypeContext.define, defOf_live indexed live, defineId, Bind.bind, Except.bind,
      defined, pure, Except.pure] at refused
    cases refused
  · intro after defined id entry live bare
    obtain ⟨behind, registry, above, given, rfl⟩ := define_ok defined
    obtain ⟨own, live', -, -, -, found⟩ := TypeRegistry.define_ok given
    rw [found] at live
    split at live
    · cases live
      cases bare
    · rename_i different
      refine (List.mem_cons.1 (owes id entry live bare)).resolve_left ?_
      rintro rfl
      rw [defOf_live indexed live] at above
      cases above
      exact different (indexed.defs id entry live).1.symm

end TypeContext

end FrontEnd
