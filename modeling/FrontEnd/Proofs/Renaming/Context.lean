import FrontEnd.Proofs.Renaming.Tables

/-!
Type tables that are the same up to a renaming. A request of the first and the renamed request of
the second are answered alike, and the tables stay the same up to a renaming that goes on from the
one before.
-/

namespace FrontEnd

/-- How many types and definitions the tables have given out. -/
def TypeContext.extent (ctx : TypeContext) : Extent := ⟨ctx.pool.size, ctx.registry.defs.size⟩

/-- The second tables hold what the first hold under the new numbers, and of instances and layouts
nothing else. The primitive types keep their numbers. -/
structure Twin (shift : Renaming) (one two : TypeContext) : Prop where
  config : two.config = one.config
  faithful : Faithful one.extent shift
  primitive : ∀ ty : TypeId, ty.index < TypeId.primitiveCount →
    ty.index < one.extent.types ∧ shift.types ty = ty
  pool : PoolTwin one.extent shift one.pool two.pool
  registry : RegistryTwin one.extent shift one.registry two.registry
  templates : TemplatesTwin one.extent shift one.templates two.templates
  instances : KeyedTwin one.extent shift one.instances two.instances
  layouts : KeyedTwin one.extent shift one.layouts two.layouts

/-- Two results are the same up to a renaming that goes on from an earlier one, and so are the
tables left behind. -/
def Keeps [Renames α] (shift : Renaming) (before : TypeContext) (first second : α × TypeContext) :
    Prop :=
  ∃ next, Agrees before.extent shift next ∧ before.extent.Within first.2.extent ∧
    Twin next first.2 second.2 ∧ Known first.2.extent first.1 ∧ second.1 = next.image first.1

variable {shift next : Renaming} {one two : TypeContext} {ty : TypeId}

namespace Keeps

variable [Renames α] [Renames β]

theorem unchanged (twin : Twin shift one two) {value : α} (known : Known one.extent value) :
    Keeps shift one (value, one) (shift.image value, two) :=
  ⟨shift, .refl _ _, .refl _, twin, known, rfl⟩

/-- What is made of a result in the same way on both sides stays the same up to renaming. -/
theorem map {first second : α × TypeContext} (keeps : Keeps shift one first second)
    {wrap : α → β} (renames : ∀ (next : Renaming) x, next.image (wrap x) = wrap (next.image x)) :
    Keeps shift one (wrap first.1, first.2) (wrap second.1, second.2) := by
  obtain ⟨next, agrees, within, twin, known, same⟩ := keeps
  refine ⟨next, agrees, within, twin, fun left right agrees => ?_, ?_⟩
  · rw [renames, renames, known left right agrees]
  · rw [renames, same]

end Keeps

namespace Twin

/-- More types in both pools keep the tables the same. -/
theorem widen (twin : Twin shift one two) {pool pool' : TypePool}
    (agrees : Agrees one.extent shift next) (more : one.extent.types ≤ pool.size)
    (faithful : Faithful ⟨pool.size, one.extent.defs⟩ next)
    (pools : PoolTwin ⟨pool.size, one.extent.defs⟩ next pool pool') :
    Twin next { one with pool } { two with pool := pool' } := by
  have within : one.extent.Within ⟨pool.size, one.extent.defs⟩ := ⟨more, Nat.le_refl _⟩
  refine ⟨twin.config, faithful, fun ty small => ?_, pools, twin.registry.agree agrees within rfl,
    twin.templates.agree agrees within, twin.instances.agree agrees within,
    twin.layouts.agree agrees within⟩
  obtain ⟨below, same⟩ := twin.primitive ty small
  exact ⟨Nat.lt_of_lt_of_le below more, (agrees.types ty below).symm.trans same⟩

/-! ### Questions -/

theorem form (twin : Twin shift one two) (known : Known one.extent ty) :
    two.pool.form (shift.types ty) = shift.image (one.pool.form ty) ∧
      Known one.extent (one.pool.form ty) := by
  obtain ⟨form, found, inner, found'⟩ := twin.pool.exists_form known
  unfold TypePool.form
  rw [found, found']
  exact ⟨rfl, known_ok.2 inner⟩

theorem defOf (twin : Twin shift one two) (known : Known one.extent ty) :
    two.defOf (shift.types ty) = shift.image (one.defOf ty) ∧
      Known one.extent (one.defOf ty) := by
  obtain ⟨same, inner⟩ := twin.pool.unqualified known
  obtain ⟨form, found, inner', found'⟩ := twin.pool.exists_form inner
  have here : one.pool.form (one.pool.unqualified ty) = .ok form := by
    simp [TypePool.form, found]
  have there : two.pool.form (two.pool.unqualified (shift.types ty)) = .ok (shift.image form) := by
    simp [TypePool.form, same, found']
  unfold TypeContext.defOf
  rw [here, there]
  cases form with
  | nominal kind id =>
    rw [known_nominal, known_def] at inner'
    refine ⟨congrArg Except.ok (twin.registry.get? id inner'), ?_⟩
    cases live : one.registry.get? id with
    | none => exact known_ok.2 (by rw [live]; exact known_none)
    | some entry =>
      exact known_ok.2 (by rw [live]; exact known_some.2 (twin.registry.known id entry live))
  | _ => exact ⟨rfl, known_ok.2 known_none⟩

theorem bodyOf (twin : Twin shift one two) (known : Known one.extent ty) :
    two.bodyOf (shift.types ty) = shift.image (one.bodyOf ty) ∧
      Known one.extent (one.bodyOf ty) := by
  obtain ⟨same, inner⟩ := twin.defOf known
  unfold TypeContext.bodyOf
  rw [same]
  cases behind : one.defOf ty with
  | error err =>
    rw [behind] at inner
    exact ⟨rfl, known_error.2 (known_error.1 inner)⟩
  | ok found =>
    rw [behind, known_ok] at inner
    cases found with
    | none => exact ⟨rfl, known_ok.2 known_none⟩
    | some entry =>
      rw [known_some, known_entry] at inner
      exact ⟨rfl, known_ok.2 inner.2.2.2⟩

/-! ### Types -/

theorem intern (twin : Twin shift one two) {form : TypeForm} (known : Known one.extent form) :
    Keeps shift one (one.intern form) (two.intern (shift.image form)) := by
  obtain ⟨next, agrees, -, more, faithful, pools, below, same⟩ :=
    twin.pool.intern twin.faithful known
  exact ⟨next, agrees, ⟨more, Nat.le_refl _⟩, twin.widen agrees more faithful pools,
    known_type.2 below, same⟩

theorem qualified (twin : Twin shift one two) (known : Known one.extent ty) (quals : Qualifiers) :
    Keeps shift one (one.qualified ty quals) (two.qualified (shift.types ty) quals) := by
  obtain ⟨same, inner⟩ := twin.pool.split known
  unfold TypeContext.qualified TypePool.qualified
  rw [same]
  dsimp only
  split
  · exact Keeps.unchanged twin inner
  · exact twin.intern (known_qualified.2 inner)

/-! ### Definitions -/

theorem declare (twin : Twin shift one two) {request : DefRequest}
    (known : Known one.extent request.specialization) :
    Keeps shift one (one.answered (one.declare request))
      (two.answered (two.declare (shift.image request))) := by
  have checked := twin.registry.checkName request
  unfold TypeContext.declare
  rw [checked]
  cases accepted : one.registry.checkName request with
  | error err =>
    exact Keeps.unchanged twin (known_error.2
      (known_registryError.2 (twin.registry.checkName_known accepted)))
  | ok =>
    -- both next ids first, then the types of their forms, then the definitions themselves
    have size := twin.registry.size
    have agrees₁ : Agrees one.extent shift
        (shift.withDef one.registry.nextId two.registry.nextId) :=
      agrees_withDef (Nat.le_of_eq size)
    have faithful₁ : Faithful ⟨one.extent.types, one.registry.defs.size + 1⟩
        (shift.withDef one.registry.nextId two.registry.nextId) := by
      rw [← size, show one.registry.nextId = ⟨one.extent.defs⟩ from congrArg DefId.mk size.symm]
      refine faithful_withDef twin.faithful fun id below same => ?_
      have inside := twin.registry.inside id below
      rw [same] at inside
      exact Nat.lt_irrefl _ inside
    have within₁ : one.extent.Within ⟨one.extent.types, one.registry.defs.size + 1⟩ :=
      ⟨Nat.le_refl _, by simp [size]⟩
    obtain ⟨next, agrees, defs, more, faithful, pools, below, same⟩ :=
      (twin.pool.agree agrees₁ within₁ rfl).intern faithful₁
        (known_nominal.2 (known_def.2 (Nat.lt_succ_self _)) :
          Known _ (TypeForm.nominal request.kind one.registry.nextId))
    have new : next.defs one.registry.nextId = two.registry.nextId := by
      rw [defs]
      simp [Renaming.withDef]
    have agrees₂ : Agrees one.extent shift next := agrees₁.trans (agrees.within within₁)
    have within₂ : one.extent.Within
        ⟨(one.pool.intern (.nominal request.kind one.registry.nextId)).2.size,
          one.registry.defs.size + 1⟩ := ⟨more, by simp [size]⟩
    obtain ⟨registries, entries, fresh⟩ := twin.registry.push agrees₂ more new
      known below
    have moved : shift.image request = next.image request := by
      simp only [image_request, known _ _ agrees₂]
    have form : (shift.withDef one.registry.nextId two.registry.nextId).image
        (TypeForm.nominal request.kind one.registry.nextId) =
          .nominal request.kind two.registry.nextId := by
      simp [Renaming.withDef]
    rw [form] at pools same
    have extent : TypeContext.extent { one with
          pool := (one.pool.intern (.nominal request.kind one.registry.nextId)).2
          registry := (one.registry.push request
            (one.pool.intern (.nominal request.kind one.registry.nextId)).1).2 } =
        ⟨(one.pool.intern (.nominal request.kind one.registry.nextId)).2.size,
          one.registry.defs.size + 1⟩ := by
      simp [TypeContext.extent, TypeRegistry.size_push]
    rw [moved]
    refine ⟨next, agrees₂, ?_, ?_, ?_, ?_⟩
    · exact extent ▸ within₂
    · rw [← same] at registries
      refine ⟨twin.config, extent ▸ faithful, fun ty small => ?_, extent ▸ pools,
        extent ▸ registries, extent ▸ twin.templates.agree agrees₂ within₂,
        extent ▸ twin.instances.agree agrees₂ within₂,
        extent ▸ twin.layouts.agree agrees₂ within₂⟩
      obtain ⟨small, fixed⟩ := twin.primitive ty small
      refine ⟨extent ▸ Nat.lt_of_lt_of_le small more, ?_⟩
      rw [← agrees₂.types ty small, fixed]
    · exact known_ok.2 (extent ▸ fresh)
    · refine congrArg Except.ok ?_
      rw [← same] at entries
      exact entries

/-- Definitions that changed alike keep the tables the same. -/
theorem redefine (twin : Twin shift one two) {registry registry' : TypeRegistry}
    (size : registry.defs.size = one.registry.defs.size)
    (registries : RegistryTwin one.extent shift registry registry') :
    Twin shift { one with registry } { two with registry := registry' } := by
  have extent : TypeContext.extent { one with registry } = one.extent := by
    simp [TypeContext.extent, size]
  exact ⟨twin.config, extent ▸ twin.faithful, extent ▸ twin.primitive, extent ▸ twin.pool,
    extent ▸ registries, extent ▸ twin.templates, extent ▸ twin.instances, extent ▸ twin.layouts⟩

theorem defineId (twin : Twin shift one two) {id : DefId} {body : DefBody}
    (known : Known one.extent id) (known' : Known one.extent body) :
    (∃ err, one.defineId id body = .error err ∧ Known one.extent err ∧
      two.defineId (shift.defs id) (shift.image body) = .error (shift.image err)) ∨
    ∃ one' two', one.defineId id body = .ok one' ∧
      two.defineId (shift.defs id) (shift.image body) = .ok two' ∧
      one'.extent = one.extent ∧ Twin shift one' two' := by
  rcases twin.registry.define twin.faithful known known' with
    ⟨err, here, inner, there⟩ | ⟨registry, registry', here, there, size, registries⟩
  · exact .inl ⟨err, by rw [TypeContext.defineId, here]; rfl, inner,
      by rw [TypeContext.defineId, there]; rfl⟩
  · exact .inr ⟨_, _, by rw [TypeContext.defineId, here]; rfl,
      by rw [TypeContext.defineId, there]; rfl, by simp [TypeContext.extent, size],
      twin.redefine size registries⟩

theorem define (twin : Twin shift one two) (known : Known one.extent ty) {body : DefBody}
    (known' : Known one.extent body) :
    Keeps shift one (one.answered ((one.define ty body).map ((), ·)))
      (two.answered ((two.define (shift.types ty) (shift.image body)).map ((), ·))) := by
  obtain ⟨same, inner⟩ := twin.defOf known
  unfold TypeContext.define
  rw [same]
  cases behind : one.defOf ty with
  | error err =>
    rw [behind] at inner
    exact Keeps.unchanged twin (known_error.2 (known_error.1 inner))
  | ok found =>
    rw [behind, known_ok] at inner
    cases found with
    | none => exact Keeps.unchanged twin (known_error.2 (known_incompleteType.2 known))
    | some entry =>
      rw [known_some, known_entry] at inner
      rcases twin.defineId inner.1 known' with
        ⟨err, here, inner', there⟩ | ⟨one', two', here, there, extent, twin'⟩
      · simp only [image_ok, image_some, bind, Except.bind, here,
          show (shift.image entry).id = shift.defs entry.id from rfl, there]
        exact Keeps.unchanged twin (known_error.2 (known_registryError.2 inner'))
      · simp only [image_ok, image_some, bind, Except.bind, here,
          show (shift.image entry).id = shift.defs entry.id from rfl, there]
        exact ⟨shift, .refl _ _, extent ▸ .refl _, twin', known_ok.2 (known_unit _), rfl⟩

/-! ### Templates -/

theorem register (twin : Twin shift one two) {template : TemplateDef}
    (known : Known one.extent template) :
    Keeps shift one (one.answered (one.registerTemplate template))
      (two.answered (two.registerTemplate (shift.image template))) := by
  unfold TypeContext.registerTemplate
  rcases twin.templates.register known with
    ⟨err, here, there⟩ | ⟨id, templates, templates', here, there, registered⟩
  · rw [here, there]
    exact Keeps.unchanged twin (known_error.2 (known_templateDefError err))
  · rw [here, there]
    exact ⟨shift, .refl _ _, .refl _, ⟨twin.config, twin.faithful, twin.primitive, twin.pool,
      twin.registry, registered, twin.instances, twin.layouts⟩, known_ok.2 (known_template id), rfl⟩

end Twin

/-- Tables that are the same as others under a renaming are the same as themselves without one. -/
theorem Twin.self (twin : Twin shift one two) : Twin .id one one where
  config := rfl
  faithful := ⟨fun _ _ _ _ same => same, fun _ _ _ _ same => same⟩
  primitive ty small := ⟨(twin.primitive ty small).1, rfl⟩
  pool := ⟨twin.pool.sound, twin.pool.sound, twin.pool.size, fun ty form found =>
    ⟨(twin.pool.form ty form found).1, found.trans (congrArg some (Renames.image_id form).symm)⟩⟩
  registry := ⟨twin.registry.size, fun id below => twin.registry.size ▸ below,
    fun id _ => (Renames.image_id (one.registry.get? id)).symm, twin.registry.known,
    fun name => (Renames.image_id one.registry.names[name]?).symm, twin.registry.named⟩
  templates := ⟨rfl, fun id => (Renames.image_id (one.templates.get? id)).symm,
    twin.templates.known, rfl⟩
  instances := ⟨fun key made found => by
    obtain ⟨known, known', -⟩ := twin.instances.kept key made found
    refine ⟨known, known', ?_⟩
    simpa using found, fun key present => ⟨key, present, (Renames.image_id key).symm⟩⟩
  layouts := ⟨fun ty layout found => ⟨(twin.layouts.kept ty layout found).1, known_layout layout,
    found⟩, fun ty present => ⟨ty, present, rfl⟩⟩

/-- More types and ids on the second side, which lead to nothing else that is kept, make no
difference. -/
theorem Twin.more (twin : Twin shift one two) {after : TypeContext}
    (config : after.config = two.config) (sound : after.pool.Sound)
    (pool : TypePool.Kept two.pool after.pool)
    (size : two.registry.defs.size ≤ after.registry.defs.size)
    (defs : ∀ id, after.registry.get? id = two.registry.get? id)
    (names : after.registry.names = two.registry.names) (templates : after.templates = two.templates)
    (instances : after.instances = two.instances) (layouts : after.layouts = two.layouts) :
    Twin shift one after where
  config := config.trans twin.config
  faithful := twin.faithful
  primitive := twin.primitive
  pool := ⟨twin.pool.sound, sound, twin.pool.size, fun ty form found =>
    ⟨(twin.pool.form ty form found).1, TypePool.form?_kept pool (twin.pool.form ty form found).2⟩⟩
  registry := ⟨twin.registry.size,
    fun id below => Nat.lt_of_lt_of_le (twin.registry.inside id below) size,
    fun id below => (defs _).trans (twin.registry.get? id below), twin.registry.known,
    fun name => by rw [names]; exact twin.registry.names name, twin.registry.named⟩
  templates := templates ▸ twin.templates
  instances := instances ▸ twin.instances
  layouts := layouts ▸ twin.layouts

theorem known_primitive {extent : Extent} {form : TypeForm} (primitive : form ∈ TypeForm.primitives) :
    Known extent form := by
  simp only [TypeForm.primitives, List.mem_cons, List.not_mem_nil, or_false] at primitive
  rcases primitive with rfl | rfl | rfl | rfl | rfl | rfl | rfl | rfl | rfl | rfl | rfl | rfl | rfl <;>
    exact fun _ _ _ => rfl

/-- New tables are the same as themselves. -/
theorem twin_initial (config : TypeConfig) :
    Twin .id ({ config } : TypeContext) ({ config } : TypeContext) := by
  refine ⟨rfl, ⟨fun _ _ _ _ same => same, fun _ _ _ _ same => same⟩,
    fun ty small => ⟨?_, rfl⟩, ⟨TypePool.sound_new, TypePool.sound_new, rfl,
      fun ty form found => ?_⟩, ?_, ?_, ?_, ?_⟩
  · rw [← TypePool.size_new] at small
    exact small
  · exact ⟨known_primitive (TypePool.form?_new found),
      found.trans (congrArg some (Renames.image_id form).symm)⟩
  · refine ⟨rfl, fun id below => absurd below (Nat.not_lt_zero _),
      fun id below => absurd below (Nat.not_lt_zero _), fun id entry live => ?_,
      fun name => by simp, fun name id found => by simp at found⟩
    simp [TypeRegistry.get?] at live
  · refine ⟨rfl, fun id => ?_, fun id template registered => ?_, rfl⟩
    · simp [TemplateRegistry.get?]
    · simp [TemplateRegistry.get?] at registered
  · exact ⟨fun key made found => by simp at found, fun key present => by simp at present⟩
  · exact ⟨fun key made found => by simp at found, fun key present => by simp at present⟩

end FrontEnd
