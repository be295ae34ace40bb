import FrontEnd.Proofs.Specialization.Lockstep
import FrontEnd.Proofs.Specialization.Settled

/-!
A request that is ahead of another. The second of two requests may know more than the first: all that
the first knows, under new numbers, and beyond that instances that are settled. The second may move
on by itself, and where it already has what the first is about to make, the first catches up with it.
-/

namespace FrontEnd

variable {shift next : Renaming} {extent wider : Extent}

/-- What is known stays known under a renaming that leads from the one extent into the other. -/
theorem Known.image [Renames α] {inner outer : Extent} {x : α} (known : Known inner x)
    (types : ∀ ty : TypeId, ty.index < inner.types → (shift.types ty).index < outer.types)
    (defs : ∀ id : DefId, id.index < inner.defs → (shift.defs id).index < outer.defs) :
    Known outer (shift.image x) := by
  intro first second agrees
  have same := known (shift.andThen first) (shift.andThen second)
    ⟨fun ty below => agrees.types _ (types ty below), fun id below => agrees.defs _ (defs id below)⟩
  exact (Renames.image_image _ _ x).trans (same.trans (Renames.image_image _ _ x).symm)

/-! ### Definitions -/

/-- The later definition is the same, but may have got a body if there was none. -/
def TypeDef.Becomes (entry later : TypeDef) : Prop :=
  ∃ body, later = { entry with body } ∧ (entry.body.isSome → body = entry.body)

namespace TypeDef.Becomes

variable {entry later last : TypeDef}

theorem refl (entry : TypeDef) : entry.Becomes entry := ⟨entry.body, rfl, fun _ => rfl⟩

theorem trans (first : entry.Becomes later) (second : later.Becomes last) : entry.Becomes last := by
  obtain ⟨body, rfl, same⟩ := first
  obtain ⟨body', rfl, same'⟩ := second
  refine ⟨body', rfl, fun whole => ?_⟩
  rw [← same whole]
  exact same' (by rw [same whole]; exact whole)

/-- A definition that has a body stays as it is. -/
theorem eq_of_whole (becomes : entry.Becomes later) (whole : entry.body.isSome) : later = entry := by
  obtain ⟨body, rfl, same⟩ := becomes
  rw [same whole]

end TypeDef.Becomes

/-- The definition is what a request asks for, with or without a body. -/
structure TypeDef.Meets (entry : TypeDef) (request : DefRequest) : Prop where
  name : entry.name = request.name
  kind : entry.kind = request.kind
  locator : entry.locator = request.locator
  specialization : entry.specialization = request.specialization

/-- Every id that the first registry gave out leads to the same definition in the later one, which
may have got its body, or to none in both. -/
structure TypeRegistry.Continues (before after : TypeRegistry) : Prop where
  size : before.defs.size ≤ after.defs.size
  get? : ∀ id : DefId, id.index < before.defs.size →
    Option.Rel TypeDef.Becomes (before.get? id) (after.get? id)

namespace TypeRegistry

variable {before after : TypeRegistry}

private theorem rel_refl (entry : Option TypeDef) : Option.Rel TypeDef.Becomes entry entry := by
  cases entry with
  | none => exact .none
  | some entry => exact .some (.refl entry)

theorem Continues.refl (registry : TypeRegistry) : registry.Continues registry :=
  ⟨Nat.le_refl _, fun id _ => rel_refl (registry.get? id)⟩

theorem continues_push (registry : TypeRegistry) (request : DefRequest) (ty : TypeId) :
    registry.Continues (registry.push request ty).2 := by
  refine ⟨by simp [size_push], fun id below => ?_⟩
  rw [get?_push, if_neg (by rintro rfl; exact Nat.lt_irrefl _ below)]
  exact rel_refl _

theorem continues_define {id : DefId} {body : DefBody}
    (defined : before.define id body = .ok after) : before.Continues after := by
  obtain ⟨entry, live, bare, -, size, found⟩ := define_ok defined
  refine ⟨Nat.le_of_eq size.symm, fun other _ => ?_⟩
  rw [found]
  split
  · rename_i same
    rw [same, live]
    exact .some ⟨some body, rfl, fun whole => by simp [bare] at whole⟩
  · exact rel_refl _

end TypeRegistry

/-- Every id that the first registry gave out leads to the same definition in the second, under the
new numbers, where it may have got its body already. -/
structure RegistryAhead (extent : Extent) (shift : Renaming) (one two : TypeRegistry) : Prop where
  size : extent.defs = one.defs.size
  inside : ∀ id : DefId, id.index < extent.defs → (shift.defs id).index < two.defs.size
  get? : ∀ id : DefId, id.index < extent.defs →
    Option.Rel TypeDef.Becomes (shift.image (one.get? id)) (two.get? (shift.defs id))
  known : ∀ id entry, one.get? id = some entry → Known extent entry

theorem rel_trans {first second third : Option TypeDef}
    (left : Option.Rel TypeDef.Becomes first second)
    (right : Option.Rel TypeDef.Becomes second third) : Option.Rel TypeDef.Becomes first third := by
  cases left with
  | none => exact right
  | some left =>
    cases right with
    | some right => exact .some (left.trans right)

namespace RegistryAhead

variable {one two after : TypeRegistry} {id : DefId} {entry : TypeDef}

theorem advance (ahead : RegistryAhead extent shift one two) (continues : two.Continues after) :
    RegistryAhead extent shift one after where
  size := ahead.size
  inside id below := Nat.lt_of_lt_of_le (ahead.inside id below) continues.size
  get? id below := rel_trans (ahead.get? id below) (continues.get? _ (ahead.inside id below))
  known := ahead.known

theorem agree (ahead : RegistryAhead extent shift one two) (agrees : Agrees extent shift next)
    (within : extent.Within wider) (same : wider.defs = extent.defs) :
    RegistryAhead wider next one two where
  size := same.trans ahead.size
  inside id below := by
    rw [same] at below
    rw [← agrees.defs id below]
    exact ahead.inside id below
  get? id below := by
    rw [same] at below
    have related := ahead.get? id below
    rw [← agrees.defs id below]
    cases live : one.get? id with
    | none =>
      rw [live] at related
      exact related
    | some entry =>
      rw [live, image_some, ahead.known id entry live _ _ agrees] at related
      exact related
  known id entry live := (ahead.known id entry live).within within

/-- A live definition of the first registry has its counterpart in the second. -/
theorem counterpart (ahead : RegistryAhead extent shift one two) (live : one.get? id = some entry) :
    ∃ entry', two.get? (shift.defs id) = some entry' ∧ (shift.image entry).Becomes entry' := by
  have below : id.index < extent.defs := by
    rw [ahead.size]
    exact TypeRegistry.lt_size_of_get? live
  have related := ahead.get? id below
  rw [live, image_some] at related
  generalize two.get? (shift.defs id) = there at related
  cases related with
  | some becomes => exact ⟨_, rfl, becomes⟩

/-- The first registry declares what the second has already. -/
theorem push (ahead : RegistryAhead extent shift one two) (request : DefRequest) (ty : TypeId)
    {types : Nat} (agrees : Agrees extent shift next) (more : extent.types ≤ types)
    (known : Known extent request.specialization) (below : ty.index < types) {entry' : TypeDef}
    (live : two.get? (next.defs one.nextId) = some entry')
    (becomes : (next.image (one.pushed request ty)).Becomes entry') :
    RegistryAhead ⟨types, one.defs.size + 1⟩ next (one.push request ty).2 two ∧
      Known ⟨types, one.defs.size + 1⟩ (one.pushed request ty) := by
  have size := ahead.size
  have within : extent.Within ⟨types, one.defs.size + 1⟩ := ⟨more, by simp [size]⟩
  have fresh := known_pushed one (known.within within) below
  have older : ∀ id : DefId, id ≠ one.nextId → id.index < one.defs.size + 1 →
      id.index < extent.defs := by
    rw [size]
    exact fun id => TypeRegistry.lt_size_of_ne_nextId
  have wide : RegistryAhead ⟨types, extent.defs⟩ next one two :=
    ahead.agree agrees ⟨more, Nat.le_refl _⟩ rfl
  refine ⟨⟨by simp [TypeRegistry.size_push], fun id within => ?_, fun id within => ?_,
    fun id stored live => ?_⟩, fresh⟩
  · by_cases last : id = one.nextId
    · rw [last]
      exact TypeRegistry.lt_size_of_get? live
    · exact wide.inside id (older id last within)
  · rw [TypeRegistry.get?_push]
    by_cases last : id = one.nextId
    · rw [last, if_pos rfl, live]
      exact .some becomes
    · rw [if_neg last]
      exact wide.get? id (older id last within)
  · rw [TypeRegistry.get?_push] at live
    split at live
    · cases live
      exact fresh
    · exact (ahead.known id stored live).within within

/-- The first registry gives a definition the body that it has in the second already. -/
theorem define (ahead : RegistryAhead extent shift one two) {body : DefBody} {one' : TypeRegistry}
    (known : Known extent body) (defined : one.define id body = .ok one') {entry' : TypeDef}
    (live : two.get? (shift.defs id) = some entry') (whole : entry'.body = some (shift.image body)) :
    RegistryAhead extent shift one' two := by
  obtain ⟨entry, here, bare, -, size, found⟩ := TypeRegistry.define_ok defined
  refine ⟨ahead.size.trans size.symm, ahead.inside, fun other below => ?_,
    fun other stored present => ?_⟩
  · rw [found]
    split
    · rename_i same
      subst same
      obtain ⟨later, there, given, rfl, -⟩ := ahead.counterpart here
      cases live.symm.trans there
      rw [live]
      exact .some ⟨given, rfl, fun _ => whole⟩
    · exact ahead.get? other below
  · rw [found] at present
    split at present
    · cases present
      obtain ⟨own, type, specialization, -⟩ := known_entry.1 (ahead.known id entry here)
      exact known_entry.2 ⟨own, type, specialization, known_some.2 known⟩
    · exact ahead.known other stored present

end RegistryAhead

/-! ### Requests -/

namespace Specializer

/-- The second request knows all that the first knows, under the new numbers, and what else it knows
is settled. Every key in progress in the second is in progress in the first. -/
structure Ahead (shift : Renaming) (one two : Specializer) : Prop where
  shared : Shared shift one.context two.context
  registry : RegistryAhead one.context.extent shift one.context.registry two.context.registry
  indexed : one.context.Indexed
  indexed' : two.context.Indexed
  owned : ∀ id entry key, one.context.registry.get? id = some entry →
    entry.specialization = some key → one.find? key = some (.type entry.type)
  found : ∀ key made, one.find? key = some made → Known one.context.extent key ∧
    Known one.context.extent made ∧ two.find? (shift.image key) = some (shift.image made)
  settled : ∀ key made, two.find? key = some made →
    two.Settled key made ∨ ∃ own, (one.find? own).isSome ∧ key = shift.image own
  knownChain : Known one.context.extent one.chain
  chain : ∀ key ∈ two.chain, key ∈ shift.image one.chain

namespace Ahead

variable {one two after : Specializer} {key : SpecializationKey} {made : Instance}

theorem inside (ahead : Ahead shift one two) (ty : TypeId)
    (below : ty.index < one.context.extent.types) :
    (shift.types ty).index < two.context.extent.types := by
  obtain ⟨form, -, -, found⟩ := ahead.shared.pool.exists_form (known_type.2 below)
  exact TypePool.lt_size_of_form? found

theorem knownTemplates (ahead : Ahead shift one two) (id : TemplateId) (template : TemplateDef)
    (registered : two.context.templates.get? id = some template) :
    Known two.context.extent template := by
  rw [ahead.shared.templates.get? id] at registered
  obtain ⟨own, here, rfl⟩ := Option.map_eq_some_iff.1 registered
  exact (ahead.shared.templates.known id own here).image ahead.inside ahead.registry.inside

/-- Both know the same template under a key. -/
theorem registered (ahead : Ahead shift one two) {template : TemplateDef}
    (registered : one.context.templates.get? key.template = some template) :
    two.context.templates.get? (shift.image key).template = some (shift.image template) := by
  rw [ahead.shared.templates.get?]
  exact congrArg shift.image registered

/-- What is found in the second under the image of a key that the first does not know is settled. -/
theorem settled_of_absent (ahead : Ahead shift one two) (keyed : Known one.context.extent key)
    (absent : one.find? key = none) (found : two.find? (shift.image key) = some made) :
    two.Settled (shift.image key) made := by
  refine (ahead.settled _ _ found).resolve_right ?_
  rintro ⟨own, present, same⟩
  obtain ⟨mine, stored⟩ := Option.isSome_iff_exists.1 present
  obtain rfl := image_injective ahead.shared.faithful keyed (ahead.found own mine stored).1 same
  rw [absent] at stored
  cases stored

/-! ### The second moves on -/

/-- The second state knows everything that the first knows if nothing is lost. -/
theorem onward (ahead : Ahead shift one two) (sound : after.context.pool.Sound)
    (pool : TypePool.Kept two.context.pool after.context.pool)
    (templates : after.context.templates = two.context.templates)
    (found : ∀ key made, two.find? key = some made → after.find? key = some made) :
    Onward two after where
  exact := ahead.indexed'.pool.exact
  exact' := sound.exact
  pool := pool
  known := ahead.knownTemplates
  templates id template registered := by
    rw [templates]
    exact registered
  found := found

/-- More types and definitions in the second, more bodies, and more instances that are settled, leave
it ahead. -/
theorem settle (ahead : Ahead shift one two) (config : after.context.config = two.context.config)
    (indexed : after.context.Indexed) (pool : TypePool.Kept two.context.pool after.context.pool)
    (templates : after.context.templates = two.context.templates)
    (continues : two.context.registry.Continues after.context.registry)
    (chain : after.chain = two.chain)
    (kept : ∀ key made, two.find? key = some made → after.find? key = some made)
    (new : ∀ key made, after.find? key = some made →
      two.find? key = some made ∨ after.Settled key made) : Ahead shift one after where
  shared := {
    config := config.trans ahead.shared.config
    faithful := ahead.shared.faithful
    primitive := ahead.shared.primitive
    pool := ⟨ahead.shared.pool.sound, indexed.pool, ahead.shared.pool.size, fun ty form found => by
      obtain ⟨known, there⟩ := ahead.shared.pool.form ty form found
      exact ⟨known, TypePool.form?_kept pool there⟩⟩
    templates := templates ▸ ahead.shared.templates }
  registry := ahead.registry.advance continues
  indexed := ahead.indexed
  indexed' := indexed
  owned := ahead.owned
  found key made found := by
    obtain ⟨keyed, known, there⟩ := ahead.found key made found
    exact ⟨keyed, known, kept _ _ there⟩
  settled key made found := by
    obtain older | settled := new key made found
    swap
    · exact .inl settled
    refine (ahead.settled key made older).imp_left fun settled =>
      settled.onward (ahead.onward indexed.pool pool templates kept) ?_
    intro id entry live whole
    have related := continues.get? id (TypeRegistry.lt_size_of_get? live)
    rw [live] at related
    generalize after.context.registry.get? id = there at related
    cases related with
    | some becomes => exact congrArg some (becomes.eq_of_whole whole)
  knownChain := ahead.knownChain
  chain key member := ahead.chain key (chain ▸ member)

/-- More types and definitions in the second, and more bodies, leave it ahead. -/
theorem advance (ahead : Ahead shift one two) (config : after.context.config = two.context.config)
    (indexed : after.context.Indexed) (pool : TypePool.Kept two.context.pool after.context.pool)
    (templates : after.context.templates = two.context.templates)
    (continues : two.context.registry.Continues after.context.registry)
    (chain : after.chain = two.chain) (same : ∀ key, after.find? key = two.find? key) :
    Ahead shift one after :=
  ahead.settle config indexed pool templates continues chain
    (fun key _ found => (same key).trans found) fun key _ found => .inl ((same key).symm.trans found)

/-- More types in the second leave it ahead. -/
theorem advance_pool (ahead : Ahead shift one two) {pool : TypePool} (sound : pool.Sound)
    (kept : TypePool.Kept two.context.pool pool) :
    Ahead shift one { two with context := { two.context with pool } } :=
  ahead.advance rfl (TypeContext.indexed_pool ahead.indexed' sound kept) kept rfl (.refl _) rfl
    fun _ => rfl

/-! ### The first catches up -/

/-- More types in the first that the second has already. -/
theorem widen (ahead : Ahead shift one two) {pool : TypePool}
    (agrees : Agrees one.context.extent shift next) (kept : TypePool.Kept one.context.pool pool)
    (faithful : Faithful ⟨pool.size, one.context.extent.defs⟩ next)
    (pools : PoolTwin ⟨pool.size, one.context.extent.defs⟩ next pool two.context.pool) :
    Ahead next { one with context := { one.context with pool } } two := by
  have more : one.context.extent.types ≤ pool.size := TypePool.size_kept kept
  have within : one.context.extent.Within ⟨pool.size, one.context.extent.defs⟩ :=
    ⟨more, Nat.le_refl _⟩
  refine ⟨⟨ahead.shared.config, faithful, fun ty small => ?_, pools,
    ahead.shared.templates.agree agrees within⟩, ahead.registry.agree agrees within rfl,
    TypeContext.indexed_pool ahead.indexed pools.sound kept, ahead.indexed', ahead.owned,
    fun key made found => ?_, fun key made found => ?_, ahead.knownChain.within within,
    fun key member => ?_⟩
  · obtain ⟨below, same⟩ := ahead.shared.primitive ty small
    exact ⟨Nat.lt_of_lt_of_le below more, (agrees.types ty below).symm.trans same⟩
  · obtain ⟨keyed, known, there⟩ := ahead.found key made found
    refine ⟨keyed.within within, known.within within, ?_⟩
    rw [← keyed _ _ agrees, ← known _ _ agrees]
    exact there
  · refine (ahead.settled key made found).imp_right ?_
    rintro ⟨own, present, rfl⟩
    obtain ⟨mine, stored⟩ := Option.isSome_iff_exists.1 present
    exact ⟨own, present, (ahead.found own mine stored).1 _ _ agrees⟩
  · rw [← ahead.knownChain _ _ agrees]
    exact ahead.chain key member

/-- The first adds a type that the second has already. -/
theorem intern (ahead : Ahead shift one two) {form : TypeForm} {ty' : TypeId}
    (known : Known one.context.extent form)
    (there : two.context.pool.form? ty' = some (shift.image form)) :
    ∃ next, Agrees one.context.extent shift next ∧
      one.context.extent.Within (one.context.intern form).2.extent ∧
      Ahead next { one with context := (one.context.intern form).2 } two ∧
      Known (one.context.intern form).2.extent (one.context.intern form).1 ∧
      ty' = next.types (one.context.intern form).1 := by
  obtain ⟨next, agrees, -, more, faithful, pools, below, same⟩ :=
    ahead.shared.pool.intern ahead.shared.faithful known
  rw [TypePool.intern_of_form? ahead.indexed'.pool.exact there] at pools same
  exact ⟨next, agrees, ⟨more, Nat.le_refl _⟩,
    ahead.widen agrees (TypePool.kept_intern _ form) faithful pools, known_type.2 below, same⟩

end Ahead

/-- Adding a type keeps the second ahead. -/
theorem steady_ahead : Steady Ahead TypeError.IsRunaway where
  intern {shift one two form} ahead known := by
    have moved := ahead.advance_pool (TypePool.sound_intern ahead.indexed'.pool (shift.image form))
      (TypePool.kept_intern _ _)
    obtain ⟨next, agrees, within, caught, inner, same⟩ :=
      moved.intern known (TypePool.form?_intern ahead.indexed'.pool _)
    exact .inr ⟨next, agrees, within, caught, known_ok.2 inner, congrArg Except.ok same⟩
  qualified {shift one two ty} ahead known quals := by
    obtain ⟨same, inner⟩ := ahead.shared.pool.split known
    rw [outcome_qualified, outcome_qualified]
    unfold TypeContext.qualified TypePool.qualified
    rw [same]
    dsimp only
    split
    · exact .unchanged ahead (known_ok.2 inner)
    · have known' := (known_qualified.2 inner : Known _ (TypeForm.qualified _
        ((one.context.pool.split ty).2.union quals)))
      have moved := ahead.advance_pool (TypePool.sound_intern ahead.indexed'.pool _)
        (TypePool.kept_intern _ (shift.image (TypeForm.qualified (one.context.pool.split ty).1
          ((one.context.pool.split ty).2.union quals))))
      obtain ⟨next, agrees, within, caught, inner', same'⟩ :=
        moved.intern known' (TypePool.form?_intern ahead.indexed'.pool _)
      exact .inr ⟨next, agrees, within, caught, known_ok.2 inner', congrArg Except.ok same'⟩

/-! ### Instances -/

variable {one two before after : Specializer} {key : SpecializationKey} {made : Instance}

/-- The later state is the earlier one with the instance under the key. -/
structure Remembers (key : SpecializationKey) (made : Instance) (before after : Specializer) :
    Prop where
  context : after.context = before.context
  chain : after.chain = before.chain
  found : after.find? key = some made
  kept : ∀ other result, before.find? other = some result → after.find? other = some result
  only : ∀ other result, after.find? other = some result →
    other = key ∨ before.find? other = some result

theorem Remembers.refl (found : before.find? key = some made) : Remembers key made before before :=
  ⟨rfl, rfl, found, fun _ _ found => found, fun _ _ found => .inr found⟩

theorem remembers_pending (absent : before.find? key = none) (made : Instance) :
    Remembers key made before { before with pending := before.pending ++ [(key, made)] } where
  context := rfl
  chain := rfl
  found := by rw [find?_remembered absent, if_pos rfl]
  kept other result found := find?_kept absent found
  only other result found := by
    rw [find?_remembered absent] at found
    split at found
    · rename_i same
      exact .inl same.symm
    · exact .inr found

namespace Ahead

/-- Both are ahead inside of a key as they are outside, even if the second is not inside of it. -/
theorem withChains (ahead : Ahead shift one two) {chain chain' : List SpecializationKey}
    (known : Known one.context.extent chain) (inside : ∀ key ∈ chain', key ∈ shift.image chain) :
    Ahead shift { one with chain := chain } { two with chain := chain' } where
  shared := ahead.shared
  registry := ahead.registry
  indexed := ahead.indexed
  indexed' := ahead.indexed'
  owned := ahead.owned
  found := ahead.found
  settled key made found := by
    have onward : Onward two { two with chain := chain' } :=
      ahead.onward ahead.indexed'.pool (.refl _) rfl fun _ _ found => found
    exact (ahead.settled key made found).imp_left fun settled =>
      settled.onward onward fun _ _ live _ => live
  knownChain := known
  chain := inside

/-- What is settled stays so when the second remembers an instance. -/
private theorem settled_remembers (ahead : Ahead shift one two) {key' : SpecializationKey}
    {made' : Instance} (remembers : Remembers key' made' two after) {other : SpecializationKey}
    {result : Instance} (found : two.find? other = some result) :
    after.Settled other result ∨ ∃ own, (one.find? own).isSome ∧ other = shift.image own := by
  refine (ahead.settled other result found).imp_left fun settled => settled.onward ?_ ?_
  · refine ahead.onward ?_ ?_ ?_ remembers.kept
    · rw [remembers.context]
      exact ahead.indexed'.pool
    · rw [remembers.context]
      exact .refl _
    · rw [remembers.context]
  · intro id entry live _
    rw [remembers.context]
    exact live

/-- The first remembers an instance that the second has under the image of its key. -/
theorem remembered (ahead : Ahead shift one two) (absent : one.find? key = none)
    (keyed : Known one.context.extent key) (known : Known one.context.extent made)
    (remembers : Remembers (shift.image key) (shift.image made) two after) :
    Ahead shift { one with pending := one.pending ++ [(key, made)] } after where
  shared := remembers.context ▸ ahead.shared
  registry := remembers.context ▸ ahead.registry
  indexed := ahead.indexed
  indexed' := remembers.context ▸ ahead.indexed'
  owned id entry other live carries := find?_kept absent (ahead.owned id entry other live carries)
  found other result found := by
    rw [find?_remembered absent] at found
    split at found
    · rename_i same
      cases found
      subst same
      exact ⟨keyed, known, remembers.found⟩
    · obtain ⟨keyed, known, there⟩ := ahead.found other result found
      exact ⟨keyed, known, remembers.kept _ _ there⟩
  settled other result found := by
    rcases remembers.only other result found with rfl | earlier
    · exact .inr ⟨key, by rw [find?_remembered absent, if_pos rfl]; rfl, rfl⟩
    · refine (ahead.settled_remembers remembers earlier).imp_right ?_
      rintro ⟨own, present, same⟩
      obtain ⟨mine, stored⟩ := Option.isSome_iff_exists.1 present
      exact ⟨own, by rw [find?_kept absent stored]; rfl, same⟩
  knownChain := ahead.knownChain
  chain other member := ahead.chain other (remembers.chain ▸ member)

/-- The first declares a definition that the second has already: the next id stands for that
definition. -/
theorem declare (ahead : Ahead shift one two) {request : DefRequest} {entry entry' : TypeDef}
    {context : TypeContext} (known : Known one.context.extent request.specialization)
    (declared : one.context.declare request = .ok (entry, context))
    (live : two.context.registry.get? entry'.id = some entry')
    (meets : entry'.Meets (shift.image request))
    (fresh : ∀ id : DefId, id.index < one.context.extent.defs → shift.defs id ≠ entry'.id) :
    ∃ next, Agrees one.context.extent shift next ∧ one.context.extent.Within context.extent ∧
      Shared next context two.context ∧
      RegistryAhead context.extent next context.registry two.context.registry ∧
      Known context.extent entry ∧ next.defs entry.id = entry'.id ∧
      next.types entry.type = entry'.type := by
  obtain ⟨rfl, rfl⟩ := TypeContext.declare_ok declared
  have same_kind : entry'.kind = request.kind := meets.kind
  -- First the id, then the type of its form.
  have agrees₁ : Agrees one.context.extent shift
      (shift.withDef one.context.registry.nextId entry'.id) := agrees_withDef (Nat.le_refl _)
  have faithful₁ : Faithful ⟨one.context.extent.types, one.context.registry.defs.size + 1⟩
      (shift.withDef one.context.registry.nextId entry'.id) :=
    faithful_withDef ahead.shared.faithful fresh
  have within₁ : one.context.extent.Within
      ⟨one.context.extent.types, one.context.registry.defs.size + 1⟩ :=
    ⟨Nat.le_refl _, Nat.le_succ _⟩
  obtain ⟨next, agrees, defs, more, faithful, pools, below, same⟩ :=
    (ahead.shared.pool.agree agrees₁ within₁ rfl).intern faithful₁
      (known_nominal.2 (known_def.2 (Nat.lt_succ_self _)) :
        Known _ (TypeForm.nominal request.kind one.context.registry.nextId))
  have form : (shift.withDef one.context.registry.nextId entry'.id).image
      (TypeForm.nominal request.kind one.context.registry.nextId) =
        .nominal entry'.kind entry'.id := by
    simp [Renaming.withDef, same_kind]
  rw [form, TypePool.intern_of_form? ahead.indexed'.pool.exact
    (ahead.indexed'.defs entry'.id entry' live).2] at pools same
  have new : next.defs one.context.registry.nextId = entry'.id := by
    rw [defs]
    simp [Renaming.withDef]
  have agrees₂ : Agrees one.context.extent shift next := agrees₁.trans (agrees.within within₁)
  have within₂ : one.context.extent.Within
      ⟨(one.context.pool.intern (.nominal request.kind one.context.registry.nextId)).2.size,
        one.context.registry.defs.size + 1⟩ := ⟨more, Nat.le_succ _⟩
  have moved : next.image request.specialization = shift.image request.specialization :=
    (known _ _ agrees₂).symm
  obtain ⟨registries, entries⟩ := ahead.registry.push request
    (one.context.pool.intern (.nominal request.kind one.context.registry.nextId)).1
    agrees₂ more known below (by rw [new]; exact live) ⟨entry'.body, by
      obtain ⟨id, name, kind, type, locator, specialization, body⟩ := entry'
      obtain ⟨named, -, located, carries⟩ := meets
      simp only [image_request] at named located carries same new same_kind
      subst named located carries same same_kind
      simp [image_entry, TypeRegistry.pushed, TypeRegistry.push, new, moved], fun whole => by
      simp [image_entry, TypeRegistry.pushed, TypeRegistry.push] at whole⟩
  have extent : TypeContext.extent { (one.context.intern
      (.nominal request.kind one.context.registry.nextId)).2 with
        registry := (one.context.registry.push request
          (one.context.intern (.nominal request.kind one.context.registry.nextId)).1).2 } =
      ⟨(one.context.pool.intern (.nominal request.kind one.context.registry.nextId)).2.size,
        one.context.registry.defs.size + 1⟩ := by
    simp [TypeContext.extent, TypeRegistry.size_push, TypeContext.intern]
  refine ⟨next, agrees₂, extent ▸ within₂, ⟨ahead.shared.config, extent ▸ faithful,
    fun ty small => ?_, extent ▸ pools, extent ▸ ahead.shared.templates.agree agrees₂ within₂⟩,
    extent ▸ registries, extent ▸ entries, new, same.symm⟩
  obtain ⟨inside, fixed⟩ := ahead.shared.primitive ty small
  refine ⟨extent ▸ Nat.lt_of_lt_of_le inside more, ?_⟩
  rw [← agrees₂.types ty inside, fixed]

/-- The first reserves a definition and remembers its type, which the second has already. -/
theorem reserved (ahead : Ahead shift one two) {template : TemplateDef} {kind : DefKind}
    {entry entry' : TypeDef} {context : TypeContext} (keyed : Known one.context.extent key)
    (absent : one.find? key = none)
    (reserved : one.context.declare (reservation template.name kind key) = .ok (entry, context))
    (live : two.context.registry.get? entry'.id = some entry')
    (shape : entry'.InstanceOf (shift.image key) (shift.image template))
    (nominal : (shift.image template).body.defKind? = some kind)
    (fresh : ∀ id : DefId, id.index < one.context.extent.defs → shift.defs id ≠ entry'.id)
    (remembers : Remembers (shift.image key) (.type entry'.type) two after) :
    ∃ next, Agrees one.context.extent shift next ∧ one.context.extent.Within context.extent ∧
      Ahead next { one with
        context
        declared := one.declared ++ [entry.id]
        pending := one.pending ++ [(key, .type entry.type)] } after ∧
      Known context.extent entry ∧ next.defs entry.id = entry'.id ∧
      next.types entry.type = entry'.type := by
  have meets : entry'.Meets (shift.image (reservation template.name kind key)) :=
    ⟨shape.name, Option.some.inj (shape.kind.symm.trans nominal), shape.locator,
      shape.specialization⟩
  obtain ⟨next, agrees, within, shared, registry, known, id, type⟩ :=
    ahead.declare (known_some.2 keyed) reserved live meets fresh
  have moved : next.image key = shift.image key := (keyed _ _ agrees).symm
  obtain ⟨same, given⟩ := TypeContext.declare_ok reserved
  have finds : ∀ other, ({ one with
      context
      declared := one.declared ++ [entry.id]
      pending := one.pending ++ [(key, .type entry.type)] } : Specializer).find? other =
        if key = other then some (.type entry.type) else one.find? other := by
    subst given
    exact find?_remembered absent (.type entry.type)
  refine ⟨next, agrees, within, ⟨remembers.context ▸ shared, remembers.context ▸ registry,
    TypeContext.indexed_declare ahead.indexed reserved, remembers.context ▸ ahead.indexed',
    fun place stored other live carries => ?_, fun other result found => ?_,
    fun other result found => ?_, ahead.knownChain.within within, fun other member => ?_⟩,
    known, id, type⟩
  · rw [finds]
    subst given same
    rw [TypeRegistry.get?_push] at live
    split at live
    · cases live
      cases carries
      exact if_pos rfl
    · have older := ahead.owned place stored other live carries
      rw [if_neg (by rintro rfl; rw [absent] at older; cases older)]
      exact older
  · rw [finds] at found
    split at found
    · rename_i same
      cases found
      subst same
      rw [moved, image_instanceType, image_type, type]
      exact ⟨keyed.within within, known_instanceType.2 (known_entry.1 known).2.1, remembers.found⟩
    · obtain ⟨keyed', known', there⟩ := ahead.found other result found
      rw [← keyed' _ _ agrees, ← known' _ _ agrees]
      exact ⟨keyed'.within within, known'.within within, remembers.kept _ _ there⟩
  · rcases remembers.only other result found with rfl | earlier
    · exact .inr ⟨key, by rw [finds, if_pos rfl]; rfl, moved.symm⟩
    · refine (ahead.settled_remembers remembers earlier).imp_right ?_
      rintro ⟨own, present, rfl⟩
      obtain ⟨mine, stored⟩ := Option.isSome_iff_exists.1 present
      refine ⟨own, ?_, (ahead.found own mine stored).1 _ _ agrees⟩
      rw [finds]
      split
      · rfl
      · exact present
  · rw [← ahead.knownChain _ _ agrees]
    exact ahead.chain other (remembers.chain ▸ member)

/-- A definition that the second has for a key that the first does not know stands for no definition
of the first. -/
theorem unmatched (ahead : Ahead shift one two) (keyed : Known one.context.extent key)
    (absent : one.find? key = none) {id' : DefId} {entry' : TypeDef}
    (live : two.context.registry.get? id' = some entry')
    (carries : entry'.specialization = some (shift.image key)) (id : DefId)
    (below : id.index < one.context.extent.defs) : shift.defs id ≠ id' := by
  rintro rfl
  have related := ahead.registry.get? id below
  rw [live] at related
  cases here : one.context.registry.get? id with
  | none =>
    rw [here] at related
    cases related
  | some entry =>
    obtain ⟨later, there, body, rfl, -⟩ := ahead.registry.counterpart here
    cases live.symm.trans there
    obtain ⟨own, given, same⟩ := Option.map_eq_some_iff.1 carries
    have known : Known one.context.extent own := known_some.1
      (given ▸ (known_entry.1 (ahead.registry.known id entry here)).2.2.1)
    obtain rfl := image_injective ahead.shared.faithful known keyed same
    rw [ahead.owned id entry own here given] at absent
    cases absent

/-- The first gives a definition the body that it has in the second already. -/
theorem completed (ahead : Ahead shift one two) {id : DefId} {body : DefBody}
    {registry : TypeRegistry} (known : Known one.context.extent body)
    (defined : one.context.registry.define id body = .ok registry) {entry' : TypeDef}
    (live : two.context.registry.get? (shift.defs id) = some entry')
    (whole : entry'.body = some (shift.image body)) :
    Ahead shift { one with context := { one.context with registry } } two := by
  obtain ⟨entry, here, -, -, size, found⟩ := TypeRegistry.define_ok defined
  have extent : TypeContext.extent { one.context with registry } = one.context.extent := by
    simp [TypeContext.extent, size]
  have registries := ahead.registry.define known defined live whole
  refine ⟨⟨ahead.shared.config, extent ▸ ahead.shared.faithful, extent ▸ ahead.shared.primitive,
    extent ▸ ahead.shared.pool, extent ▸ ahead.shared.templates⟩, extent ▸ registries,
    TypeContext.indexed_registry ahead.indexed defined, ahead.indexed',
    fun other stored key present carries => ?_, extent ▸ ahead.found, ahead.settled,
    extent ▸ ahead.knownChain, ahead.chain⟩
  rw [found] at present
  split at present
  · cases present
    exact ahead.owned id entry key here carries
  · exact ahead.owned other stored key present carries

end Ahead

end Specializer

end FrontEnd
