import FrontEnd.Proofs.Specialization.Additions
import FrontEnd.Proofs.Specialization.CatchingUp

/-!
Tables that are behind others. Between requests, the tables behind hold less than the others, under
numbers of their own, and what the others hold beyond that is settled. The others may move on by any
requests that register no template. Where both make the same request, the tables behind stay behind
and get the same answer, unless the request runs into the recursion limit there.
-/

namespace FrontEnd

namespace TypeContext

open Specializer (Ahead)

variable {shift : Renaming} {base ctx one two after : TypeContext} {id : TemplateId}
  {arguments : List TemplateArgument}

/-- The second tables hold all that the first hold, under the new numbers, and what else they hold
is settled. -/
def Behind (shift : Renaming) (one two : TypeContext) : Prop :=
  Ahead shift { context := one } { context := two }

/-- Tables are behind themselves. -/
theorem Orderly.behind (orderly : base.Orderly) : Behind .id base base where
  shared := orderly.twin.shared
  registry := ⟨orderly.twin.registry.size, orderly.twin.registry.inside, fun id below => by
    rw [Renaming.image_id]
    exact (TypeRegistry.Continues.refl base.registry).get? id below,
    orderly.twin.registry.known⟩
  indexed := orderly.sound.indexed
  indexed' := orderly.sound.indexed
  owned := orderly.sound.owned
  found := orderly.twin.instances.kept
  settled key made found := .inr ⟨key, by rw [found]; rfl, (Renaming.image_id key).symm⟩
  knownChain := known_nil
  chain key member := nomatch member

/-! ### The second moves on -/

/-- No request takes a definition away or changes its body. -/
theorem continues_perform (indexed : ctx.Indexed) (request : TableRequest) :
    ctx.registry.Continues (ctx.perform request).2.registry := by
  cases request with
  | declare name kind locator =>
    simp only [perform, answered]
    cases declared : ctx.declare { name, kind, locator } with
    | error err => exact .refl _
    | ok made =>
      obtain ⟨-, same⟩ := declare_ok declared
      dsimp only [Prod.map]
      rw [same]
      exact TypeRegistry.continues_push _ _ _
  | define ty body =>
    simp only [perform, answered]
    cases defined : ctx.define ty body with
    | error err => exact .refl _
    | ok after =>
      obtain ⟨entry, registry, -, given, rfl⟩ := define_ok defined
      exact TypeRegistry.continues_define given
  | register template =>
    simp only [perform, answered]
    cases registered : ctx.registerTemplate template with
    | error err => exact .refl _
    | ok made =>
      obtain ⟨templates, -, same⟩ := registerTemplate_ok registered
      dsimp only [Prod.map]
      rw [same]
      exact .refl _
  | specialize id arguments =>
    have adds := adds_specialize indexed id arguments
    refine ⟨adds.size, fun place below => ?_⟩
    rw [show (ctx.perform (.specialize id arguments)).2.registry.get? place =
      ctx.registry.get? place from adds.old place below]
    exact (TypeRegistry.Continues.refl ctx.registry).get? place below
  | intern _ | qualify _ _ | layout _ | recordLayout _ => exact .refl _

/-- A request leaves the templates as they are, or adds one. -/
theorem templates_perform (indexed : ctx.Indexed) (request : TableRequest) :
    (ctx.perform request).2.templates = ctx.templates ∨
      ctx.templates.templates.size < (ctx.perform request).2.templates.templates.size := by
  cases request with
  | declare name kind locator =>
    left
    simp only [perform, answered]
    cases declared : ctx.declare { name, kind, locator } with
    | error err => rfl
    | ok made =>
      obtain ⟨-, same⟩ := declare_ok declared
      dsimp only [Prod.map]
      rw [same]
      rfl
  | define ty body =>
    left
    simp only [perform, answered]
    cases defined : ctx.define ty body with
    | error err => rfl
    | ok after =>
      obtain ⟨entry, registry, -, -, rfl⟩ := define_ok defined
      rfl
  | register template =>
    simp only [perform, answered]
    cases registered : ctx.registerTemplate template with
    | error err => exact .inl rfl
    | ok made =>
      right
      obtain ⟨templates, given, same⟩ := registerTemplate_ok registered
      obtain ⟨-, -, pushed, -⟩ := TemplateRegistry.register_ok given
      dsimp only [Prod.map]
      rw [same, pushed]
      simp
  | specialize id arguments => exact .inl (adds_specialize indexed id arguments).templates
  | intern _ | qualify _ _ | layout _ | recordLayout _ => exact .inl rfl

/-- No history takes a template away. -/
theorem size_templates_after (sound : CacheSound ctx) (history : List TableRequest) :
    ctx.templates.templates.size ≤ (ctx.after history).templates.templates.size := by
  induction history generalizing ctx with
  | nil => exact Nat.le_refl _
  | cons request rest ih =>
    refine Nat.le_trans ?_ (ih (perform_sound sound request).1)
    rcases templates_perform sound.indexed request with same | more
    · exact Nat.le_of_eq (congrArg (·.templates.size) same.symm)
    · exact Nat.le_of_lt more

/-- A request of the second that registers nothing leaves the first behind. -/
theorem Behind.perform (behind : Behind shift one two) (orderly : two.Orderly)
    {request : TableRequest} (known : Known two.extent request)
    (same : (two.perform request).2.templates = two.templates) :
    Behind shift one (two.perform request).2 := by
  have indexed := orderly.sound.indexed
  obtain ⟨orderly', -, -⟩ := orderly.perform known
  obtain ⟨-, extends_⟩ := perform_sound orderly.sound request
  refine Ahead.settle behind extends_.config orderly'.sound.indexed extends_.pool same
    (continues_perform indexed request) rfl extends_.instances fun key made found => ?_
  rcases perform_cases indexed request with
    quiet | ⟨id, arguments, result, state, rfl, succeeded, ended⟩
  · exact .inl ((congrArg (·[key]?) quiet.instances).symm.trans found)
  · rw [ended] at found ⊢
    exact orderly.settled_publish (known_specializeRequest.1 known) succeeded key made found

/-- The second may move on by requests that register nothing. -/
theorem Behind.leads (behind : Behind shift one two) (orderly : two.Orderly)
    (leads : Leads two after) (same : after.templates = two.templates) :
    Behind shift one after := by
  obtain ⟨history, inside, rfl⟩ := leads
  induction history generalizing two with
  | nil => exact behind
  | cons request rest ih =>
    obtain ⟨known, inside⟩ := inside
    have indexed := orderly.sound.indexed
    obtain ⟨orderly', -, -⟩ := orderly.perform known
    have still : (two.perform request).2.templates = two.templates := by
      refine (templates_perform indexed request).resolve_right fun more => ?_
      have whole := size_templates_after orderly'.sound rest
      rw [after_cons] at same
      rw [same] at whole
      exact absurd whole (Nat.not_le_of_lt more)
    exact ih (behind.perform orderly known still) orderly' inside (same.trans still.symm)

/-! ### Both make a request -/

/-- What two requests have made is published on both sides. -/
private theorem behind_publish {state state' : Specializer} (ahead : Ahead shift state state')
    (same : ∀ key, state.publish.context.instances[key]? = state.find? key)
    (same' : ∀ key, state'.publish.context.instances[key]? = state'.find? key) :
    Behind shift state.publish.context state'.publish.context where
  shared := ⟨ahead.shared.config, ahead.shared.faithful, ahead.shared.primitive, ahead.shared.pool,
    ahead.shared.templates⟩
  registry := ahead.registry
  indexed := ⟨ahead.indexed.pool, ahead.indexed.defs, ahead.indexed.names⟩
  indexed' := ⟨ahead.indexed'.pool, ahead.indexed'.defs, ahead.indexed'.names⟩
  owned id entry key live carries := (same key).trans (ahead.owned id entry key live carries)
  found key made found := by
    obtain ⟨keyed, known, there⟩ := ahead.found key made ((same key).symm.trans found)
    exact ⟨keyed, known, (same' _).trans there⟩
  settled key made found := by
    have onward : Specializer.Onward state' { context := state'.publish.context } :=
      ahead.onward ahead.indexed'.pool (.refl _) rfl fun key made found => (same' key).trans found
    refine (ahead.settled key made ((same' key).symm.trans found)).imp
      (fun settled => settled.onward onward fun _ _ live _ => live) ?_
    rintro ⟨own, present, rfl⟩
    exact ⟨own, (congrArg Option.isSome (same own)).trans present, rfl⟩
  knownChain := known_nil
  chain key member := nomatch member

/-- Both ask for a type that a template gives. Where the second gets it, the first gets the same,
unless the request runs into the recursion limit there. -/
theorem Behind.specialize (behind : Behind shift one two) (known : Known one.extent arguments)
    {ty' : TypeId} (given : (two.specializeType id (shift.image arguments)).1 = .ok ty') :
    (∃ err : TypeError, err.IsRunaway ∧ (one.specializeType id arguments).1 = .error err) ∨
      ∃ next ty, Agrees one.extent shift next ∧
        one.extent.Within (one.specializeType id arguments).2.extent ∧
        Behind next (one.specializeType id arguments).2
          (two.specializeType id (shift.image arguments)).2 ∧
        Known (one.specializeType id arguments).2.extent ty ∧
        (one.specializeType id arguments).1 = .ok ty ∧ ty' = next.types ty := by
  have carries := Specializer.specializeWithin_carries
    (one.config.recursionLimit - Specializer.depth { context := one }) id behind known
  have budget : two.config.recursionLimit - Specializer.depth { context := two } =
      one.config.recursionLimit - Specializer.depth { context := one } := by
    rw [show two.config = one.config from behind.shared.config]
    rfl
  have given := specialize_of_specializeType given
  have type' : (two.specializeType id (shift.image arguments)).2 =
      (two.specialize id (shift.image arguments)).2 := rfl
  have type : one.specializeType id arguments = ((one.specialize id arguments).1.bind
      (Specializer.requireType id), (one.specialize id arguments).2) := rfl
  rw [type']
  rw [specialize_eq two] at given ⊢
  rcases Specializer.specialize_cases behind.indexed' id (shift.image arguments) with
    ⟨err, state', failed⟩ | ⟨made', state', second⟩
  · rw [failed.ran] at given
    cases given
  rw [second.ran] at given ⊢
  cases given
  have steps := second.steps
  rw [budget] at steps
  rw [steps] at carries
  rw [type, specialize_eq one]
  rcases Specializer.specialize_cases behind.indexed id arguments with
    ⟨err, state, failed⟩ | ⟨made, state, first⟩
  · rw [failed.steps] at carries
    rw [failed.ran]
    obtain ⟨own, runaway, same⟩ | ⟨next, -, -, -, -, same⟩ := carries
    · cases same
      exact .inl ⟨err, runaway, rfl⟩
    · cases same
  · rw [first.steps] at carries
    rw [first.ran]
    obtain ⟨own, -, same⟩ | ⟨next, agrees, within, ahead, inner, same⟩ := carries
    · cases same
    obtain ⟨added, results, growth, -⟩ := first.growth
    obtain ⟨added', results', growth', -⟩ := second.growth
    have published := behind_publish ahead (Specializer.instances_publish growth rfl)
      (Specializer.instances_publish growth' rfl)
    cases made with
    | type ty =>
      cases same
      exact .inr ⟨next, ty, agrees, within, published, known_instanceType.1 (known_ok.1 inner), rfl,
        rfl⟩
    | function made => cases same

/-- Both add a type. -/
theorem Behind.intern (behind : Behind shift one two) {form : TypeForm}
    (known : Known one.extent form) :
    ∃ next, Agrees one.extent shift next ∧ one.extent.Within (one.intern form).2.extent ∧
      Behind next (one.intern form).2 (two.intern (shift.image form)).2 ∧
      Known (one.intern form).2.extent (one.intern form).1 ∧
      (two.intern (shift.image form)).1 = next.types (one.intern form).1 := by
  obtain ⟨err, -, same⟩ | ⟨next, agrees, within, ahead, inner, same⟩ :=
    Specializer.steady_ahead.intern behind known
  · cases same
  · exact ⟨next, agrees, within, ahead, known_ok.1 inner, Except.ok.inj same⟩

/-- Both add qualifiers to a type. -/
theorem Behind.qualified (behind : Behind shift one two) {ty : TypeId} (known : Known one.extent ty)
    (quals : Qualifiers) :
    ∃ next, Agrees one.extent shift next ∧ one.extent.Within (one.qualified ty quals).2.extent ∧
      Behind next (one.qualified ty quals).2 (two.qualified (shift.types ty) quals).2 ∧
      Known (one.qualified ty quals).2.extent (one.qualified ty quals).1 ∧
      (two.qualified (shift.types ty) quals).1 = next.types (one.qualified ty quals).1 := by
  obtain ⟨err, -, same⟩ | ⟨next, agrees, within, ahead, inner, same⟩ :=
    Specializer.steady_ahead.qualified behind known quals
  · cases same
  · exact ⟨next, agrees, within, ahead, known_ok.1 inner, Except.ok.inj same⟩

/-- Both register a template. -/
theorem Behind.register (behind : Behind shift one two) {template : TemplateDef}
    {after' : TypeContext} (known : Known one.extent template)
    (registered : two.registerTemplate (shift.image template) = .ok (id, after')) :
    ∃ after, one.registerTemplate template = .ok (id, after) ∧ after.extent = one.extent ∧
      Behind shift after after' := by
  have kept := (quiet_registered behind.indexed' registered).extends_.templates
  obtain ⟨templates', given', rfl⟩ := registerTemplate_ok registered
  obtain ⟨err, -, refused⟩ | ⟨own, templates, templates'', here, there, twin⟩ :=
    behind.shared.templates.register known
  · cases refused.symm.trans given'
  cases there.symm.trans given'
  have onward : Specializer.Onward { context := two }
      { context := { two with templates := templates' } } :=
    ⟨behind.indexed'.pool.exact, behind.indexed'.pool.exact, .refl _, behind.knownTemplates, kept,
      fun _ _ found => found⟩
  refine ⟨{ one with templates }, by rw [registerTemplate, here]; rfl, rfl, ?_⟩
  exact {
    shared := ⟨behind.shared.config, behind.shared.faithful, behind.shared.primitive,
      behind.shared.pool, twin⟩
    registry := behind.registry
    indexed := ⟨behind.indexed.pool, behind.indexed.defs, behind.indexed.names⟩
    indexed' := ⟨behind.indexed'.pool, behind.indexed'.defs, behind.indexed'.names⟩
    owned := behind.owned
    found := behind.found
    settled := fun key made found => (behind.settled key made found).imp_left fun settled =>
      settled.onward onward fun _ _ live _ => live
    knownChain := known_nil
    chain := fun key member => nomatch member }

/-! ### The first catches up -/

/-- The first declares what the second has already, under an id that stands for nothing else. -/
theorem Behind.declare (behind : Behind shift one two) {request : DefRequest}
    {entry entry' : TypeDef} (plain : request.specialization = none)
    (declared : one.declare request = .ok (entry, after))
    (live : two.registry.get? entry'.id = some entry') (meets : entry'.Meets request)
    (fresh : ∀ id : DefId, id.index < one.extent.defs → shift.defs id ≠ entry'.id) :
    ∃ next, Agrees one.extent shift next ∧ one.extent.Within after.extent ∧
      Behind next after two ∧ Known after.extent entry.type ∧ next.defs entry.id = entry'.id ∧
      next.types entry.type = entry'.type := by
  have known : Known one.extent request.specialization := plain ▸ known_none
  have meets' : entry'.Meets (shift.image request) :=
    ⟨meets.name, meets.kind, meets.locator, by
      rw [meets.specialization, image_request, plain]
      rfl⟩
  obtain ⟨next, agrees, within, shared, registry, inner, id, type⟩ :=
    Ahead.declare behind known declared live meets' fresh
  refine ⟨next, agrees, within, ?_, (known_entry.1 inner).2.1, id, type⟩
  have same : ∀ key : SpecializationKey, after.instances[key]? = one.instances[key]? := by
    obtain ⟨-, rfl⟩ := declare_ok declared
    exact fun key => rfl
  refine ⟨shared, registry, indexed_declare behind.indexed declared, behind.indexed',
    fun place stored key live carries => ?_, fun key made found => ?_, fun key made found => ?_,
    known_nil, fun key member => nomatch member⟩
  · obtain ⟨older, live', carries', type'⟩ :=
      (quiet_declared behind.indexed declared plain).owners place stored key live carries
    exact type' ▸ (same key).trans (behind.owned place older key live' carries')
  · obtain ⟨keyed, inner, there⟩ := behind.found key made ((same key).symm.trans found)
    rw [← keyed _ _ agrees, ← inner _ _ agrees]
    exact ⟨keyed.within within, inner.within within, there⟩
  · refine (behind.settled key made found).imp_right ?_
    rintro ⟨own, present, rfl⟩
    obtain ⟨mine, stored⟩ := Option.isSome_iff_exists.1 present
    exact ⟨own, (congrArg Option.isSome (same own)).trans present,
      (behind.found own mine stored).1 _ _ agrees⟩

/-- The first gives a definition the body that it has in the second already. -/
theorem Behind.define (behind : Behind shift one two) {entry : TypeDef} {body : DefBody}
    (live : one.registry.get? entry.id = some entry) (bare : entry.body = none)
    (known : Known one.extent body)
    (whole : two.bodyOf (shift.types entry.type) = .ok (some (shift.image body))) :
    ∃ registry, one.registry.define entry.id body = .ok registry ∧
      one.define entry.type body = .ok { one with registry } ∧
      Behind shift { one with registry } two := by
  obtain ⟨registry, defined⟩ := TypeRegistry.define_bare live bare
  obtain ⟨entry', live', becomes⟩ := behind.registry.counterpart live
  have type' : entry'.type = shift.types entry.type := by
    obtain ⟨given, rfl, -⟩ := becomes
    rfl
  have whole' : entry'.body = some (shift.image body) := by
    have found := bodyOf_live behind.indexed' live'
    rw [type'] at found
    exact (Except.ok.inj (whole.symm.trans found)).symm
  refine ⟨registry, defined, ?_, Ahead.completed behind known defined live' whole'⟩
  simp only [TypeContext.define, defOf_live behind.indexed live, defineId, defined, Bind.bind,
    Except.bind, Pure.pure, Except.pure]

end TypeContext

end FrontEnd
