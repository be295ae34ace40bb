import FrontEnd.Proofs.Specialization.Steps
import FrontEnd.Proofs.Typing.Registry
import Mathlib.Data.List.Nodup

/-!
What a request may do to the tables before it is published or withdrawn. It only adds: types to the
pool, definitions for instances behind all others, and results that it did not find and that are
not in progress. Everything else, and every older definition, stays as it is.
-/

namespace FrontEnd

/-- The definition is the one that a nominal template makes for a key. No source declares it. -/
structure TypeDef.InstanceOf (entry : TypeDef) (key : SpecializationKey) (template : TemplateDef) :
    Prop where
  specialization : entry.specialization = some key
  name : entry.name = some template.name
  kind : template.body.defKind? = some entry.kind
  locator : entry.locator = none

namespace Specializer

/-- What is found after an instance is remembered under a key that had none. -/
theorem find?_remembered {state : Specializer} {key : SpecializationKey}
    (absent : state.find? key = none) (made : Instance) (other : SpecializationKey) :
    ({ state with pending := state.pending ++ [(key, made)] } : Specializer).find? other =
      if key = other then some made else state.find? other := by
  simp only [find?, List.find?_append] at absent ⊢
  by_cases same : key = other
  · subst same
    cases mine : state.pending.find? (·.1 == key) with
    | some entry => simp [mine] at absent
    | none => simp
  · cases state.pending.find? (·.1 == other) <;> simp [same]

/-- The step from one state of a request to a later one, with the definitions and results that it
added. -/
structure Growth (before : Specializer) (added : List DefId)
    (made : List (SpecializationKey × Instance)) (after : Specializer) : Prop where
  chain : after.chain = before.chain
  config : after.context.config = before.context.config
  templates : after.context.templates = before.context.templates
  instances : after.context.instances = before.context.instances
  layouts : after.context.layouts = before.context.layouts
  names : after.context.registry.names = before.context.registry.names
  pool : TypePool.Kept before.context.pool after.context.pool
  declared : after.declared = before.declared ++ added
  pending : after.pending = before.pending ++ made
  size : before.context.registry.defs.size ≤ after.context.registry.defs.size
  old : ∀ id : DefId, id.index < before.context.registry.defs.size →
    after.context.registry.get? id = before.context.registry.get? id
  fresh : ∀ id, id ∈ added ↔ before.context.registry.defs.size ≤ id.index ∧
    id.index < after.context.registry.defs.size
  unseen : ∀ result ∈ made, before.find? result.1 = none ∧ result.1 ∉ before.chain
  once : (made.map Prod.fst).Nodup
  owned : ∀ id ∈ added, ∃ entry key, after.context.registry.get? id = some entry ∧
    entry.specialization = some key ∧ (key, Instance.type entry.type) ∈ made
  shaped : ∀ result ∈ made, ∃ template,
    after.context.templates.get? result.1.template = some template ∧
    (template.body.defKind?.isSome → ∃ id ∈ added, ∃ entry,
      after.context.registry.get? id = some entry ∧ result.2 = .type entry.type ∧
        entry.InstanceOf result.1 template)

variable {before middle after : Specializer} {added more : List DefId}
  {made further : List (SpecializationKey × Instance)} {key : SpecializationKey}
  {template : TemplateDef}

/-- What is found now is what was found before, or what was made since. -/
theorem Growth.find? (growth : Growth before added made after) (key : SpecializationKey) :
    after.find? key =
      (before.find? key).or ((made.find? (·.1 == key)).map Prod.snd) := by
  simp only [Specializer.find?, growth.pending, growth.instances, List.find?_append]
  cases mine : before.pending.find? (·.1 == key) with
  | some entry => rfl
  | none =>
    cases new : made.find? (·.1 == key) with
    | none => simp
    | some result =>
      have member := List.mem_of_find?_eq_some new
      have same : result.1 = key := by simpa using List.find?_some new
      have absent := (growth.unseen result member).1
      simp only [Specializer.find?, same, mine] at absent
      simp [absent]

theorem Growth.found (growth : Growth before added made after) {found : Instance}
    (known : before.find? key = some found) : after.find? key = some found := by
  simp [growth.find?, known]

theorem Growth.find?_made (growth : Growth before added made after) {found : Instance}
    (member : (key, found) ∈ made) : after.find? key = some found := by
  have absent := (growth.unseen _ member).1
  have first : made.find? (·.1 == key) = some (key, found) := by
    have present : (made.find? (·.1 == key)).isSome := by
      rw [List.find?_isSome]
      exact ⟨_, member, by simp⟩
    obtain ⟨other, located⟩ := Option.isSome_iff_exists.1 present
    have same : other.1 = key := by simpa using List.find?_some located
    rw [located, List.inj_on_of_nodup_map growth.once (List.mem_of_find?_eq_some located) member
      same]
  simp [growth.find?, absent, first]

theorem Growth.keys_unseen (growth : Growth before added made after)
    (known : (before.find? key).isSome) : key ∉ made.map Prod.fst := by
  intro member
  obtain ⟨result, present, rfl⟩ := List.mem_map.1 member
  simp [(growth.unseen result present).1] at known

theorem Growth.absent (growth : Growth before added made after) (absent : before.find? key = none)
    (new : key ∉ made.map Prod.fst) : after.find? key = none := by
  have unmade : made.find? (·.1 == key) = none := by
    rw [List.find?_eq_none]
    intro result member same
    exact new (List.mem_map.2 ⟨result, member, by simpa using same⟩)
  simp [growth.find?, absent, unmade]

theorem Growth.refl (state : Specializer) : Growth state [] [] state where
  chain := rfl
  config := rfl
  templates := rfl
  instances := rfl
  layouts := rfl
  names := rfl
  pool := .refl _
  declared := by simp
  pending := by simp
  size := Nat.le_refl _
  old _ _ := rfl
  fresh id := by simp
  unseen _ member := by simp at member
  once := by simp
  owned _ member := by simp at member
  shaped _ member := by simp at member

/-- Two stretches of a request one after the other add what both add. -/
theorem Growth.trans (first : Growth before added made middle)
    (second : Growth middle more further after) :
    Growth before (added ++ more) (made ++ further) after where
  chain := second.chain.trans first.chain
  config := second.config.trans first.config
  templates := second.templates.trans first.templates
  instances := second.instances.trans first.instances
  layouts := second.layouts.trans first.layouts
  names := second.names.trans first.names
  pool := first.pool.trans second.pool
  declared := by rw [second.declared, first.declared, List.append_assoc]
  pending := by rw [second.pending, first.pending, List.append_assoc]
  size := Nat.le_trans first.size second.size
  old id below := by rw [second.old id (Nat.lt_of_lt_of_le below first.size), first.old id below]
  fresh id := by
    have := first.size
    have := second.size
    rw [List.mem_append, first.fresh, second.fresh]
    omega
  unseen result member := by
    rcases List.mem_append.1 member with early | late
    · exact first.unseen result early
    · obtain ⟨absent, idle⟩ := second.unseen result late
      rw [first.chain] at idle
      rw [first.find?, Option.or_eq_none_iff] at absent
      exact ⟨absent.1, idle⟩
  once := by
    rw [List.map_append, List.nodup_append]
    refine ⟨first.once, second.once, fun key early other late => ?_⟩
    rintro rfl
    obtain ⟨result, member, rfl⟩ := List.mem_map.1 early
    exact second.keys_unseen (by rw [first.find?_made member]; rfl) late
  owned id member := by
    rcases List.mem_append.1 member with early | late
    · obtain ⟨entry, key, live, kept, present⟩ := first.owned id early
      rw [← second.old id ((first.fresh id).1 early).2] at live
      exact ⟨entry, key, live, kept, List.mem_append_left _ present⟩
    · obtain ⟨entry, key, live, kept, present⟩ := second.owned id late
      exact ⟨entry, key, live, kept, List.mem_append_right _ present⟩
  shaped result member := by
    rcases List.mem_append.1 member with early | late
    · obtain ⟨template, registered, nominal⟩ := first.shaped result early
      refine ⟨template, by rw [second.templates]; exact registered, fun kind => ?_⟩
      obtain ⟨id, present, entry, live, shape⟩ := nominal kind
      rw [← second.old id ((first.fresh id).1 present).2] at live
      exact ⟨id, List.mem_append_left _ present, entry, live, shape⟩
    · obtain ⟨template, registered, nominal⟩ := second.shaped result late
      refine ⟨template, registered, fun kind => ?_⟩
      obtain ⟨id, present, entry, live, shape⟩ := nominal kind
      exact ⟨id, List.mem_append_right _ present, entry, live, shape⟩

/-- Adding types to the pool adds nothing else. -/
theorem growth_pool {pool : TypePool} (state : Specializer)
    (kept : TypePool.Kept state.context.pool pool) :
    Growth state [] [] { state with context := { state.context with pool } } :=
  { Growth.refl state with pool := kept }

/-- What happens inside of a key is no result for the key itself. -/
theorem growth_nested
    (inside : Growth { before with chain := before.chain ++ [key] } added made after) :
    Growth before added made { after with chain := before.chain } ∧
      key ∉ made.map Prod.fst := by
  constructor
  · refine { inside with chain := rfl, unseen := fun result member => ?_ }
    obtain ⟨absent, idle⟩ := inside.unseen result member
    exact ⟨absent, fun busy => idle (List.mem_append_left _ busy)⟩
  · intro member
    obtain ⟨result, present, rfl⟩ := List.mem_map.1 member
    exact (inside.unseen result present).2 (by simp)

/-- Remembering the result of a template that makes no definition. -/
theorem growth_remembered (found : Instance) (growth : Growth before added made after)
    (absent : before.find? key = none) (idle : key ∉ before.chain)
    (new : key ∉ made.map Prod.fst)
    (registered : after.context.templates.get? key.template = some template)
    (plain : template.body.defKind? = none) :
    Growth before added (made ++ [(key, found)])
      { after with pending := after.pending ++ [(key, found)] } where
  chain := growth.chain
  config := growth.config
  templates := growth.templates
  instances := growth.instances
  layouts := growth.layouts
  names := growth.names
  pool := growth.pool
  declared := growth.declared
  pending := by simp [growth.pending]
  size := growth.size
  old := growth.old
  fresh := growth.fresh
  unseen result member := by
    rcases List.mem_append.1 member with early | last
    · exact growth.unseen result early
    · obtain rfl := List.mem_singleton.1 last
      exact ⟨absent, idle⟩
  once := by
    rw [List.map_append, List.nodup_append]
    refine ⟨growth.once, by simp, fun other member last single => ?_⟩
    obtain rfl := List.mem_singleton.1 single
    rintro rfl
    exact new member
  owned id member := by
    obtain ⟨entry, owner, live, kept, present⟩ := growth.owned id member
    exact ⟨entry, owner, live, kept, List.mem_append_left _ present⟩
  shaped result member := by
    rcases List.mem_append.1 member with early | last
    · exact growth.shaped result early
    · obtain rfl := List.mem_singleton.1 last
      exact ⟨template, registered, fun nominal => by simp [plain] at nominal⟩

/-- Reserving the definition of a nominal instance and remembering its type. -/
theorem growth_reserved {entry : TypeDef} {context : TypeContext}
    (absent : before.find? key = none) (idle : key ∉ before.chain)
    (registered : before.context.templates.get? key.template = some template)
    (nominal : template.body.defKind? = some kind)
    (reserved : before.context.declare (reservation template.name kind key) = .ok (entry, context)) :
    entry.body = none ∧ context.registry.get? entry.id = some entry ∧
      Growth before [entry.id] [(key, .type entry.type)]
        { before with context, declared := before.declared ++ [entry.id]
                      pending := before.pending ++ [(key, .type entry.type)] } := by
  obtain ⟨rfl, rfl⟩ := TypeContext.declare_ok reserved
  have live := before.context.registry.get?_push
    (reservation template.name kind key)
    (before.context.intern (.nominal kind before.context.registry.nextId)).1
  have stored := (live before.context.registry.nextId).trans (if_pos rfl)
  refine ⟨rfl, stored, ?_⟩
  exact {
    chain := rfl
    config := rfl
    templates := rfl
    instances := rfl
    layouts := rfl
    names := rfl
    pool := TypePool.kept_intern _ _
    declared := rfl
    pending := rfl
    size := by simp [TypeRegistry.size_push]
    old := fun id below => by
      refine (live id).trans (if_neg ?_)
      rintro rfl
      exact Nat.lt_irrefl _ below
    fresh := fun id => by
      obtain ⟨index⟩ := id
      simp only [List.mem_singleton, TypeRegistry.pushed_id, TypeRegistry.nextId,
        TypeRegistry.size_push, DefId.mk.injEq]
      omega
    unseen := fun result member => by
      obtain rfl := List.mem_singleton.1 member
      exact ⟨absent, idle⟩
    once := by simp
    owned := fun id member => by
      obtain rfl := List.mem_singleton.1 member
      exact ⟨_, key, stored, rfl, List.mem_singleton.2 rfl⟩
    shaped := fun result member => by
      obtain rfl := List.mem_singleton.1 member
      exact ⟨template, registered, fun _ =>
        ⟨_, List.mem_singleton.2 rfl, _, stored, rfl, ⟨rfl, rfl, nominal, rfl⟩⟩⟩ }

/-- Giving an added definition its body adds nothing else. -/
theorem growth_completed {id : DefId} {body : DefBody} {registry : TypeRegistry}
    (growth : Growth before added made after) (mine : id ∈ added)
    (defined : after.context.registry.define id body = .ok registry) :
    Growth before added made { after with context := { after.context with registry } } := by
  obtain ⟨entry, live, -, names, size, found⟩ := TypeRegistry.define_ok defined
  have inside := (growth.fresh id).1 mine
  exact { growth with
    names := names.trans growth.names
    size := by simpa only [size] using growth.size
    old := fun other below => by
      rw [found, if_neg (by rintro rfl; omega)]
      exact growth.old other below
    fresh := fun other => by rw [growth.fresh]; simp only [size]
    owned := fun other member => by
      obtain ⟨stored, key, lookup, kept, present⟩ := growth.owned other member
      by_cases same : other = id
      · subst same
        rw [live] at lookup
        cases lookup
        exact ⟨{ entry with body := some body }, key, by rw [found, if_pos rfl], kept, present⟩
      · exact ⟨stored, key, by rw [found, if_neg same]; exact lookup, kept, present⟩
    shaped := fun result member => by
      obtain ⟨template, registered, shape⟩ := growth.shaped result member
      refine ⟨template, registered, fun nominal => ?_⟩
      obtain ⟨other, present, stored, lookup, type, same⟩ := shape nominal
      by_cases equal : other = id
      · subst equal
        rw [live] at lookup
        cases lookup
        exact ⟨_, present, { entry with body := some body }, by rw [found, if_pos rfl], type,
          ⟨same.specialization, same.name, same.kind, same.locator⟩⟩
      · exact ⟨other, present, stored, by rw [found, if_neg equal]; exact lookup, type, same⟩ }

/-! ### Whole requests -/

/-- Every definition of a list is live and has a body. -/
def Complete (state : Specializer) (ids : List DefId) : Prop :=
  ∀ id ∈ ids, ∃ entry, state.context.registry.get? id = some entry ∧ entry.body.isSome

/-- The outcome of steps from a state on: what was added, and that all of it is complete if the
steps succeeded. -/
def Grew (before : Specializer) (result : Except TypeError α × Specializer) : Prop :=
  result.2.context.Indexed ∧ ∃ added made, Growth before added made result.2 ∧
    (result.1.isOk → Complete result.2 added)

theorem grew_unchanged {result : Except TypeError α} (indexed : before.context.Indexed) :
    Grew before (result, before) :=
  ⟨indexed, [], [], .refl before, fun _ _ member => by simp at member⟩

theorem Complete.kept (growth : Growth before added made after) {ids : List DefId}
    (complete : Complete before ids) : Complete after ids := by
  intro id member
  obtain ⟨entry, live, whole⟩ := complete id member
  exact ⟨entry, by rw [growth.old id (TypeRegistry.lt_size_of_get? live)]; exact live, whole⟩

theorem Complete.append {first second : List DefId} (left : Complete after first)
    (right : Complete after second) : Complete after (first ++ second) :=
  fun id member => (List.mem_append.1 member).elim (left id) (right id)

theorem grew_bind {steps : SpecializeM α} {rest : α → SpecializeM β}
    (first : Grew before (outcome steps before))
    (second : ∀ value middle, middle.context.Indexed → Grew middle (outcome (rest value) middle)) :
    Grew before (outcome (steps >>= rest) before) := by
  rw [outcome_bind]
  rcases ran : outcome steps before with ⟨err | value, middle⟩ <;> rw [ran] at first
  · obtain ⟨indexed, added, made, growth, -⟩ := first
    exact ⟨indexed, added, made, growth, fun ok => by simp [Except.isOk, Except.toBool] at ok⟩
  · obtain ⟨indexed, added, made, growth, whole⟩ := first
    obtain ⟨indexed', more, further, growth', whole'⟩ := second value middle indexed
    exact ⟨indexed', _, _, growth.trans growth', fun ok =>
      ((whole rfl).kept growth').append (whole' ok)⟩

/-- Whatever is put together from failing, adding types and applying templates only adds. -/
theorem grew_of_built {apply : TemplateId → List TemplateArgument → SpecializeM TypeId}
    (applied : ∀ id arguments state, state.context.Indexed →
      Grew state (outcome (apply id arguments) state))
    {steps : SpecializeM α} (built : Built apply steps) (state : Specializer)
    (indexed : state.context.Indexed) : Grew state (outcome steps state) := by
  induction built generalizing state with
  | pure value => exact grew_unchanged indexed
  | lift result => rw [outcome_lift]; exact grew_unchanged indexed
  | intern form =>
    exact ⟨TypeContext.indexed_intern indexed form, [], [],
      growth_pool state (TypePool.kept_intern _ form), fun _ _ member => by simp at member⟩
  | qualified ty quals =>
    exact ⟨TypeContext.indexed_qualified indexed ty quals, [], [],
      growth_pool state (TypePool.kept_qualified _ ty quals), fun _ _ member => by simp at member⟩
  | apply id arguments => exact applied id arguments state indexed
  | bind first second firstGrew secondGrew =>
    exact grew_bind (firstGrew state indexed) fun value middle => secondGrew value middle

/-- Steps inside of a key only add, and nothing under the key itself. -/
theorem grew_nested (before : Specializer) {steps : SpecializeM α}
    (inside : Grew { before with chain := before.chain ++ [key] }
      (outcome steps { before with chain := before.chain ++ [key] })) :
    (outcome (nested key steps) before).2.context.Indexed ∧ ∃ added made,
      Growth before added made (outcome (nested key steps) before).2 ∧
      key ∉ made.map Prod.fst ∧
      ((outcome (nested key steps) before).1.isOk →
        Complete (outcome (nested key steps) before).2 added) := by
  obtain ⟨indexed, added, made, growth, whole⟩ := inside
  obtain ⟨outside, new⟩ := growth_nested growth
  exact ⟨indexed, added, made, outside, new, whole⟩

/-- A template that makes no definition: its result is remembered once its parts are known. -/
private theorem grew_plain {steps : SpecializeM α} (wrap : α → Instance)
    (inside : Grew { before with chain := before.chain ++ [key] }
      (outcome steps { before with chain := before.chain ++ [key] }))
    (absent : before.find? key = none) (idle : key ∉ before.chain)
    (registered : before.context.templates.get? key.template = some template)
    (plain : template.body.defKind? = none) :
    Grew before (outcome (do
        let value ← nested key steps
        remember key (wrap value)
        return wrap value) before) ∧
      ∀ found after, outcome (do
        let value ← nested key steps
        remember key (wrap value)
        return wrap value) before = (.ok found, after) → after.find? key = some found := by
  obtain ⟨indexed, added, made, growth, new, whole⟩ := grew_nested before inside
  rw [outcome_bind]
  rcases ran : outcome (nested key steps) before with ⟨err | value, middle⟩ <;>
    rw [ran] at indexed growth whole
  · exact ⟨⟨indexed, added, made, growth, fun ok => by simp [Except.isOk, Except.toBool] at ok⟩,
      fun found after wrong => by simp at wrong⟩
  · have grown := growth_remembered (wrap value) growth absent idle new
      (by rw [growth.templates]; exact registered) plain
    refine ⟨⟨indexed, _, _, grown, fun _ => whole rfl⟩, fun found after same => ?_⟩
    cases same
    exact grown.find?_made (by simp)

/-- A template that makes a definition: its type is remembered before its parts are known, and the
definition gets its body last. -/
private theorem grew_nominal {kind : DefKind} {steps : SpecializeM DefBody}
    (inside : ∀ state : Specializer, state.context.Indexed → Grew state (outcome steps state))
    (indexed : before.context.Indexed) (absent : before.find? key = none)
    (idle : key ∉ before.chain)
    (registered : before.context.templates.get? key.template = some template)
    (nominal : template.body.defKind? = some kind) :
    Grew before (outcome (do
        let entry ← reserve template.name kind key
        remember key (.type entry.type)
        let body ← nested key steps
        complete entry.id body
        return Instance.type entry.type) before) ∧
      ∀ found after, outcome (do
        let entry ← reserve template.name kind key
        remember key (.type entry.type)
        let body ← nested key steps
        complete entry.id body
        return Instance.type entry.type) before = (.ok found, after) →
          after.find? key = some found := by
  obtain ⟨entry, context, reserved, ran⟩ := outcome_reserve template.name kind key before
  obtain ⟨bare, live, start⟩ := growth_reserved absent idle registered nominal reserved
  have indexed₁ : context.Indexed := TypeContext.indexed_declare indexed reserved
  rw [outcome_bind_ok ran, outcome_bind_ok (outcome_remember _ _ _)]
  obtain ⟨indexed₂, added, made, growth, -, whole⟩ := grew_nested
    { before with
      context
      declared := before.declared ++ [entry.id]
      pending := before.pending ++ [(key, .type entry.type)] }
    (inside _ indexed₁)
  have grown := start.trans growth
  have kept : _ = some entry := (growth.old _ (TypeRegistry.lt_size_of_get? live)).trans live
  rw [outcome_bind]
  rcases ended : outcome (nested key steps) _ with ⟨err | body, middle⟩ <;>
    rw [ended] at indexed₂ grown kept whole growth
  · exact ⟨⟨indexed₂, _, _, grown, fun ok => by simp [Except.isOk, Except.toBool] at ok⟩,
      fun found after wrong => by simp at wrong⟩
  · obtain ⟨registry, defined⟩ := TypeRegistry.define_bare kept bare
    have done := growth_completed grown (by simp) defined
    have last := outcome_complete entry.id body middle
    rw [defined] at last
    simp only [outcome_bind_ok last]
    refine ⟨⟨TypeContext.indexed_registry indexed₂ defined, _, _, done, fun _ id member => ?_⟩,
      fun found after same => ?_⟩
    · obtain ⟨_, -, -, -, -, found⟩ := TypeRegistry.define_ok defined
      by_cases same : id = entry.id
      · exact ⟨_, (found id).trans (if_pos same), rfl⟩
      · obtain ⟨stored, lookup, full⟩ := whole rfl id (by simpa [same] using member)
        exact ⟨stored, ((found id).trans (if_neg same)).trans lookup, full⟩
    · cases same
      exact done.find?_made (by simp)

/-- Making the instance of a key that is neither known nor in progress only adds, and on success
the instance is found under the key. -/
theorem make_grew {apply : TemplateId → List TemplateArgument → SpecializeM TypeId}
    (applied : ∀ id arguments state, state.context.Indexed →
      Grew state (outcome (apply id arguments) state))
    (indexed : before.context.Indexed) (absent : before.find? key = none)
    (idle : key ∉ before.chain)
    (registered : before.context.templates.get? key.template = some template) :
    Grew before (outcome (make key template apply) before) ∧
      ∀ found after, outcome (make key template apply) before = (.ok found, after) →
        after.find? key = some found := by
  unfold make
  split
  case h_1 target shape =>
    exact grew_plain .type (grew_of_built applied (eval_built key apply target) _ indexed) absent
      idle registered (by rw [shape]; rfl)
  case h_2 parameters result variadic shape =>
    have built := evalFunction_built key apply parameters result variadic
    exact grew_plain (fun signature => .function ⟨key, signature⟩)
      (grew_of_built applied built _ indexed) absent idle registered (by rw [shape]; rfl)
  all_goals
    rename_i shape
    refine grew_nominal (fun state => grew_of_built applied (evalBody_built key apply _) state)
      indexed absent idle registered ?_
    rw [shape]
    rfl

/-- Taking the type out of what a request gives adds nothing. -/
theorem grew_applied {budget : Nat} {id : TemplateId} {arguments : List TemplateArgument}
    (grown : Grew before (outcome (specializeWithin budget id arguments) before)) :
    Grew before (outcome (applyWithin budget id arguments) before) := by
  rw [outcome_applyWithin]
  rcases ran : outcome (specializeWithin budget id arguments) before with ⟨err | made, after⟩ <;>
    rw [ran] at grown
  · exact grown
  · obtain ⟨indexed, added, new, growth, whole⟩ := grown
    exact ⟨indexed, added, new, growth, fun _ => whole rfl⟩

/-- A request only adds, whatever its outcome, and everything that it declared is complete if it
succeeds. -/
theorem specializeWithin_grew (budget : Nat) (id : TemplateId) (arguments : List TemplateArgument)
    (state : Specializer) (indexed : state.context.Indexed) :
    Grew state (outcome (specializeWithin budget id arguments) state) ∧
      ∀ found after, outcome (specializeWithin budget id arguments) state = (.ok found, after) →
        ∃ template full, state.context.templates.get? id = some template ∧
          state.context.bind id template arguments = .ok full ∧
          after.find? ⟨id, full⟩ = some found := by
  induction budget using Nat.strongRecOn generalizing id arguments state with
  | ind budget ih =>
    rcases course budget id arguments state with ⟨err, ran⟩ |
      ⟨template, full, made, registered, bound, known, ran⟩ |
      ⟨template, full, fewer, enough, registered, bound, absent, idle, ran⟩
    · rw [ran]
      exact ⟨grew_unchanged indexed, fun found after wrong => by simp at wrong⟩
    · rw [ran]
      refine ⟨grew_unchanged indexed, fun found after same => ?_⟩
      cases same
      exact ⟨template, full, registered, bound, known⟩
    · have applied : ∀ id arguments state, state.context.Indexed →
          Grew state (outcome (applyWithin fewer id arguments) state) := by
        intro id arguments state indexed
        exact grew_applied (ih fewer (by omega) id arguments state indexed).1
      obtain ⟨grown, under⟩ := make_grew applied indexed absent idle registered
      rw [ran]
      exact ⟨grown, fun found after same =>
        ⟨template, full, registered, bound, under found after same⟩⟩

theorem applyWithin_grew (budget : Nat) (id : TemplateId) (arguments : List TemplateArgument)
    (state : Specializer) (indexed : state.context.Indexed) :
    Grew state (outcome (applyWithin budget id arguments) state) :=
  grew_applied (specializeWithin_grew budget id arguments state indexed).1

end Specializer

end FrontEnd
