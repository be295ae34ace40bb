import FrontEnd.Proofs.Renaming.History
import FrontEnd.Proofs.Specialization.Making

/-!
Tables that requests lead to. In all of them, ids lead where they should, instances are kept under
their keys, and each nominal instance has the body that its template denotes under its key.
-/

namespace FrontEnd

namespace TypeContext

variable {ctx before middle after : TypeContext} {id : TemplateId} {template : TemplateDef}

/-- What holds of the tables between requests that mention only what was given out before. -/
structure Orderly (ctx : TypeContext) : Prop where
  sound : CacheSound ctx
  twin : Twin .id ctx ctx
  meant : ∀ id entry, ctx.registry.get? id = some entry → entry.specialization.isSome →
    Specializer.Meant { context := ctx } entry

theorem orderly_initial (config : TypeConfig) : Orderly { config } where
  sound := cacheSound_initial config
  twin := twin_initial config
  meant id entry live := by simp [TypeRegistry.get?] at live

theorem Orderly.state (orderly : ctx.Orderly) : Specializer.Orderly { context := ctx } where
  mirror := ⟨orderly.twin, rfl, rfl, rfl, known_nil, known_nil, known_nil⟩
  indexed := orderly.sound.indexed

/-- Tables that extend others know everything that those knew. -/
theorem Orderly.onward (orderly : before.Orderly) (sound : after.pool.Sound)
    (extends_ : Extends before after) :
    Specializer.Onward { context := before } { context := after } where
  exact := orderly.sound.indexed.pool.exact
  exact' := sound.exact
  pool := extends_.pool
  known := orderly.twin.templates.known
  templates := extends_.templates
  found key made known := extends_.instances key made known

/-! ### Requests -/

private theorem meant_quiet (orderly : before.Orderly) (quiet : Quiet before after) (id : DefId)
    (entry : TypeDef) (live : after.registry.get? id = some entry)
    (carries : entry.specialization.isSome) : Specializer.Meant { context := after } entry := by
  obtain ⟨key, own⟩ := Option.isSome_iff_exists.1 carries
  obtain ⟨stored, live', carries', -⟩ := quiet.owners id entry key live own
  have meant := orderly.meant id stored live' (by rw [carries']; rfl)
  have whole : stored.body.isSome := by
    obtain ⟨-, -, body, -, -, same, -⟩ := meant
    rw [same]
    rfl
  cases (quiet.extends_.complete live' whole).symm.trans live
  exact meant.onward (orderly.onward quiet.indexed.pool quiet.extends_)

private theorem meant_succeeded {arguments : List TemplateArgument} {found : Instance}
    {state : Specializer} (orderly : before.Orderly) (known : Known before.extent arguments)
    (succeeded : Specializer.Succeeded before id arguments found state) (other : DefId)
    (entry : TypeDef) (live : state.publish.context.registry.get? other = some entry)
    (carries : entry.specialization.isSome) :
    Specializer.Meant { context := state.publish.context } entry := by
  obtain ⟨added, made, growth, -⟩ := succeeded.growth
  by_cases below : other.index < before.registry.defs.size
  · have kept := extends_succeeded succeeded
    have live' := (growth.old other below).symm.trans live
    have onward : Specializer.Onward { context := before } { context := state.publish.context } :=
      orderly.onward succeeded.indexed.pool kept
    exact (orderly.meant other entry live' carries).onward onward
  · obtain ⟨step, -, -⟩ := Specializer.specializeWithin_means _ id arguments _ found state
      orderly.state known succeeded.steps
    have meant := step.fresh other entry (Nat.le_of_not_lt below) live
    have onward : Specializer.Onward state { context := state.publish.context } :=
      Specializer.onward_of_same step.orderly rfl rfl fun key result found =>
        (Specializer.instances_publish growth rfl key).trans found
    exact meant.onward onward

/-- A request keeps the tables orderly, and its answer mentions only what was given out. -/
theorem Orderly.perform (orderly : ctx.Orderly) {request : TableRequest}
    (known : Known ctx.extent request) :
    (ctx.perform request).2.Orderly ∧ ctx.extent.Within (ctx.perform request).2.extent ∧
      Known (ctx.perform request).2.extent (ctx.perform request).1 := by
  have keeps := orderly.twin.perform known
  obtain ⟨next, -, within, twin, answer, -⟩ := keeps
  refine ⟨⟨(perform_sound orderly.sound request).1, twin.self, ?_⟩, within, answer⟩
  rcases perform_cases orderly.sound.indexed request with
    quiet | ⟨id, arguments, found, state, rfl, succeeded, same⟩
  · exact meant_quiet orderly quiet
  · rw [same]
    exact meant_succeeded orderly (known_specializeRequest.1 known) succeeded

/-! ### Histories -/

/-- A history of requests, each of which mentions only what was given out before it, leads from one
state of the tables to another. -/
def Leads (before after : TypeContext) : Prop :=
  ∃ history, before.Scoped history ∧ before.after history = after

theorem Leads.refl (ctx : TypeContext) : Leads ctx ctx := ⟨[], trivial, rfl⟩

theorem scoped_append {first second : List TableRequest} (inside : ctx.Scoped first)
    (inside' : (ctx.after first).Scoped second) : ctx.Scoped (first ++ second) := by
  induction first generalizing ctx with
  | nil => exact inside'
  | cons request rest ih => exact ⟨inside.1, ih inside.2 inside'⟩

theorem Leads.trans (first : Leads before middle) (second : Leads middle after) :
    Leads before after := by
  obtain ⟨history, inside, rfl⟩ := first
  obtain ⟨later, inside', rfl⟩ := second
  exact ⟨history ++ later, scoped_append inside inside', after_append before history later⟩

theorem leads_perform {request : TableRequest} (known : Known ctx.extent request) :
    Leads ctx (ctx.perform request).2 :=
  ⟨[request], ⟨known, trivial⟩, rfl⟩

/-- What holds after any history from orderly tables. -/
theorem Leads.orderly (leads : Leads before after) (orderly : before.Orderly) :
    after.Orderly ∧ before.extent.Within after.extent ∧ Extends before after := by
  obtain ⟨history, inside, rfl⟩ := leads
  induction history generalizing before with
  | nil => exact ⟨orderly, .refl _, .refl _⟩
  | cons request rest ih =>
    obtain ⟨next, within, -⟩ := orderly.perform inside.1
    obtain ⟨last, within', extends_⟩ := ih next inside.2
    exact ⟨last, within.trans within', (perform_sound orderly.sound request).2.trans extends_⟩

theorem Leads.onward (leads : Leads before after) (orderly : before.Orderly) :
    Specializer.Onward { context := before } { context := after } := by
  obtain ⟨orderly', -, extends_⟩ := leads.orderly orderly
  exact orderly.onward orderly'.sound.indexed.pool extends_

/-! ### Instances -/

/-- The body of a live definition is found through its type. -/
theorem bodyOf_live {id : DefId} {entry : TypeDef} (indexed : ctx.Indexed)
    (live : ctx.registry.get? id = some entry) : ctx.bodyOf entry.type = .ok entry.body := by
  simp only [bodyOf, defOf_live indexed live, Bind.bind, Except.bind, pure, Except.pure,
    Option.bind_some]

end TypeContext

end FrontEnd
