import FrontEnd.Proofs.Declaration.Pushes
import FrontEnd.Proofs.Specialization.Additions

/-!
Resolving once more. A spelling that was resolved has the same meaning in all tables that requests
lead to from there, and needs nothing new: the types that it is built from and the instances that it
applies are known by then. So steps that resolve and report nothing may be done again at any later
time, and come to the same without a change.
-/

namespace FrontEnd

open TypeContext (Leads)

variable {ctx : TypeContext} {reading : Reading}

/-- What the steps give they give again in all later tables, and leave those as they are. -/
def Repeats (ctx : TypeContext) (steps : ResolveM α) : Prop :=
  ∀ value after, outcome steps ctx = (.ok value, after) → ∀ later, Leads after later →
    outcome steps later = (.ok value, later)

/-! ### Single steps -/

section Steps

variable {steps : ResolveM α} {rest : α → ResolveM β} {means : TypeContext → α → Prop}

theorem repeats_pure (value : α) : Repeats ctx (pure value : ResolveM α) := by
  intro result after ran later _
  cases ran
  rfl

theorem repeats_throw (err : DeclareError) : Repeats ctx (throw err : ResolveM α) := by
  intro result after ran
  cases ran

theorem repeats_bind (orderly : ctx.Orderly) (keeps : givenOut.Keeps ctx steps means)
    (first : Repeats ctx steps)
    (second : ∀ value middle, middle.Orderly → Leads ctx middle → means middle value →
      Leads middle (outcome (rest value) middle).2 ∧ Repeats middle (rest value)) :
    Repeats ctx (steps >>= rest) := by
  intro result after ran later last
  obtain ⟨value, middle, ran₁, ran₂⟩ := outcome_bind_inv ran
  obtain ⟨leads, holds⟩ := keeps
  rw [ran₁] at leads holds
  obtain ⟨onward, again⟩ := second value middle (leads.orderly orderly).1 leads (holds value rfl)
  rw [ran₂] at onward
  rw [outcome_bind_ok (first value middle ran₁ later (onward.trans last))]
  exact again result after ran₂ later last

theorem repeats_intern (orderly : ctx.Orderly) {form : TypeForm} (known : Known ctx.extent form) :
    Repeats ctx (Scope.intern form) := by
  intro ty after ran later last
  have leads : Leads ctx (ctx.intern form).2 :=
    TypeContext.leads_perform (known_internRequest.2 known)
  have same : (.ok (ctx.intern form).1, (ctx.intern form).2) = (Except.ok ty, after) := ran
  obtain ⟨given, rfl⟩ := Prod.mk.inj same
  cases given
  obtain ⟨orderly', -, extends_⟩ := last.orderly (leads.orderly orderly).1
  exact outcome_intern_known orderly' (TypePool.form?_kept extends_.pool
    (TypePool.form?_intern orderly.sound.indexed.pool form))

theorem repeats_qualified (orderly : ctx.Orderly) {ty : TypeId} (known : Known ctx.extent ty)
    (quals : Qualifiers) : Repeats ctx (Scope.qualified ty quals) := by
  intro result after ran later last
  have leads : Leads ctx (ctx.qualified ty quals).2 :=
    TypeContext.leads_perform (known_qualifyRequest.2 known)
  have same : (.ok (ctx.qualified ty quals).1, (ctx.qualified ty quals).2) =
    (Except.ok result, after) := ran
  obtain ⟨given, rfl⟩ := Prod.mk.inj same
  cases given
  have orderly' := (leads.orderly orderly).1
  obtain ⟨last', -, extends_⟩ := last.orderly orderly'
  have qualifies := TypePool.qualifies_qualified orderly.sound.indexed.pool (known_type.1 known) quals
  exact outcome_qualified_known (qualifies.kept orderly'.sound.indexed.pool.exact
    last'.sound.indexed.pool.exact extends_.pool)

theorem repeats_specialize (orderly : ctx.Orderly) (id : TemplateId)
    {arguments : List TemplateArgument} (known : Known ctx.extent arguments) :
    Repeats ctx (Scope.specialize id arguments) := by
  intro ty after ran later last
  have leads : Leads ctx (ctx.specializeType id arguments).2 :=
    TypeContext.leads_perform (known_specializeRequest.2 known)
  have made := specialize_ok_iff.1 ran
  have gives := TypeContext.specializeType_gives orderly (congrArg Prod.fst made)
  rw [made] at gives leads
  exact outcome_specialize_known (gives.onward (last.onward (leads.orderly orderly).1))

end Steps

/-! ### Spellings -/

/-- Every name stands for what was given out. -/
private theorem Reading.Inside.covers (inside : reading.Inside ctx.extent) :
    givenOut.Covers reading ctx :=
  ⟨fun name argument found => known_stated.1 (inside.argument name argument found), inside.lookup⟩

/-- Steps that give a type, of which a form is made. -/
private theorem repeats_form {steps : ResolveM TypeId} {form : TypeId → TypeForm}
    (orderly : ctx.Orderly) (keeps : givenOut.Keeps ctx steps givenOut.holds)
    (first : Repeats ctx steps)
    (known : ∀ ty extent, Known extent ty → Known extent (form ty)) :
    Repeats ctx (do Scope.intern (form (← steps))) := by
  refine repeats_bind orderly keeps first fun ty middle orderly' _ holds => ?_
  have inner := known ty middle.extent holds
  exact ⟨TypeContext.leads_perform (known_internRequest.2 inner), repeats_intern orderly' inner⟩

private theorem repeats_applied {arguments : ResolveM (List TemplateArgument)}
    (orderly : ctx.Orderly) (keeps : givenOut.Keeps ctx arguments givenOut.HoldsAll)
    (first : Repeats ctx arguments) (id : TemplateId) :
    Repeats ctx (do Scope.specialize id (← arguments)) := by
  refine repeats_bind orderly keeps first fun given middle orderly' _ all => ?_
  have known := known_allStated.2 all
  refine ⟨?_, repeats_specialize orderly' id known⟩
  rw [outcome_specialize]
  exact TypeContext.leads_perform (known_specializeRequest.2 known)

private theorem repeats_name {name : String} {isBare : Bool}
    {arguments : ResolveM (List TemplateArgument)} (orderly : ctx.Orderly)
    (keeps : givenOut.Keeps ctx arguments givenOut.HoldsAll) (first : Repeats ctx arguments) :
    Repeats ctx (reading.resolveName name isBare arguments) := by
  unfold Reading.resolveName
  split
  · split
    · exact repeats_pure _
    · exact repeats_throw _
  · exact repeats_applied orderly keeps first _
  · exact repeats_throw _

mutual

theorem repeats_resolve : (spelling : Spelling) → ∀ {ctx : TypeContext}, ctx.Orderly →
    reading.Inside ctx.extent → Repeats ctx (reading.resolve spelling)
  | .pointer target, ctx, orderly, inside => by
    rw [Reading.resolve]
    exact repeats_form orderly (Custody.keeps_resolve target orderly inside.covers)
      (repeats_resolve target orderly inside) fun _ _ => known_pointer.2
  | .slice element, ctx, orderly, inside => by
    rw [Reading.resolve]
    exact repeats_form orderly (Custody.keeps_resolve element orderly inside.covers)
      (repeats_resolve element orderly inside) fun _ _ => known_slice.2
  | .array element (.literal length), ctx, orderly, inside => by
    rw [Reading.resolve]
    exact repeats_form orderly (Custody.keeps_resolve element orderly inside.covers)
      (repeats_resolve element orderly inside) fun _ _ => known_array.2
  | .array element (.parameter name), ctx, orderly, inside => by
    rw [Reading.resolve]
    split
    · exact repeats_form orderly (Custody.keeps_resolve element orderly inside.covers)
        (repeats_resolve element orderly inside) fun _ _ => known_array.2
    · exact repeats_throw _
  | .qualified base quals, ctx, orderly, inside => by
    rw [Reading.resolve]
    refine repeats_bind orderly (Custody.keeps_resolve base orderly inside.covers)
      (repeats_resolve base orderly inside) fun ty middle orderly' _ holds => ?_
    exact ⟨TypeContext.leads_perform (known_qualifyRequest.2 holds),
      repeats_qualified orderly' holds quals⟩
  | .named name, ctx, orderly, inside => by
    rw [Reading.resolve]
    split
    · exact repeats_pure _
    · exact repeats_throw _
    · split
      · exact repeats_pure _
      · exact repeats_name orderly (Custody.keeps_pure orderly nofun) (repeats_pure _)
  | .applied name arguments, ctx, orderly, inside => by
    have keeps := Custody.keeps_arguments arguments orderly inside.covers
    rw [Reading.resolve]
    split
    · exact repeats_applied orderly keeps (repeats_arguments arguments orderly inside) _
    · exact repeats_throw _
    · exact repeats_name orderly keeps (repeats_arguments arguments orderly inside)

theorem repeats_argument : (argument : SpelledArgument) → ∀ {ctx : TypeContext}, ctx.Orderly →
    reading.Inside ctx.extent → Repeats ctx (reading.resolveArgument argument)
  | .int value, ctx, _, _ => by
    rw [Reading.resolveArgument]
    exact repeats_pure _
  | .bool value, ctx, _, _ => by
    rw [Reading.resolveArgument]
    exact repeats_pure _
  | .type spelling, ctx, orderly, inside => by
    rw [Reading.resolveArgument]
    split
    · exact repeats_pure _
    · exact repeats_bind orderly (Custody.keeps_resolve spelling orderly inside.covers)
        (repeats_resolve spelling orderly inside) fun ty middle _ _ _ => ⟨.refl _, repeats_pure _⟩

theorem repeats_arguments : (arguments : List SpelledArgument) → ∀ {ctx : TypeContext},
    ctx.Orderly → reading.Inside ctx.extent →
    Repeats ctx (reading.resolveArguments arguments)
  | [], ctx, _, _ => by
    rw [Reading.resolveArguments]
    exact repeats_pure _
  | argument :: rest, ctx, orderly, inside => by
    rw [Reading.resolveArguments]
    refine repeats_bind orderly (Custody.keeps_argument argument orderly inside.covers)
      (repeats_argument argument orderly inside) fun given middle orderly' leads _ => ?_
    have inside' := inside.within (leads.orderly orderly).2.1
    have keeps := Custody.keeps_arguments rest orderly' inside'.covers
    refine ⟨?_, repeats_bind orderly' keeps (repeats_arguments rest orderly' inside')
      fun others last _ _ _ => ⟨.refl _, repeats_pure _⟩⟩
    rw [outcome_bind_pure]
    exact keeps.1

end

theorem repeats_text (orderly : ctx.Orderly) (inside : reading.Inside ctx.extent) (text : String) :
    Repeats ctx (reading.resolveText text) := by
  unfold Reading.resolveText
  split
  · exact repeats_resolve _ orderly inside
  · exact repeats_throw _

namespace ModuleSource

variable {source : ModuleSource} {state : Declaring}

/-! ### Steps of the pass -/

theorem typeOfText_run (source : ModuleSource) (text : String) (span : TokenSpan)
    (state : Declaring) : (source.typeOfText text span).run state =
      match outcome (Scope.resolveText ⟨source.names, state.exports, source.imports⟩ text)
        state.types with
      | (.ok ty, types) => (ty, { state with types })
      | (.error err, types) =>
        (.error, ((source.report err span).run { state with types }).2) := by
  unfold typeOfText
  rw [run_bind_of (inScope_run _)]
  rcases outcome (Scope.resolveText ⟨source.names, state.exports, source.imports⟩ text)
    state.types with ⟨_ | _, types⟩ <;> rfl

theorem Resolving.exports_run {steps : DeclareM α} (resolving : source.Resolving steps) :
    (steps.run state).2.exports = state.exports := by
  obtain ⟨value, types, diags, -, ran⟩ := resolving.tablesOnly state
  exact congrArg (·.2.exports) (ran state.queue)

/-- Every name means the same in both exports. -/
def SameNames (own other : Exports) : Prop := ∀ name, other.lookup? name = own.lookup? name

theorem SameNames.scope {own other : Exports} (same : SameNames own other) :
    (Scope.mk source.names other source.imports).lookup? =
      (Scope.mk source.names own source.imports).lookup? := by
  funext text
  unfold Scope.lookup?
  cases source.names.get? text with
  | none => rfl
  | some name => simp only [Option.bind_some, List.findSome?_cons, same name]

theorem SameNames.resolveText {own other : Exports} (same : SameNames own other) (text : String) :
    Scope.resolveText ⟨source.names, other, source.imports⟩ text =
      Scope.resolveText ⟨source.names, own, source.imports⟩ text := by
  have readings : Reading.ofScope ⟨source.names, other, source.imports⟩ =
      Reading.ofScope ⟨source.names, own, source.imports⟩ := by
    have lookups : (Scope.mk source.names other source.imports).lookup? = _ := same.scope
    unfold Reading.ofScope Scope.template?
    rw [lookups]
  rw [← Reading.resolveText_ofScope, readings, Reading.resolveText_ofScope]

private theorem again_parallel [Renames α] {extent : Extent} {shift : Renaming}
    {steps steps' : DeclareM α} (parallel : source.Parallel extent shift steps steps')
    (fit : source.Fit state) (same : state.types.extent = extent)
    (silent : (steps.run state).2.queue.kept = []) {last : Declaring}
    (leads : Leads (steps.run state).2.types last.types)
    (names : SameNames state.exports last.exports) :
    steps.run last = ((steps.run state).1, last) := by
  induction parallel generalizing state last with
  | pure value known => rfl
  | primitive small => rfl
  | report err span =>
    exact absurd silent (DiagnosticQueue.kept_push_ne_nil _ _)
  | text text span =>
    have repeats := repeats_text fit.types fit.reading text
    rw [Reading.resolveText_ofScope] at repeats
    rw [typeOfText_run] at silent leads ⊢
    rw [typeOfText_run, names.resolveText]
    rcases ran : outcome (Scope.resolveText ⟨source.names, state.exports, source.imports⟩ text)
      state.types with ⟨err | ty, types⟩
    · rw [ran] at silent
      exact absurd silent (DiagnosticQueue.kept_push_ne_nil _ _)
    · rw [ran] at leads
      rw [repeats ty types ran last.types leads]
  | intern plain known =>
    rename_i form
    subst same
    have found := TypePool.form?_intern fit.types.sound.indexed.pool form
    have leads' : Leads state.types (state.types.intern form).2 :=
      TypeContext.leads_perform (known_internRequest.2 known)
    obtain ⟨orderly, -, extends_⟩ := leads.orderly (leads'.orderly fit.types).1
    have known := TypePool.intern_of_form? orderly.sound.indexed.pool.exact
      (TypePool.form?_kept extends_.pool found)
    have ran : (intern form).run last = ((last.types.intern form).1,
      { last with types := (last.types.intern form).2 }) := rfl
    have answer : last.types.intern form = ((state.types.intern form).1, last.types) := by
      unfold TypeContext.intern
      rw [known]
    rw [ran, answer]
    rfl
  | lookup text only each ih =>
    have meant : source.lookup? last.exports text = source.lookup? state.exports text :=
      congrFun names.scope text
    rename_i rest
    have start : (do rest (source.lookup? (← get).exports text)).run last =
        (rest (source.lookup? last.exports text)).run last := rfl
    rw [start, meant]
    exact ih _ (same ▸ fit.known text) fit same silent leads names
  | bind first only _ second ih ih' =>
    rename_i steps _ rest _ _
    subst same
    have makes := makes_parallel first fit rfl
    obtain ⟨leads₁, -, fit₁, known⟩ := makes
    have inner := second _ _ _ (.refl _ _) (fit.within leads₁) known
    obtain ⟨leads₂, -⟩ := makes_parallel inner fit₁ rfl
    have before := ((only (steps.run state).1).tablesOnly.pushes _).silent silent
    have ran := ih fit rfl before (leads₂.trans leads) names
    rw [run_bind_of ran]
    refine ih' _ _ _ (.refl _ _) (fit.within leads₁) known fit₁ rfl silent leads ?_
    rw [first.resolving.1.exports_run]
    exact names

/-- Steps that have nothing to report may be done again later, where names mean the same, and change
nothing then. -/
theorem Parallel.again [Renames α] {steps steps' : DeclareM α}
    (parallel : source.Parallel state.types.extent .id steps steps') (fit : source.Fit state)
    (silent : (steps.run state).2.queue.kept = []) {last : Declaring}
    (leads : Leads (steps.run state).2.types last.types)
    (names : SameNames state.exports last.exports) :
    steps.run last = ((steps.run state).1, last) :=
  again_parallel parallel fit rfl silent leads names

end ModuleSource

end FrontEnd
