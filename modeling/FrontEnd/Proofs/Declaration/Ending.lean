import FrontEnd.Proofs.Declaration.Again
import FrontEnd.Proofs.Declaration.Nominal
import FrontEnd.Proofs.Specialization.Behind

/-!
What a run of the declaration pass that reports nothing ends with. The bodies and signatures that it
resolved on its way would be resolved to the same in the end, without a change to the tables, and the
nominal definitions have those bodies.
-/

namespace FrontEnd

open TypeContext (Adds Leads)

/-! ### Definitions stay -/

theorem TypeRegistry.Continues.trans {before middle after : TypeRegistry}
    (first : before.Continues middle) (second : middle.Continues after) :
    before.Continues after where
  size := Nat.le_trans first.size second.size
  get? id below := rel_trans (first.get? id below)
    (second.get? id (Nat.lt_of_lt_of_le below first.size))

namespace TypeContext

variable {ctx after : TypeContext} {entry : TypeDef} {id : DefId}

theorem Leads.continues (leads : Leads ctx after) (sound : CacheSound ctx) :
    ctx.registry.Continues after.registry := by
  obtain ⟨history, -, rfl⟩ := leads
  induction history generalizing ctx with
  | nil => exact .refl _
  | cons request rest ih =>
    exact (continues_perform sound.indexed request).trans (ih (perform_sound sound request).1)

/-- A definition stays, and may get a body. -/
theorem Leads.becomes (leads : Leads ctx after) (sound : CacheSound ctx)
    (live : ctx.registry.get? id = some entry) :
    ∃ later, after.registry.get? id = some later ∧ entry.Becomes later := by
  have related := (leads.continues sound).get? id (TypeRegistry.lt_size_of_get? live)
  rw [live] at related
  cases found : after.registry.get? id with
  | none =>
    rw [found] at related
    cases related
  | some later =>
    rw [found] at related
    cases related with
    | some becomes => exact ⟨later, rfl, becomes⟩

theorem leads_define {ty : TypeId} {body : DefBody} (known : Known ctx.extent ty)
    (known' : Known ctx.extent body) (defined : ctx.define ty body = .ok after) :
    Leads ctx after := by
  have leads := leads_perform (known_defineRequest.2 ⟨known, known'⟩)
  simp only [perform, defined] at leads
  exact leads

/-- A definition that gets a body has it from then on. -/
theorem bodyOf_define {last : TypeContext} {body : DefBody} (indexed : ctx.Indexed)
    (live : ctx.registry.get? entry.id = some entry)
    (defined : ctx.define entry.type body = .ok after) (sound : CacheSound after)
    (leads : Leads after last) (indexed' : last.Indexed) :
    last.bodyOf entry.type = .ok (some body) := by
  obtain ⟨own, registry, found, given, rfl⟩ := define_ok defined
  rw [defOf_live indexed live] at found
  cases found
  obtain ⟨own, live', -, -, -, stored⟩ := TypeRegistry.define_ok given
  cases live'.symm.trans live
  have whole := stored entry.id
  rw [if_pos rfl] at whole
  obtain ⟨later, found, becomes⟩ := leads.becomes sound whole
  cases becomes.eq_of_whole rfl
  exact bodyOf_live indexed' found

end TypeContext

/-- The account of what is added to the tables. -/
def additions : Custody where
  fine := TypeContext.Indexed
  onward := Adds
  holds _ _ := True
  refl := .refl
  trans := .trans
  fine_onward _ adds := adds.indexed
  holds_onward _ _ _ := trivial
  primitive _ _ := trivial
  intern indexed _ _ := ⟨TypeContext.adds_intern indexed _, trivial⟩
  qualified quals indexed _ := ⟨TypeContext.adds_qualified indexed _ quals, trivial⟩
  specialize id indexed _ := ⟨TypeContext.adds_specialize indexed id _, fun _ _ => trivial⟩

namespace ModuleSource

variable {source : ModuleSource} {state middle after last : Declaring} {definition : Definition}
  {ty : TypeId}

/-- Resolving leaves the definitions as they are. -/
theorem Resolving.adds {steps : DeclareM α} (resolving : source.Resolving steps)
    (indexed : state.types.Indexed) : Adds state.types (steps.run state).2.types := by
  induction resolving generalizing state with
  | pure value => exact .refl indexed
  | report err span => exact .refl indexed
  | text text span =>
    have covers : additions.Covers (Reading.ofScope ⟨source.names, state.exports, source.imports⟩)
        state.types := ⟨fun _ _ _ _ _ => trivial, fun _ _ _ => trivial⟩
    obtain ⟨adds, -⟩ := Custody.keeps_text text (show additions.fine state.types from indexed) covers
    rw [Reading.resolveText_ofScope] at adds
    rw [typeOfText_run]
    rcases ran : outcome (Scope.resolveText ⟨source.names, state.exports, source.imports⟩ text)
      state.types with ⟨err | ty, types⟩ <;> rw [ran] at adds <;> exact adds
  | intern form plain => exact TypeContext.adds_intern indexed form
  | exports each ih => exact ih _ indexed
  | bind first second ih ih' => exact (ih indexed).trans (ih' _ (ih indexed).indexed)

/-! ### Bodies and signatures -/

theorem defineNominal_run {body : DefBody}
    (ran : (source.bodyOf definition).run state = (body, middle)) :
    (source.defineNominal definition ty).run state = match middle.types.define ty body with
      | .ok types => ((), { middle with types })
      | .error err => (source.report (.type err) definition.span).run middle := by
  have start : (get : DeclareM Declaring).run middle = (middle, middle) := rfl
  refine (run_bind_of ran).trans ((run_bind_of start).trans ?_)
  cases middle.types.define ty body <;> rfl

/-- The type has the body that the definition states, and to resolve it once more changes nothing. -/
def Defined (source : ModuleSource) (last : Declaring) (definition : Definition) (ty : TypeId) :
    Prop :=
  ∃ body, (source.bodyOf definition).run last = (body, last) ∧
    last.types.bodyOf ty = .ok (some body)

/-- To resolve the signature once more changes nothing. -/
def Signed (source : ModuleSource) (last : Declaring) (definition : Definition) : Prop :=
  ∃ signature, (source.signature definition).run last = (signature, last)

/-- The types are those of live definitions. -/
def AllLive (ctx : TypeContext) (pending : List (Definition × TypeId)) : Prop :=
  ∀ declared ∈ pending, ∃ entry : TypeDef,
    ctx.registry.get? entry.id = some entry ∧ entry.type = declared.2

theorem AllLive.leads {ctx ctx' : TypeContext} {pending : List (Definition × TypeId)}
    (live : AllLive ctx pending) (leads : Leads ctx ctx') (sound : TypeContext.CacheSound ctx) :
    AllLive ctx' pending := by
  intro declared member
  obtain ⟨entry, found, type⟩ := live declared member
  obtain ⟨later, found', becomes⟩ := leads.becomes sound found
  obtain ⟨body, rfl, -⟩ := becomes
  exact ⟨{ entry with body }, found', type⟩

/-- One definition gets its body. -/
theorem defined_of_defineNominal (fit : source.Fit state) (known : Known state.types.extent ty)
    {entry : TypeDef} (live : state.types.registry.get? entry.id = some entry)
    (type : entry.type = ty)
    (silent : ((source.defineNominal definition ty).run state).2.queue.kept = [])
    (leads : Leads ((source.defineNominal definition ty).run state).2.types last.types)
    (names : SameNames state.exports last.exports) : source.Defined last definition ty := by
  have parallel : source.Parallel state.types.extent .id (source.bodyOf definition)
      (source.bodyOf definition) := source.parallel_bodyOf definition
  obtain ⟨leads₁, -, fit₁, known₁⟩ := parallel.makes fit
  have again := parallel.again fit
  rcases ran : (source.bodyOf definition).run state with ⟨body, middle⟩
  rw [ran] at leads₁ fit₁ known₁ again
  rw [defineNominal_run ran] at silent leads
  cases defined : middle.types.define ty body with
  | error err =>
    rw [defined] at silent
    exact absurd silent (DiagnosticQueue.kept_push_ne_nil _ _)
  | ok types =>
    rw [defined] at silent leads
    have leads₂ := TypeContext.leads_define (known.within (fit.within leads₁)) known₁ defined
    have orderly := (leads₂.orderly fit₁.types).1
    have lastOrderly := (Leads.orderly leads orderly).1
    obtain ⟨later, live', becomes⟩ := leads₁.becomes fit.types.sound live
    obtain ⟨own, rfl, -⟩ := becomes
    subst type
    have whole : last.types.bodyOf ({ entry with body := own } : TypeDef).type = .ok (some body) :=
      TypeContext.bodyOf_define fit₁.types.sound.indexed live' defined orderly.sound leads
        lastOrderly.sound.indexed
    exact ⟨body, again silent (leads₂.trans leads) names, whole⟩

theorem exports_defineNominal (definition : Definition) (ty : TypeId) (state : Declaring) :
    ((source.defineNominal definition ty).run state).2.exports = state.exports := by
  have same : ((source.bodyOf definition).run state).2.exports = state.exports :=
    (resolving_bodyOf definition).exports_run
  rcases ran : (source.bodyOf definition).run state with ⟨body, middle⟩
  rw [ran] at same
  rw [defineNominal_run ran, ← same]
  split <;> rfl

theorem makes_defineNominals {pending : List (Definition × TypeId)} (fit : source.Fit state)
    (known : Known state.types.extent pending) : source.Makes state
      (pending.forM fun (definition, ty) => source.defineNominal definition ty) :=
  makes_forM fit fun declared member _ leads fit' => makes_defineNominal fit' _
    ((known_pair.1 (known_list.1 known declared member)).2.within (fit.within leads))

/-- Definitions get their bodies one after the other. -/
theorem defined_of_defineNominals {pending : List (Definition × TypeId)} (fit : source.Fit state)
    (known : Known state.types.extent pending) (live : AllLive state.types pending)
    (silent : ((pending.forM fun (definition, ty) =>
      source.defineNominal definition ty).run state).2.queue.kept = [])
    (leads : Leads ((pending.forM fun (definition, ty) =>
      source.defineNominal definition ty).run state).2.types last.types)
    (names : SameNames state.exports last.exports) :
    ∀ declared ∈ pending, source.Defined last declared.1 declared.2 := by
  induction pending generalizing state with
  | nil => exact List.forall_mem_nil _
  | cons first rest ih =>
    obtain ⟨known₁, knownRest⟩ := known_cons.1 known
    obtain ⟨⟨entry, found, type⟩, liveRest⟩ := List.forall_mem_cons.1 live
    have makes := makes_defineNominal fit first.1 (known_pair.1 known₁).2
    have knownRest := knownRest.within (fit.within makes.leads)
    have behind := makes_defineNominals makes.fit knownRest
    have before := (pushes_forM (fun _ => pushes_defineNominal _ _) rest _).silent silent
    have same := source.exports_defineNominal first.1 first.2 state
    refine List.forall_mem_cons.2 ⟨?_, ?_⟩
    · exact defined_of_defineNominal fit (known_pair.1 known₁).2 found type before
        (behind.leads.trans leads) names
    · exact ih makes.fit knownRest (AllLive.leads liveRest makes.leads fit.types.sound) silent leads
        (same.symm ▸ names)

/-! ### Signatures -/

theorem makes_declareFunctions (functions : List Definition) (fit : source.Fit state) :
    source.Makes state (functions.forM source.declareFunction) :=
  makes_forM fit fun definition _ _ _ fit' => makes_declareFunction fit' definition

theorem signed_of_declareFunctions {functions : List Definition} (fit : source.Fit state)
    (silent : ((functions.forM source.declareFunction).run state).2.queue.kept = [])
    (leads : Leads ((functions.forM source.declareFunction).run state).2.types last.types)
    (names : SameNames state.exports last.exports) :
    ∀ definition ∈ functions, source.Signed last definition := by
  induction functions generalizing state with
  | nil => exact List.forall_mem_nil _
  | cons first rest ih =>
    have makes := makes_declareFunction fit first
    have behind := makes_declareFunctions rest makes.fit
    have before := (pushes_forM pushes_declareFunction rest _).silent silent
    have parallel : source.Parallel state.types.extent .id (source.signature first)
        (source.signature first) := source.parallel_signature first
    refine List.forall_mem_cons.2 ⟨⟨_, parallel.again fit before (behind.leads.trans leads) names⟩,
      ih makes.fit silent leads ?_⟩
    have same : ((source.signature first).run state).2.exports = state.exports :=
      (resolving_signature first).exports_run
    exact fun name => (names name).trans (congrArg (·.lookup? name) same.symm)

end ModuleSource

end FrontEnd
