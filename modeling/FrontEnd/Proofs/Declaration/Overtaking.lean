import FrontEnd.Proofs.Declaration.Declared
import FrontEnd.Proofs.Declaration.Ending

/-!
A run that catches up with the end of another. Where the second run is over and had nothing to report,
the first gives its nominal definitions the bodies that they have in the second already, and its
functions the signatures that they have there, in whatever order, and stays behind the end of the
second.
-/

namespace FrontEnd

open TypeContext (Leads Retains)

variable {shift : Renaming}

namespace ModuleSource

variable {source : ModuleSource} {state one last : Declaring} {definition : Definition}

/-! ### The end of the second -/

/-- No template is registered, and no name gets another meaning. -/
structure Stays (state after : Declaring) : Prop where
  indexed : after.types.Indexed
  templates : after.types.templates = state.types.templates
  names : SameNames state.exports after.exports

theorem Stays.trans {middle after : Declaring} (first : Stays state middle)
    (second : Stays middle after) : Stays state after :=
  ⟨second.indexed, second.templates.trans first.templates,
    fun name => (second.names name).trans (first.names name)⟩

theorem stays_defineNominal (definition : Definition) (ty : TypeId)
    (indexed : state.types.Indexed) :
    Stays state ((source.defineNominal definition ty).run state).2 := by
  have adds := (source.resolving_bodyOf definition).adds indexed
  have exports := source.exports_defineNominal definition ty state
  rcases ran : (source.bodyOf definition).run state with ⟨body, middle⟩
  rw [ran] at adds
  rw [defineNominal_run ran] at exports ⊢
  cases defined : middle.types.define ty body with
  | error err =>
    rw [defined] at exports
    exact ⟨adds.indexed, adds.templates, fun name => congrArg (·.lookup? name) exports⟩
  | ok types =>
    rw [defined] at exports
    obtain ⟨own, registry, -, given, rfl⟩ := TypeContext.define_ok defined
    exact ⟨TypeContext.indexed_registry adds.indexed given, adds.templates,
      fun name => congrArg (·.lookup? name) exports⟩

theorem stays_declareFunction (definition : Definition) (indexed : state.types.Indexed) :
    Stays state ((source.declareFunction definition).run state).2 := by
  have adds := (source.resolving_signature definition).adds indexed
  have exports : ((source.signature definition).run state).2.exports = state.exports :=
    (resolving_signature definition).exports_run
  exact ⟨adds.indexed, adds.templates, fun name => congrArg (·.lookup? name) exports⟩

theorem stays_forM {steps : α → DeclareM Unit}
    (each : ∀ x state, state.types.Indexed → Stays state ((steps x).run state).2) (xs : List α)
    (indexed : state.types.Indexed) : Stays state ((xs.forM steps).run state).2 := by
  induction xs generalizing state with
  | nil => exact ⟨indexed, rfl, fun _ => rfl⟩
  | cons x rest ih =>
    have first := each x state indexed
    exact first.trans (ih first.indexed)

/-- The last two steps of the pass. -/
def declareBodies (source : ModuleSource) (pending : List (Definition × TypeId))
    (functions : List Definition) : DeclareM Unit := do
  pending.forM fun (definition, ty) => source.defineNominal definition ty
  functions.forM source.declareFunction

theorem stays_defineNominals (source : ModuleSource) (pending : List (Definition × TypeId))
    (indexed : state.types.Indexed) : Stays state
      ((pending.forM fun (definition, ty) => source.defineNominal definition ty).run state).2 :=
  stays_forM (fun declared _ indexed => stays_defineNominal declared.1 declared.2 indexed) pending
    indexed

theorem stays_declareFunctions (source : ModuleSource) (functions : List Definition)
    (indexed : state.types.Indexed) :
    Stays state ((functions.forM source.declareFunction).run state).2 :=
  stays_forM (fun definition _ indexed => stays_declareFunction definition indexed) functions indexed

/-- The second comes to its end. What it resolved could be resolved to the same there. -/
theorem ends_declareBodies {pending : List (Definition × TypeId)} {functions : List Definition}
    (fit : source.Fit state) (known : Known state.types.extent pending)
    (live : AllLive state.types pending)
    (ran : ((source.declareBodies pending functions).run state).2 = last)
    (quiet : last.queue.kept = []) : Leads state.types last.types ∧ Stays state last ∧
      (∀ declared ∈ pending, source.Defined last declared.1 declared.2) ∧
      ∀ definition ∈ functions, source.Signed last definition := by
  have middle := source.stays_defineNominals pending fit.types.sound.indexed
  have stays := middle.trans (source.stays_declareFunctions functions middle.indexed)
  have bodies := makes_defineNominals fit known
  have signatures := makes_declareFunctions functions bodies.fit
  have ran : ((functions.forM source.declareFunction).run ((pending.forM fun (definition, ty) =>
    source.defineNominal definition ty).run state).2).2 = last := ran
  rw [ran] at stays
  have before := (pushes_forM pushes_declareFunction functions _).silent (ran ▸ quiet)
  refine ⟨bodies.leads.trans (ran ▸ signatures.leads), stays, ?_, ?_⟩
  · exact defined_of_defineNominals fit known live before (ran ▸ signatures.leads) stays.names
  · exact signed_of_declareFunctions bodies.fit (ran ▸ quiet) (ran ▸ .refl _)
      fun name => (stays.names name).trans (middle.names name).symm

/-- The second may go on, as long as it registers no template and no name gets another meaning. -/
theorem Trails.overtaken {two : Declaring} (trails : source.Trails shift one two)
    (orderly : two.types.Orderly) (leads : Leads two.types last.types) (stays : Stays two last) :
    source.Trails shift one last where
  types := trails.types.leads orderly leads stays.templates
  exports := ⟨trails.exports.known, fun name => (stays.names name).trans (trails.exports.lookup name)⟩
  imports := trails.imports
  silent := trails.silent

/-! ### The first alone -/

/-- The steps leave the first run behind the end of the second, unless the recursion limit halts
them. -/
def CatchesUp (source : ModuleSource) (shift : Renaming) (one last : Declaring)
    (steps : DeclareM Unit) : Prop :=
  (steps.run one).2.queue.Halted ∨ ∃ next, Agrees one.types.extent shift next ∧
    one.types.extent.Within (steps.run one).2.types.extent ∧
    source.Trails next (steps.run one).2 last

/-- The entries are live and have no body yet. -/
structure Bare (ctx : TypeContext) (entries : List (Definition × TypeDef)) : Prop where
  live : ∀ made ∈ entries, ctx.registry.get? made.2.id = some made.2
  bare : ∀ made ∈ entries, made.2.body = none
  apart : (entries.map (·.2.id)).Nodup

theorem Bare.retains {ctx ctx' : TypeContext} {entries : List (Definition × TypeDef)}
    (bare : Bare ctx entries) (retains : Retains ctx ctx') : Bare ctx' entries :=
  ⟨fun made member => retains.live (bare.live made member), bare.bare, bare.apart⟩

/-- The first of some definitions gets its body. -/
theorem Bare.define {ctx : TypeContext} {registry : TypeRegistry} {entry : TypeDef} {body : DefBody}
    {rest : List (Definition × TypeDef)} (bare : Bare ctx ((definition, entry) :: rest))
    (defined : ctx.registry.define entry.id body = .ok registry) :
    Bare { ctx with registry } rest := by
  obtain ⟨own, -, -, -, -, found⟩ := TypeRegistry.define_ok defined
  obtain ⟨outside, apart⟩ := List.nodup_cons.1 bare.apart
  refine ⟨fun made member => ?_, (List.forall_mem_cons.1 bare.bare).2, apart⟩
  refine (found made.2.id).trans ((if_neg fun same => outside ?_).trans
    (bare.live made (List.mem_cons_of_mem _ member)))
  exact List.mem_map.2 ⟨made, member, same⟩

/-- A definition gets the body that it has in the end of the second. -/
theorem Trails.defineNominal {entry : TypeDef} {rest : List (Definition × TypeDef)}
    (trails : source.Trails shift one last) (bare : Bare one.types ((definition, entry) :: rest))
    (known : Known one.types.extent entry.type)
    (defined : source.Defined last definition (shift.types entry.type))
    (quiet : last.queue.kept = []) :
    ((source.defineNominal definition entry.type).run one).2.queue.Halted ∨
      ∃ next, Agrees one.types.extent shift next ∧
        one.types.extent.Within ((source.defineNominal definition entry.type).run one).2.types.extent ∧
        source.Trails next ((source.defineNominal definition entry.type).run one).2 last ∧
        Bare ((source.defineNominal definition entry.type).run one).2.types rest := by
  obtain ⟨body', ran', whole⟩ := defined
  have follows := (parallel_bodyOf definition).follows trails
  unfold Follows at follows
  rw [ran'] at follows
  have adds := (source.resolving_bodyOf definition).adds trails.types.indexed
  rcases ran : (source.bodyOf definition).run one with ⟨body, middle⟩
  rw [ran] at follows adds
  rw [defineNominal_run ran]
  obtain halted | ⟨next, agrees, within, trails', inner, same⟩ := follows quiet
  · left
    cases middle.types.define entry.type body with
    | error err => exact halted.extend [_]
    | ok types => exact halted
  · have bare := bare.retains adds.toRetains
    cases same
    have whole : last.types.bodyOf (next.types entry.type) = .ok (some (next.image body)) := by
      rw [show next.types entry.type = shift.types entry.type from (known _ _ agrees).symm]
      exact whole
    obtain ⟨registry, defined, given, behind⟩ := trails'.types.define
      (bare.live _ List.mem_cons_self) (bare.bare _ List.mem_cons_self) inner whole
    rw [given]
    obtain ⟨own, -, -, -, size, -⟩ := TypeRegistry.define_ok defined
    have outer : middle.types.extent.Within
        ({ middle.types with registry } : TypeContext).extent :=
      ⟨Nat.le_refl _, Nat.le_of_eq size.symm⟩
    have trails'' := trails'.onward (.refl _ _) outer behind
    exact .inr ⟨next, agrees, within.trans outer, trails'', bare.define defined⟩

/-- Definitions get the bodies that they have in the end of the second. -/
theorem Trails.defineNominals {entries : List (Definition × TypeDef)}
    (trails : source.Trails shift one last) (bare : Bare one.types entries)
    (known : ∀ made ∈ entries, Known one.types.extent made.2.type)
    (defined : ∀ made ∈ entries, source.Defined last made.1 (shift.types made.2.type))
    (quiet : last.queue.kept = []) :
    source.CatchesUp shift one last ((entries.map withType).forM fun (definition, ty) =>
      source.defineNominal definition ty) := by
  induction entries generalizing shift one with
  | nil => exact .inr ⟨shift, .refl _ _, .refl _, trails⟩
  | cons first rest ih =>
    obtain ⟨definition, entry⟩ := first
    obtain ⟨known₁, knownRest⟩ := List.forall_mem_cons.1 known
    obtain ⟨defined₁, definedRest⟩ := List.forall_mem_cons.1 defined
    obtain halted | ⟨next, agrees, within, trails', bareRest⟩ :=
      trails.defineNominal bare known₁ defined₁ quiet
    · exact .inl (halted_bind halted fun _ => pushes_forM (fun _ => pushes_defineNominal _ _) _)
    · refine (ih trails' bareRest (fun made member => (knownRest made member).within within)
        fun made member => ?_).imp_right ?_
      · rw [show next.types made.2.type = shift.types made.2.type from
          (knownRest made member _ _ agrees).symm]
        exact definedRest made member
      · rintro ⟨after, agrees', within', trails''⟩
        exact ⟨after, agrees.trans (agrees'.within within), within.trans within', trails''⟩

/-- Functions get the signatures that they have in the end of the second. -/
theorem Trails.declareFunctions {functions : List Definition}
    (trails : source.Trails shift one last)
    (signed : ∀ definition ∈ functions, source.Signed last definition)
    (quiet : last.queue.kept = []) :
    source.CatchesUp shift one last (functions.forM source.declareFunction) := by
  induction functions generalizing shift one with
  | nil => exact .inr ⟨shift, .refl _ _, .refl _, trails⟩
  | cons definition rest ih =>
    obtain ⟨⟨signature, ran⟩, signedRest⟩ := List.forall_mem_cons.1 signed
    have follows := (parallel_signature definition).follows trails
    unfold Follows at follows
    rw [ran] at follows
    obtain halted | ⟨next, agrees, within, trails', -, -⟩ := follows quiet
    · have halted : ((source.declareFunction definition).run one).2.queue.Halted := halted
      exact .inl (halted_bind halted fun _ => pushes_forM pushes_declareFunction _)
    · have after : source.Trails next ((source.declareFunction definition).run one).2 last :=
        ⟨trails'.types, ⟨trails'.exports.known, trails'.exports.lookup⟩, trails'.imports,
          trails'.silent⟩
      refine (ih after signedRest).imp_right ?_
      rintro ⟨last, agrees', within', trails''⟩
      exact ⟨last, agrees.trans (agrees'.within within), within.trans within', trails''⟩

/-- The first comes to its end, in whatever order. -/
theorem Trails.declareBodies {entries : List (Definition × TypeDef)} {functions : List Definition}
    (trails : source.Trails shift one last) (bare : Bare one.types entries)
    (known : ∀ made ∈ entries, Known one.types.extent made.2.type)
    (defined : ∀ made ∈ entries, source.Defined last made.1 (shift.types made.2.type))
    (signed : ∀ definition ∈ functions, source.Signed last definition)
    (quiet : last.queue.kept = []) :
    source.CatchesUp shift one last (source.declareBodies (entries.map withType) functions) := by
  obtain halted | ⟨next, agrees, within, trails'⟩ := trails.defineNominals bare known defined quiet
  · exact .inl (halted_bind halted fun _ => pushes_forM pushes_declareFunction _)
  · refine (trails'.declareFunctions signed quiet).imp_right ?_
    rintro ⟨after, agrees', within', trails''⟩
    exact ⟨after, agrees.trans (agrees'.within within), within.trans within', trails''⟩

end ModuleSource

end FrontEnd
