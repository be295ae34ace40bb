import FrontEnd.Proofs.Declaration.Again
import FrontEnd.Proofs.Declaration.Mirror
import FrontEnd.Proofs.Declaration.Pursuit

/-!
A run of the declaration pass that trails another. The tables of the first are behind those of the
second, and every name means the same in both. Where the same steps have nothing to report in the
second, they have nothing to report in the first, and leave it behind with the same in hand. Only the
recursion limit may halt it.
-/

namespace FrontEnd

open TypeContext (Behind)

variable {extent : Extent} {shift next : Renaming}

/-- A report about the recursion limit is kept. -/
def DiagnosticQueue.Halted (queue : DiagnosticQueue) : Prop :=
  ∃ diag ∈ queue.kept, diag.code = .recursionLimit

theorem DiagnosticQueue.Halted.extend {queue : DiagnosticQueue} (halted : queue.Halted)
    (diags : List Diagnostic) : (queue.extend diags).Halted := by
  obtain ⟨diag, kept, code⟩ := halted
  exact ⟨diag, mem_kept_extend diags kept, code⟩

/-! ### What names mean -/

theorem Exports.lookup?_addType (exports : Exports) (name : Name) (ty : TypeId) (key : Name) :
    (exports.addType name ty).lookup? key =
      if name = key then some (.type ty) else exports.lookup? key := by
  by_cases same : name = key <;>
    simp [Exports.lookup?, Exports.addType, Std.HashMap.getElem?_insert, same]

/-- Every name was given a meaning that is known, and means the same in the other exports. -/
structure Exports.Mirrors (extent : Extent) (shift : Renaming) (own other : Exports) : Prop where
  known : ∀ name, Known extent (own.lookup? name)
  lookup : ∀ name, other.lookup? name = shift.image (own.lookup? name)

namespace Exports.Mirrors

variable {own other : Exports}

theorem onward {outer : Extent} (mirrors : own.Mirrors extent shift other)
    (agrees : Agrees extent shift next) (within : extent.Within outer) :
    own.Mirrors outer next other where
  known name := (mirrors.known name).within within
  lookup name := (mirrors.lookup name).trans (mirrors.known name _ _ agrees)

theorem declares (mirrors : own.Mirrors extent shift other) (name : Name) :
    other.declares name = own.declares name := by
  have meant : ∀ exports : Exports, exports.declares name = (exports.lookup? name).isSome := by
    intro exports
    simp [Exports.declares, Exports.lookup?, Option.isSome_or]
  rw [meant, meant, mirrors.lookup]
  exact Option.isSome_map

theorem addType (mirrors : own.Mirrors extent shift other) (name : Name) {ty : TypeId}
    (known : Known extent ty) :
    (own.addType name ty).Mirrors extent shift (other.addType name (shift.types ty)) := by
  constructor
  · intro key
    rw [lookup?_addType]
    split
    · exact known_some.2 (known_typeEntry.2 known)
    · exact mirrors.known key
  · intro key
    rw [lookup?_addType, lookup?_addType]
    split
    · rfl
    · exact mirrors.lookup key

theorem addTemplate (mirrors : own.Mirrors extent shift other) {name : Name}
    (free : own.declares name = false) (id : TemplateId) :
    (own.addTemplate name id).Mirrors extent shift (other.addTemplate name id) := by
  have meant : ∀ exports : Exports, exports.declares name = false → ∀ key,
      (exports.addTemplate name id).lookup? key =
        if name = key then some (.template id) else exports.lookup? key := by
    intro exports free key
    by_cases same : name = key
    · subst same
      have absent : exports.types[name]? = none := by
        simpa using (Bool.or_eq_false_iff.1 free).1
      simp [Exports.lookup?, Exports.addTemplate, absent]
    · simp [Exports.lookup?, Exports.addTemplate, Std.HashMap.getElem?_insert, same]
  constructor
  · intro key
    rw [meant own free]
    split
    · exact fun _ _ _ => rfl
    · exact mirrors.known key
  · intro key
    rw [meant own free, meant other ((mirrors.declares name).trans free)]
    split
    · rfl
    · exact mirrors.lookup key

/-- Where the exports of all imports mean the same, so do all names. -/
theorem scope {names : Interner} {imports : List Exports} (mirrors : own.Mirrors extent shift other)
    (others : ∀ exports ∈ imports, exports.Mirrors extent shift exports) :
    (Scope.mk names own imports).Mirrors extent shift ⟨names, other, imports⟩ := by
  have found : ∀ name, Known extent (imports.findSome? (·.lookup? name)) ∧
      imports.findSome? (·.lookup? name) = shift.image (imports.findSome? (·.lookup? name)) := by
    intro name
    induction imports with
    | nil => exact ⟨known_none, rfl⟩
    | cons first rest ih =>
      have mirrors := others first List.mem_cons_self
      obtain ⟨known, same⟩ := ih fun exports member => others exports (List.mem_cons_of_mem _ member)
      have own := mirrors.known name
      have image := mirrors.lookup name
      rw [List.findSome?_cons]
      cases meant : first.lookup? name with
      | none => exact ⟨known, same⟩
      | some entry =>
        rw [meant] at own image
        exact ⟨own, image⟩
  have meant : ∀ name, Known extent ((own :: imports).findSome? (·.lookup? name)) ∧
      (other :: imports).findSome? (·.lookup? name) =
        shift.image ((own :: imports).findSome? (·.lookup? name)) := by
    intro name
    obtain ⟨known, same⟩ := found name
    have inner := mirrors.known name
    rw [List.findSome?_cons, List.findSome?_cons, mirrors.lookup]
    cases meant : own.lookup? name with
    | none => exact ⟨known, same⟩
    | some entry =>
      rw [meant] at inner
      exact ⟨inner, rfl⟩
  constructor
  · intro text
    unfold Scope.lookup?
    cases names.get? text with
    | none => exact known_none
    | some name => exact (meant name).1
  · intro text
    unfold Scope.lookup?
    cases names.get? text with
    | none => rfl
    | some name => exact (meant name).2

end Exports.Mirrors

namespace ModuleSource

variable {source : ModuleSource} {one two : Declaring}

/-- The first run has the tables behind those of the second, every name means the same, and nothing
was reported in the first. -/
structure Trails (source : ModuleSource) (shift : Renaming) (one two : Declaring) : Prop where
  types : Behind shift one.types two.types
  exports : one.exports.Mirrors one.types.extent shift two.exports
  imports : ∀ exports ∈ source.imports, exports.Mirrors one.types.extent shift exports
  silent : one.queue.kept = []

theorem Trails.scope (trails : source.Trails shift one two) :
    (Scope.mk source.names one.exports source.imports).Mirrors one.types.extent shift
      ⟨source.names, two.exports, source.imports⟩ :=
  trails.exports.scope trails.imports

theorem Trails.inside (trails : source.Trails shift one two) :
    (Scope.mk source.names one.exports source.imports).Inside one.types.extent := by
  have own : ∀ {exports other : Exports}, exports.Mirrors one.types.extent shift other →
      exports.Inside one.types.extent := by
    intro exports other mirrors name ty found
    have known := mirrors.known name
    simp only [Exports.lookup?, found, Option.map_some, Option.some_or] at known
    exact known_typeEntry.1 (known_some.1 known)
  intro exports member
  rcases List.mem_cons.1 member with rfl | member
  · exact own trails.exports
  · exact own (trails.imports exports member)

/-- Both go on with other tables. -/
theorem Trails.onward (trails : source.Trails shift one two) {types types' : TypeContext}
    (agrees : Agrees one.types.extent shift next) (within : one.types.extent.Within types.extent)
    (behind : Behind next types types') :
    source.Trails next { one with types } { two with types := types' } where
  types := behind
  exports := trails.exports.onward agrees within
  imports exports member := (trails.imports exports member).onward agrees within
  silent := trails.silent

/-- Where the second steps have nothing to report, neither have the first, which leave the first run
behind with the same in hand, unless the recursion limit halts them. -/
def Follows [Renames α] (source : ModuleSource) (shift : Renaming) (one two : Declaring)
    (steps steps' : DeclareM α) : Prop :=
  (steps'.run two).2.queue.kept = [] →
    (steps.run one).2.queue.Halted ∨ ∃ next, Agrees one.types.extent shift next ∧
      one.types.extent.Within (steps.run one).2.types.extent ∧
      source.Trails next (steps.run one).2 (steps'.run two).2 ∧
      Known (steps.run one).2.types.extent (steps.run one).1 ∧
      (steps'.run two).1 = next.image (steps.run one).1

/-- What comes behind a halt keeps the report about it. -/
theorem halted_bind {steps : DeclareM α} {rest : α → DeclareM β}
    (halted : (steps.run one).2.queue.Halted) (pushes : ∀ value after, Pushes (rest value) after) :
    ((steps >>= rest).run one).2.queue.Halted := by
  obtain ⟨diags, -, pushed⟩ := pushes (steps.run one).1 (steps.run one).2
  have whole : ((steps >>= rest).run one).2.queue = _ := pushed
  exact whole ▸ halted.extend diags

/-! ### Single steps -/

section Steps

variable [Renames α] [Renames β] {steps steps' : DeclareM α} {rest rest' : α → DeclareM β}

theorem follows_pure (trails : source.Trails shift one two) {value : α}
    (known : Known one.types.extent value) :
    source.Follows shift one two (pure value) (pure (shift.image value)) :=
  fun _ => .inr ⟨shift, .refl _ _, .refl _, trails, known, rfl⟩

/-- Where the second reports something, nothing is asked of the first. -/
theorem follows_report (steps : DeclareM Unit) (err : DeclareError) (span : TokenSpan) :
    source.Follows shift one two steps (source.report err span) :=
  fun silent =>
    absurd silent (DiagnosticQueue.kept_push_ne_nil _ _)

theorem follows_bind_ran (first : source.Follows shift one two steps steps')
    (pushes : ∀ value after, Pushes (rest value) after)
    (pushes' : ∀ value after, Pushes (rest' value) after)
    (second : ∀ next value middle middle', Agrees one.types.extent shift next →
      one.types.extent.Within middle.types.extent → source.Trails next middle middle' →
      Known middle.types.extent value → steps.run one = (value, middle) →
      steps'.run two = (next.image value, middle') →
      source.Follows next middle middle' (rest value) (rest' (next.image value))) :
    source.Follows shift one two (steps >>= rest) (steps' >>= rest') := by
  intro silent
  obtain halted | ⟨next, agrees, within, trails, known, same⟩ := first ((pushes' _ _).silent silent)
  · exact .inl (halted_bind halted pushes)
  have follows := second next _ _ _ agrees within trails known rfl (Prod.ext same rfl)
  rw [← same] at follows
  refine (follows silent).imp_right ?_
  rintro ⟨last, agrees', within', rest⟩
  exact ⟨last, agrees.trans (agrees'.within within), within.trans within', rest⟩

theorem follows_bind (first : source.Follows shift one two steps steps')
    (pushes : ∀ value after, Pushes (rest value) after)
    (pushes' : ∀ value after, Pushes (rest' value) after)
    (second : ∀ next value middle middle', Agrees one.types.extent shift next →
      one.types.extent.Within middle.types.extent → source.Trails next middle middle' →
      Known middle.types.extent value →
      source.Follows next middle middle' (rest value) (rest' (next.image value))) :
    source.Follows shift one two (steps >>= rest) (steps' >>= rest') :=
  follows_bind_ran first pushes pushes'
    fun next value middle middle' agrees within trails known _ _ =>
      second next value middle middle' agrees within trails known

theorem follows_forM {steps : γ → DeclareM Unit} (pushes : ∀ x after, Pushes (steps x) after)
    (each : ∀ x shift one two, source.Trails shift one two →
      source.Follows shift one two (steps x) (steps x)) (xs : List γ)
    (trails : source.Trails shift one two) :
    source.Follows shift one two (xs.forM steps) (xs.forM steps) := by
  induction xs generalizing shift one two with
  | nil => exact follows_pure trails (known_unit _)
  | cons x rest ih =>
    exact follows_bind (each x shift one two trails) (fun _ => pushes_forM pushes rest)
      (fun _ => pushes_forM pushes rest) fun next _ middle middle' _ _ trails _ => ih trails

/-- What steps follow is a matter of how they run. -/
theorem follows_of_run {others others' : DeclareM α} (ran : steps.run one = others.run one)
    (ran' : steps'.run two = others'.run two)
    (follows : source.Follows shift one two others others') :
    source.Follows shift one two steps steps' := by
  unfold Follows
  rw [ran, ran']
  exact follows

theorem follows_text (trails : source.Trails shift one two) (text : String) (span : TokenSpan) :
    source.Follows shift one two (source.typeOfText text span) (source.typeOfText text span) := by
  intro silent
  have pursues := pursues_text trails.types trails.scope text
  rw [typeOfText_run] at silent ⊢
  rw [typeOfText_run]
  rcases ran' : outcome (Scope.resolveText ⟨source.names, two.exports, source.imports⟩ text)
    two.types with ⟨err | ty', types'⟩
  · rw [ran'] at silent
    exact absurd silent (DiagnosticQueue.kept_push_ne_nil _ _)
  obtain ⟨err, runaway, failed⟩ | ⟨next, ty, types, ran, agrees, within, behind, known, same⟩ :=
    pursues ty' types' ran'
  · rcases ran : outcome (Scope.resolveText ⟨source.names, one.exports, source.imports⟩ text)
      one.types with ⟨result, types⟩
    rw [ran] at failed
    cases failed
    have kept := DiagnosticQueue.kept_push_of_empty trails.silent
      ((DeclareError.type err).report types source.names source.tree.source span)
    obtain ⟨limit, chain, rfl⟩ := runaway
    exact .inl ⟨_, kept.symm ▸ List.mem_singleton.2 rfl, rfl⟩
  · rw [ran]
    exact .inr ⟨next, agrees, within, trails.onward agrees within behind, known, same⟩

theorem follows_intern (trails : source.Trails shift one two) {form : TypeForm}
    (known : Known one.types.extent form) :
    source.Follows shift one two (intern form) (intern (shift.image form)) := by
  intro _
  obtain ⟨next, agrees, within, behind, inner, same⟩ := trails.types.intern known
  exact .inr ⟨next, agrees, within, trails.onward agrees within behind, inner, same⟩

theorem follows_get {rest : Declaring → DeclareM β}
    (next : source.Follows shift one two (rest one) (rest two)) :
    source.Follows shift one two (get >>= rest) (get >>= rest) :=
  next

end Steps

private theorem follows_parallel [Renames α] {steps steps' : DeclareM α}
    (parallel : source.Parallel extent shift steps steps') (trails : source.Trails shift one two)
    (same : one.types.extent = extent) : source.Follows shift one two steps steps' := by
  induction parallel generalizing one two with
  | pure value known => exact follows_pure trails (same ▸ known)
  | primitive small =>
    rename_i ty
    obtain ⟨known, fixed⟩ := trails.types.shared.primitive ty small
    have follows := follows_pure trails (known_type.2 known)
    rwa [image_type, fixed] at follows
  | report err span => exact follows_report _ err span
  | text text span => exact follows_text trails text span
  | intern plain known => exact follows_intern trails (same ▸ known)
  | lookup text only each ih =>
    have mirrors := trails.scope
    refine follows_get ?_
    have follows := ih _ (same ▸ mirrors.known text) trails same
    rwa [← mirrors.lookup] at follows
  | bind first only only' second ih ih' =>
    subst same
    exact follows_bind (ih trails rfl) (fun value after => (only value).tablesOnly.pushes after)
      (fun value after => (only' value).tablesOnly.pushes after)
      fun next value middle middle' agrees within trails known =>
        ih' next _ value agrees within known trails rfl

/-- Steps that treat all types alike leave a run that trails another behind it. -/
theorem Parallel.follows [Renames α] {steps steps' : DeclareM α}
    (parallel : source.Parallel one.types.extent shift steps steps')
    (trails : source.Trails shift one two) : source.Follows shift one two steps steps' :=
  follows_parallel parallel trails rfl

/-! ### Templates and aliases -/

theorem Trails.template (trails : source.Trails shift one two) (definition : Definition)
    (parameters : List TemplateParameter) :
    (source.templateScope definition parameters one).Mirrors shift
      (source.templateScope definition (shift.image parameters) two) where
  names := rfl
  lookup := trails.scope.lookup
  id := by
    have size := trails.types.shared.templates.size
    simp only [templateScope, TemplateRegistry.nextId, size]
  name := rfl
  parameters := by
    simp only [templateScope, Renaming.image, Renames.image, List.map_map]
    rfl
  primitive ty small := (trails.types.shared.primitive ty small).2

theorem follows_registerTemplate (trails : source.Trails shift one two) {definition : Definition}
    {parameters : List TemplateParameter} (known : Known one.types.extent parameters)
    (free : one.exports.declares definition.name = false) :
    source.Follows shift one two (source.registerTemplate definition parameters)
      (source.registerTemplate definition (shift.image parameters)) := by
  intro silent
  have scope := trails.template definition parameters
  have same : source.templateBody definition (shift.image parameters) two =
      (shift.image (source.templateBody definition parameters one).1,
        (source.templateBody definition parameters one).2) :=
    TemplateScope.body_image scope source.tree definition []
  have image : source.templateOf definition (shift.image parameters) two =
      shift.image (source.templateOf definition parameters one) := by
    simp only [templateOf, same]
    rfl
  have inside : (source.templateScope definition parameters one).Inside one.types.extent :=
    ⟨trails.inside, fun ty small => known_type.2 (trails.types.shared.primitive ty small).1⟩
  have inner : Known one.types.extent (source.templateOf definition parameters one) :=
    known_templateDef.2 ⟨known, TemplateScope.body_known inside _ _⟩
  cases registered : two.types.registerTemplate
      (source.templateOf definition (shift.image parameters) two) with
  | error err =>
    rw [registerTemplate_error two registered] at silent
    have impossible := reported_silent silent
    simp at impossible
  | ok made =>
    obtain ⟨id, types'⟩ := made
    have faultless := registerTemplate_ok two registered
    rw [faultless] at silent ⊢
    have none_ : (source.templateBody definition parameters one).2 = [] :=
      (congrArg Prod.snd same).symm.trans (reported_silent silent)
    rw [image] at registered
    obtain ⟨types, registered', extent, behind⟩ := trails.types.register inner registered
    rw [registerTemplate_ok one registered', none_]
    refine .inr ⟨shift, .refl _ _, extent ▸ .refl _, ⟨behind, ?_, ?_, trails.silent⟩, known_unit _, rfl⟩
    · exact extent ▸ trails.exports.addTemplate free id
    · exact extent ▸ trails.imports

theorem follows_declareTemplate (trails : source.Trails shift one two) (definition : Definition) :
    source.Follows shift one two (source.declareTemplate definition)
      (source.declareTemplate definition) := by
  have ran := source.declareTemplate_run definition one
  have ran' := source.declareTemplate_run definition two
  rw [trails.exports.declares] at ran'
  by_cases taken : one.exports.declares definition.name = true
  · rw [if_pos taken] at ran ran'
    exact follows_of_run ran ran' (follows_report _ _ _)
  rw [if_neg taken] at ran ran'
  cases unsupported : definition.unsupported? with
  | some subject =>
    rw [unsupported] at ran ran'
    exact follows_of_run ran ran' (follows_report _ _ _)
  | none =>
    rw [unsupported] at ran ran'
    refine follows_of_run ran ran' ?_
    refine follows_bind_ran ((parallel_templateParameters definition).follows trails)
      (fun _ => pushes_registerTemplate definition _) (fun _ => pushes_registerTemplate definition _)
      fun next parameters middle middle' _ _ trails known ran _ => ?_
    refine follows_registerTemplate trails known ?_
    have same : ((source.templateParameters definition).run one).2.exports = one.exports :=
      (resolving_templateParameters definition).exports_run
    rw [ran] at same
    rw [same]
    exact Bool.eq_false_iff.2 taken

theorem follows_addType (trails : source.Trails shift one two) (name : Name) {ty : TypeId}
    (known : Known one.types.extent ty) :
    source.Follows shift one two (updateExports (·.addType name ty))
      (updateExports (·.addType name (shift.types ty))) :=
  fun _ => .inr ⟨shift, .refl _ _, .refl _,
    ⟨trails.types, trails.exports.addType name known, trails.imports, trails.silent⟩,
    known_unit _, rfl⟩

theorem follows_declareAlias (trails : source.Trails shift one two) (definition : Definition) :
    source.Follows shift one two (source.declareAlias definition)
      (source.declareAlias definition) := by
  unfold declareAlias
  refine follows_get ?_
  rw [trails.exports.declares]
  split
  · exact follows_report _ _ _
  · refine follows_bind ((parallel_statedType _ _ _).follows trails)
      (fun _ => pushes_updateExports _) (fun _ => pushes_updateExports _)
      fun next ty middle middle' _ _ trails known => ?_
    exact follows_addType trails _ known

end ModuleSource

end FrontEnd
