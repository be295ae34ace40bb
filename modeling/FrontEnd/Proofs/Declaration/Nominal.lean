import FrontEnd.Proofs.Declaration.ClassTemplate
import FrontEnd.Proofs.Declaration.Pushes

/-!
Names of nominal definitions. The type tables have one index of them and never give a name up. So a
module gets types for all its nominal definitions exactly if their names differ and none of them was
taken before, by whatever was declared in the same tables; otherwise it has an error.
-/

namespace FrontEnd

namespace TypeContext

variable {ctx after : TypeContext} {name : Name} {request : DefRequest} {entry : TypeDef}

/-- A nominal definition has the name. -/
def Taken (ctx : TypeContext) (name : Name) : Prop := name ∈ ctx.registry.names

/-- What a source declares is refused exactly if its name is taken. -/
theorem declare_error_iff (plain : request.specialization = none) :
    (∃ err, ctx.declare request = .error err) ↔ ∃ name, request.name = some name ∧ ctx.Taken name := by
  have index : request.indexName? = request.name := by simp [DefRequest.indexName?, plain]
  unfold declare TypeRegistry.checkName Taken
  rw [index]
  cases request.name with
  | none => simp
  | some own =>
    simp only [Option.some.injEq, exists_eq_left', Std.HashMap.mem_iff_isSome_getElem?]
    cases ctx.registry.names[own]? <;> simp

/-- What a source declares takes its name, and no other. -/
theorem taken_declare_iff (plain : request.specialization = none)
    (declared : ctx.declare request = .ok (entry, after)) :
    after.Taken name ↔ ctx.Taken name ∨ request.name = some name := by
  obtain ⟨-, rfl⟩ := declare_ok declared
  have index : request.indexName? = request.name := by simp [DefRequest.indexName?, plain]
  simp only [Taken, TypeRegistry.push, index]
  cases request.name with
  | none => simp
  | some own => simp [or_comm]

/-- No request frees a name. -/
theorem taken_perform (indexed : ctx.Indexed) (request : TableRequest) (taken : ctx.Taken name) :
    (ctx.perform request).2.Taken name := by
  cases request with
  | intern form => exact taken
  | qualify ty quals => exact taken
  | declare own kind locator =>
    simp only [perform, answered]
    split
    · rename_i declared
      exact (taken_declare_iff rfl declared).2 (.inl taken)
    · exact taken
  | define ty body =>
    simp only [perform, answered]
    cases defined : ctx.define ty body with
    | ok after =>
      obtain ⟨entry, registry, -, given, rfl⟩ := define_ok defined
      obtain ⟨-, -, -, names, -⟩ := TypeRegistry.define_ok given
      have same : registry.names = ctx.registry.names := names
      exact (congrArg (name ∈ ·) same).mpr taken
    | error err => exact taken
  | register template =>
    simp only [perform, answered]
    split
    · rename_i registered
      obtain ⟨templates, -, rfl⟩ := registerTemplate_ok registered
      exact taken
    · exact taken
  | specialize id arguments =>
    simp only [perform, specialize_eq]
    rcases Specializer.specialize_cases indexed id arguments with
      ⟨err, state, failed⟩ | ⟨found, state, succeeded⟩
    · rw [failed.ran]
      obtain ⟨added, made, growth⟩ := failed.growth
      obtain ⟨names, -⟩ := Specializer.registry_withdraw growth indexed rfl
      exact (congrArg (name ∈ ·) names).mpr taken
    · rw [succeeded.ran]
      obtain ⟨added, made, growth, -⟩ := succeeded.growth
      have names : state.publish.context.registry.names = ctx.registry.names := growth.names
      exact (congrArg (name ∈ ·) names).mpr taken
  | layout ty => exact taken
  | recordLayout ty => exact taken

/-- A name that is taken stays taken. -/
theorem Leads.taken (leads : Leads ctx after) (sound : CacheSound ctx) (taken : ctx.Taken name) :
    after.Taken name := by
  obtain ⟨history, -, rfl⟩ := leads
  induction history generalizing ctx with
  | nil => exact taken
  | cons request rest ih =>
    exact ih (perform_sound sound request).1 (taken_perform sound.indexed request taken)

/-- The names differ and none of them is taken. -/
def Free (ctx : TypeContext) (names : List Name) : Prop :=
  names.Nodup ∧ ∀ name ∈ names, ¬ ctx.Taken name

theorem free_cons {names : List Name} :
    ctx.Free (name :: names) ↔ ¬ ctx.Taken name ∧ name ∉ names ∧ ctx.Free names := by
  simp only [Free, List.nodup_cons, List.forall_mem_cons]
  tauto

/-- Taking another name leaves the names free that it is not among. -/
theorem free_after {names : List Name}
    (takes : ∀ other, after.Taken other ↔ ctx.Taken other ∨ other = name) :
    after.Free names ↔ ctx.Free names ∧ name ∉ names := by
  simp only [Free, takes, not_or]
  constructor
  · rintro ⟨once, free⟩
    exact ⟨⟨once, fun other member => (free other member).1⟩, fun member => (free name member).2 rfl⟩
  · rintro ⟨⟨once, free⟩, outside⟩
    refine ⟨once, fun other member => ⟨free other member, ?_⟩⟩
    rintro rfl
    exact outside member

end TypeContext

open TypeContext (Leads)

namespace ModuleSource

variable {source : ModuleSource} {definition : Definition} {kind : DefKind} {state : Declaring}

/-- A definition is nominal and no template. -/
def isNominal (source : ModuleSource) (definition : Definition) : Bool :=
  definition.defKind?.isSome && !source.tree.isTemplate definition

/-- The names of definitions. Anonymous ones have none. -/
def namesOf (definitions : List Definition) : List Name :=
  (definitions.map (·.name)).filter (· ≠ .empty)

/-- The nominal definitions of the module, without the templates. -/
def nominals (source : ModuleSource) : List Definition :=
  source.tree.topDefinitions.filter source.isNominal

/-- The names under which the module declares nominal types. -/
def nominalNames (source : ModuleSource) : List Name := namesOf source.nominals

theorem mem_namesOf {definitions : List Definition} {name : Name} :
    name ∈ namesOf definitions ↔ (∃ definition ∈ definitions, definition.name = name) ∧ name ≠ .empty := by
  simp [namesOf]

theorem namesOf_cons (definition : Definition) (rest : List Definition) :
    namesOf (definition :: rest) =
      if definition.name = .empty then namesOf rest else definition.name :: namesOf rest := by
  by_cases anonymous : definition.name = .empty <;> simp [namesOf, anonymous]

/-- What the module exports so far is in the tables under its name. -/
def Indexes (state : Declaring) : Prop :=
  ∀ name, state.exports.declares name = true → state.types.Taken name

/-- Declaring a nominal definition, step by step. -/
theorem declareNominal_run (source : ModuleSource) (definition : Definition) (kind : DefKind)
    (state : Declaring) : (source.declareNominal definition kind).run state =
      if definition.name ≠ .empty ∧ state.exports.declares definition.name = true then
        (none, ((source.report (.duplicate definition.name) definition.span).run state).2)
      else match state.types.declare (source.requestOf definition kind) with
        | .error err => (none, ((source.report (.type err) definition.span).run state).2)
        | .ok (entry, types) => (some entry.type, { state with
            types
            exports := if definition.name = .empty then state.exports
              else state.exports.addType definition.name entry.type }) := by
  have start : (get : DeclareM Declaring).run state = (state, state) := rfl
  unfold declareNominal
  refine (run_bind_of start).trans ?_
  have tested : (decide (definition.name ≠ .empty) && state.exports.declares definition.name) = true ↔
      definition.name ≠ .empty ∧ state.exports.declares definition.name = true := by simp
  by_cases own : definition.name ≠ .empty ∧ state.exports.declares definition.name = true
  · rw [if_pos own]
    dsimp only
    rw [if_pos (tested.2 own)]
    rfl
  · rw [if_neg own]
    dsimp only
    rw [if_neg (own ∘ tested.1)]
    cases state.types.declare (source.requestOf definition kind) with
    | error err => rfl
    | ok made =>
      dsimp only
      by_cases anonymous : definition.name = .empty
      · rw [if_pos anonymous, if_neg (not_not.2 anonymous)]
        rfl
      · rw [if_neg anonymous, if_pos anonymous]
        rfl

/-- A definition whose name is taken is reported. -/
theorem declareNominal_taken (kind : DefKind) (named : definition.name ≠ .empty)
    (taken : state.types.Taken definition.name) :
    ∃ diag, diag.isError = true ∧ (source.declareNominal definition kind).run state =
      (none, { state with queue := state.queue.push diag }) := by
  have own : (source.requestOf definition kind).specialization = none := rfl
  obtain ⟨err, refused⟩ := (TypeContext.declare_error_iff own).2
    ⟨definition.name, by simp [requestOf, named], taken⟩
  rw [declareNominal_run, refused]
  split
  · exact ⟨_, DeclareError.isError_report _ _ _ _ _, rfl⟩
  · exact ⟨_, DeclareError.isError_report _ _ _ _ _, rfl⟩

/-- The pass after one more definition was declared, which is exported if it has a name. -/
def declaring (state : Declaring) (definition : Definition) (ty : TypeId) (types : TypeContext) :
    Declaring :=
  { state with
    types
    exports := if definition.name = .empty then state.exports
      else state.exports.addType definition.name ty }

/-- A definition whose name is free gets an entry of the tables. -/
theorem declareNominal_ok (kind : DefKind) (indexes : Indexes state)
    (free : definition.name = .empty ∨ ¬ state.types.Taken definition.name) :
    ∃ entry types, state.types.declare (source.requestOf definition kind) = .ok (entry, types) ∧
      (source.declareNominal definition kind).run state =
        (some entry.type, declaring state definition entry.type types) := by
  have plain : (source.requestOf definition kind).specialization = none := rfl
  have outside : ¬ (definition.name ≠ .empty ∧ state.exports.declares definition.name = true) :=
    fun ⟨named, own⟩ => free.elim named fun free => free (indexes _ own)
  rw [declareNominal_run, if_neg outside]
  cases declared : state.types.declare (source.requestOf definition kind) with
  | error err =>
    obtain ⟨name, own, taken⟩ := (TypeContext.declare_error_iff plain).1 ⟨err, declared⟩
    simp only [requestOf, Option.ite_none_left_eq_some, Option.some.injEq] at own
    obtain ⟨named, rfl⟩ := own
    exact absurd taken (free.resolve_left named)
  | ok made => exact ⟨made.1, made.2, rfl, rfl⟩

/-- A definition that is declared takes its name, and no other. -/
theorem taken_declareNominal {entry : TypeDef} {types : TypeContext}
    (declared : state.types.declare (source.requestOf definition kind) = .ok (entry, types))
    (name : Name) : types.Taken name ↔
      state.types.Taken name ∨ name = definition.name ∧ definition.name ≠ .empty := by
  have plain : (source.requestOf definition kind).specialization = none := rfl
  rw [TypeContext.taken_declare_iff plain declared, requestOf]
  by_cases anonymous : definition.name = .empty <;> simp [anonymous, eq_comm]

/-- What is exported under the name of a definition is in the tables under its name. -/
theorem Indexes.declareNominal (indexes : Indexes state) {entry : TypeDef} {types : TypeContext}
    (declared : state.types.declare (source.requestOf definition kind) = .ok (entry, types)) :
    Indexes (declaring state definition entry.type types) := by
  refine fun name own => (taken_declareNominal declared name).2 ?_
  unfold declaring at own
  by_cases anonymous : definition.name = .empty
  · rw [if_pos anonymous] at own
    exact .inl (indexes name own)
  · by_cases same : name = definition.name
    · exact .inr ⟨same, anonymous⟩
    · refine .inl (indexes name ?_)
      simpa [anonymous, Exports.declares, Exports.addType, Ne.symm same] using own

/-- A definition whose name is free is declared without a report. It takes its name, and no other. -/
theorem declareNominal_free (kind : DefKind) (indexes : Indexes state)
    (free : definition.name = .empty ∨ ¬ state.types.Taken definition.name) :
    ∃ ty after, (source.declareNominal definition kind).run state = (some ty, after) ∧
      after.queue = state.queue ∧ Indexes after ∧ ∀ name, after.types.Taken name ↔
        state.types.Taken name ∨ name = definition.name ∧ definition.name ≠ .empty := by
  obtain ⟨entry, types, declared, ran⟩ := source.declareNominal_ok kind indexes free
  exact ⟨entry.type, _, ran, rfl, indexes.declareNominal declared, taken_declareNominal declared⟩

/-- Nothing is declared for what is not nominal. -/
theorem declareNominals_filter (definitions : List Definition) :
    source.declareNominals definitions = source.declareNominals (definitions.filter source.isNominal) := by
  induction definitions with
  | nil => rfl
  | cons definition rest ih =>
    cases kind? : definition.defKind? with
    | none => simpa [declareNominals, isNominal, kind?] using ih
    | some kind =>
      by_cases template : source.tree.isTemplate definition = true
      · simpa [declareNominals, isNominal, kind?, template] using ih
      · simp [declareNominals, isNominal, kind?, template, ih]

theorem declareNominals_cons (nominal : source.isNominal definition = true) (rest : List Definition) :
    ∃ kind, definition.defKind? = some kind ∧ source.declareNominals (definition :: rest) = do
      let declared ← source.declareNominal definition kind
      let others ← source.declareNominals rest
      return (declared.map (definition, ·)).toList ++ others := by
  obtain ⟨some_, plain⟩ := Bool.and_eq_true_iff.1 nominal
  obtain ⟨kind, found⟩ := Option.isSome_iff_exists.1 some_
  refine ⟨kind, found, ?_⟩
  rw [declareNominals, found]
  exact if_neg (by simpa using plain)

/-- The first of some names is free if all are. -/
theorem free_first {ctx : TypeContext} {rest : List Definition}
    (free : ctx.Free (namesOf (definition :: rest))) :
    definition.name = .empty ∨ ¬ ctx.Taken definition.name := by
  rw [namesOf_cons] at free
  split at free
  · rename_i anonymous
    exact .inl anonymous
  · exact .inr (TypeContext.free_cons.1 free).1

/-- Where a definition has taken its name, the names behind it are free if all were before. -/
theorem free_behind {ctx after : TypeContext}
    (free : definition.name = .empty ∨ ¬ ctx.Taken definition.name)
    (takes : ∀ name, after.Taken name ↔
      ctx.Taken name ∨ name = definition.name ∧ definition.name ≠ .empty)
    (rest : List Definition) :
    after.Free (namesOf rest) ↔ ctx.Free (namesOf (definition :: rest)) := by
  rw [namesOf_cons]
  split
  · rename_i anonymous
    simp only [TypeContext.Free, takes, anonymous, ne_eq, not_true_eq_false, and_false, or_false]
  · rename_i named
    rw [TypeContext.free_cons, and_iff_right (free.resolve_left named),
      TypeContext.free_after fun other => (takes other).trans
        (by rw [and_iff_left named] : _ ↔ _ ∨ other = definition.name), and_comm]

/-- What declaring nominal definitions comes to. All of them are declared exactly if their names are
free, and otherwise there is an error. In any case their names are taken then, and no others are. -/
structure Settles (before : Declaring) (nominals : List Definition)
    (declared : List (Definition × TypeId)) (after : Declaring) : Prop where
  takes : ∀ name, after.types.Taken name ↔ before.types.Taken name ∨ name ∈ namesOf nominals
  most : declared.length ≤ nominals.length
  free : before.types.Free (namesOf nominals) → declared.map Prod.fst = nominals
  taken : ¬ before.types.Free (namesOf nominals) →
    declared.length < nominals.length ∧ after.queue.hasErrors = true

theorem declareNominals_settles (nominals : List Definition) (indexes : Indexes state)
    (all : ∀ definition ∈ nominals, source.isNominal definition = true) :
    Settles state nominals ((source.declareNominals nominals).run state).1
      ((source.declareNominals nominals).run state).2 := by
  induction nominals generalizing state with
  | nil => exact ⟨fun name => by simp [namesOf]; rfl, Nat.le_refl 0, fun _ => rfl,
      fun taken => absurd ⟨.nil, nofun⟩ taken⟩
  | cons definition rest ih =>
    obtain ⟨nominal, others⟩ := List.forall_mem_cons.1 all
    obtain ⟨kind, -, steps⟩ := declareNominals_cons nominal rest
    by_cases refused : definition.name ≠ .empty ∧ state.types.Taken definition.name
    · obtain ⟨named, taken⟩ := refused
      obtain ⟨diag, isError, ran⟩ := source.declareNominal_taken kind named taken
      have whole : (source.declareNominals (definition :: rest)).run state =
          (source.declareNominals rest).run { state with queue := state.queue.push diag } := by
        rw [steps, run_bind_of ran]
        rfl
      have indexes' : Indexes { state with queue := state.queue.push diag } := indexes
      obtain ⟨takes, most, -, -⟩ := ih indexes' others
      obtain ⟨diags, -, pushed⟩ :=
        source.pushes_declareNominals rest { state with queue := state.queue.push diag }
      rw [whole]
      refine ⟨fun name => ?_, Nat.le_succ_of_le most, fun free => ?_, fun _ => ⟨Nat.lt_succ_of_le most, ?_⟩⟩
      · rw [takes, namesOf_cons, if_neg named, List.mem_cons]
        constructor
        · rintro (before | member)
          · exact .inl before
          · exact .inr (.inr member)
        · rintro (before | rfl | member)
          · exact .inl before
          · exact .inl taken
          · exact .inr member
      · rw [namesOf_cons, if_neg named] at free
        exact absurd taken (TypeContext.free_cons.1 free).1
      · rw [pushed]
        exact DiagnosticQueue.hasErrors_extend diags
          (DiagnosticQueue.hasErrors_push_of_isError isError)
    · have free : definition.name = .empty ∨ ¬ state.types.Taken definition.name := by tauto
      obtain ⟨ty, middle, ran, queue, indexes', takes'⟩ :=
        source.declareNominal_free kind indexes free
      obtain ⟨takes, most, frees, taken⟩ := ih indexes' others
      have whole : (source.declareNominals (definition :: rest)).run state =
          ((definition, ty) :: ((source.declareNominals rest).run middle).1,
            ((source.declareNominals rest).run middle).2) := by
        rw [steps, run_bind_of ran]
        rfl
      have same := free_behind free takes' rest
      rw [whole]
      refine ⟨fun name => ?_, Nat.succ_le_succ most, fun free' => ?_, fun taken' => ?_⟩
      · rw [takes, takes', namesOf_cons]
        split <;> simp_all [or_assoc]
      · exact congrArg (definition :: ·) (frees (same.2 free'))
      · obtain ⟨fewer, errors⟩ := taken (taken' ∘ same.1)
        exact ⟨Nat.succ_lt_succ fewer, errors⟩

/-! ### The pass -/

/-- The nominal definitions that the pass declares, with their types. -/
def declaredBy (source : ModuleSource) (types : TypeContext) (queue : DiagnosticQueue) :
    List (Definition × TypeId) :=
  ((source.declareNominals source.tree.topDefinitions).run { types, queue }).1

theorem declareModule_names {types : TypeContext} {queue : DiagnosticQueue}
    (fit : source.Fit { types, queue }) :
    (∀ name, types.Taken name ∨ name ∈ source.nominalNames →
      (declareModule source types queue).types.Taken name) ∧
    ((source.declaredBy types queue).map Prod.fst = source.nominals ↔
      types.Free source.nominalNames) ∧
    (¬ types.Free source.nominalNames → (declareModule source types queue).queue.hasErrors = true) := by
  have settled : Settles { types, queue } source.nominals (source.declaredBy types queue)
      ((source.declareNominals source.tree.topDefinitions).run { types, queue }).2 := by
    rw [declaredBy, declareNominals_filter]
    refine declareNominals_settles _ (fun name own => ?_) fun definition member => ?_
    · simp [Exports.declares] at own
    · exact (List.mem_filter.1 member).2
  obtain ⟨-, -, fit₁, pending⟩ := makes_declareNominals fit source.tree.topDefinitions
  obtain ⟨leads, -⟩ := makes_declareBehind fit₁ pending
  obtain ⟨diags, -, pushed⟩ := source.pushes_declareBehind (source.declaredBy types queue)
    ((source.declareNominals source.tree.topDefinitions).run { types, queue }).2
  refine ⟨fun name taken => leads.taken fit₁.types.sound ((settled.takes name).2 taken),
    ⟨fun all => by_contra fun taken => ?_, settled.free⟩, fun taken => ?_⟩
  · have fewer := (settled.taken taken).1
    have same := congrArg List.length all
    rw [List.length_map] at same
    omega
  · have whole : (declareModule source types queue).queue = DiagnosticQueue.extend _ diags := pushed
    rw [whole]
    exact DiagnosticQueue.hasErrors_extend diags (settled.taken taken).2

end ModuleSource

end FrontEnd
