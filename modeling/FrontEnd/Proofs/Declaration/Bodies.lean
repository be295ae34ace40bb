import FrontEnd.Proofs.Declaration.Custody
import FrontEnd.Proofs.Declaration.Nominal

/-!
Definitions get bodies. The pass declares nominal definitions first and gives them their bodies last,
and what is declared for requests in between has a body when the request ends, or is gone. So
whatever errors are found, no definition is left without a body, and the types that are exported are
built from definitions that are not gone.
-/

namespace FrontEnd

open TypeContext (Lives Spares)

namespace Custody

variable {custody : Custody} {source : ModuleSource} {state : Declaring} {owed : List TypeId}
  {definition : Definition} {start before middle after : TypeContext}

/-- The account goes on, and what was in hand stays in hand. -/
structure Goes (custody : Custody) (before after : TypeContext) : Prop where
  fine : custody.fine after
  holds : ∀ ty, custody.holds before ty → custody.holds after ty

/-- The account is kept by declarations, too, and no definition is new without a body but those that
they declare. -/
structure Declares (custody : Custody) : Prop where
  indexed : ∀ {ctx}, custody.fine ctx → ctx.Indexed
  spares : ∀ {before after}, custody.onward before after → Spares before after
  grows : ∀ {ctx} form, custody.fine ctx → (∀ kind id, form ≠ .nominal kind id) →
    custody.onward ctx (ctx.intern form).2
  declare : ∀ {ctx after request entry}, custody.fine ctx →
    ctx.declare request = .ok (entry, after) →
    custody.Goes ctx after ∧ custody.holds after entry.type
  register : ∀ {ctx after template id}, custody.fine ctx →
    (∀ ty ∈ template.stated, custody.holds ctx ty) →
    ctx.registerTemplate template = .ok (id, after) → custody.Goes ctx after
  define : ∀ {ctx after ty body}, custody.fine ctx → ctx.define ty body = .ok after →
    custody.Goes ctx after

/-- The account was kept since the start, and every type that a name means is in hand. -/
structure Sees (custody : Custody) (source : ModuleSource) (start : TypeContext)
    (state : Declaring) : Prop where
  since : custody.Goes start state.types
  visible : ∀ exports ∈ state.exports :: source.imports, ∀ (name : Name) ty,
    exports.types[name]? = some ty → custody.holds state.types ty

/-- What holds of a pass between its steps: bodies are owed to some types only, and no name is
exported twice. -/
structure Stands (custody : Custody) (source : ModuleSource) (start : TypeContext)
    (owed : List TypeId) (state : Declaring) : Prop extends custody.Sees source start state where
  owes : state.types.Owes owed
  apart : ∀ name ∈ state.exports.types, name ∉ state.exports.templates

/-- The steps go on with the tables and leave the exports alone, and what they give is in hand. -/
structure Settles (custody : Custody) (state : Declaring) (steps : DeclareM α)
    (gives : α → List TypeId) : Prop where
  onward : custody.onward state.types (steps.run state).2.types
  exports : (steps.run state).2.exports = state.exports
  holds : ∀ ty ∈ gives (steps.run state).1, custody.holds (steps.run state).2.types ty

theorem Goes.trans (first : custody.Goes before middle) (second : custody.Goes middle after) :
    custody.Goes before after :=
  ⟨second.fine, fun ty holds => second.holds ty (first.holds ty holds)⟩

theorem Sees.fine (sees : custody.Sees source start state) : custody.fine state.types :=
  sees.since.fine

theorem Sees.goes (sees : custody.Sees source start state) {types : TypeContext}
    (goes : custody.Goes state.types types) : custody.Sees source start { state with types } where
  since := sees.since.trans goes
  visible exports member name ty found := goes.holds ty (sees.visible exports member name ty found)

theorem Sees.onward (sees : custody.Sees source start state) {types : TypeContext}
    (onward : custody.onward state.types types) : custody.Goes state.types types where
  fine := custody.fine_onward sees.fine onward
  holds _ holds := custody.holds_onward sees.fine onward holds

theorem Sees.settled (sees : custody.Sees source start state) {steps : DeclareM α}
    {gives : α → List TypeId} (settles : custody.Settles state steps gives) :
    custody.Sees source start (steps.run state).2 := by
  have after := sees.goes (sees.onward settles.onward)
  exact ⟨after.since, settles.exports ▸ after.visible⟩

/-- Other exports are seen if their types are in hand. -/
theorem Sees.exporting (sees : custody.Sees source start state) {exports : Exports}
    (own : ∀ (name : Name) ty, exports.types[name]? = some ty → custody.holds state.types ty) :
    custody.Sees source start { state with exports } where
  since := sees.since
  visible := List.forall_mem_cons.2 ⟨own, (List.forall_mem_cons.1 sees.visible).2⟩

theorem Sees.own (sees : custody.Sees source start state) (name : Name) (ty : TypeId)
    (found : state.exports.types[name]? = some ty) : custody.holds state.types ty :=
  sees.visible _ List.mem_cons_self name ty found

theorem Sees.covers (sees : custody.Sees source start state) :
    custody.Covers (Reading.ofScope ⟨source.names, state.exports, source.imports⟩) state.types where
  argument name argument found := by cases found
  lookup name ty found := by
    obtain ⟨exports, member, own, stored⟩ := Scope.lookup?_type found
    exact sees.visible exports member own ty stored

theorem Sees.grants (sees : custody.Sees source start state) (definition : Definition)
    (parameters : List TemplateParameter) :
    (source.templateScope definition parameters state).Grants (custody.holds state.types) where
  visible := sees.visible
  primitive _ small := custody.primitive sees.fine small

/-! ### Steps that resolve -/

section Steps

variable {steps : DeclareM α} {rest : α → DeclareM β} {gives : α → List TypeId}
  {gives' : β → List TypeId}

theorem settles_pure (sees : custody.Sees source start state) {value : α}
    (holds : ∀ ty ∈ gives value, custody.holds state.types ty) :
    custody.Settles state (pure value) gives :=
  ⟨custody.refl sees.fine, rfl, holds⟩

/-- What mentions no type is in hand. -/
theorem settles_nothing (sees : custody.Sees source start state) {value : α}
    (none_ : gives value = []) : custody.Settles state (pure value) gives :=
  settles_pure sees (by simp [none_])

theorem settles_bind (sees : custody.Sees source start state) (first : custody.Settles state steps gives)
    (second : ∀ value after, custody.Sees source start after → custody.onward state.types after.types →
      (∀ ty ∈ gives value, custody.holds after.types ty) →
      custody.Settles after (rest value) gives') :
    custody.Settles state (steps >>= rest) gives' := by
  have last := second (steps.run state).1 (steps.run state).2 (sees.settled first) first.onward
    first.holds
  exact ⟨custody.trans first.onward last.onward, last.exports.trans first.exports, last.holds⟩

/-- Steps that begin with the state know it. -/
theorem settles_get {rest : Declaring → DeclareM β}
    (next : custody.Settles state (rest state) gives') : custody.Settles state (get >>= rest) gives' :=
  ⟨next.onward, next.exports, next.holds⟩

theorem settles_mapM {steps : α → DeclareM β} (sees : custody.Sees source start state)
    (each : ∀ x state, custody.Sees source start state → custody.Settles state (steps x) gives')
    (xs : List α) : custody.Settles state (xs.mapM steps) (·.flatMap gives') := by
  induction xs generalizing state with
  | nil => exact settles_nothing sees rfl
  | cons x rest ih =>
    rw [List.mapM_cons]
    refine settles_bind sees (each x state sees) fun first middle sees _ holds => ?_
    refine settles_bind sees (ih sees) fun others last sees' onward all => ?_
    refine settles_pure sees' (List.forall_mem_append.2 ⟨fun ty member => ?_, all⟩)
    exact custody.holds_onward sees.fine onward (holds ty member)

theorem settles_report (sees : custody.Sees source start state) (err : DeclareError) (span : TokenSpan) :
    custody.Settles state (source.report err span) fun _ => [] :=
  ⟨custody.refl sees.fine, rfl, nofun⟩

theorem settles_text (sees : custody.Sees source start state) (text : String) :
    custody.Settles state (source.inScope fun scope => scope.resolveText text)
      (·.toOption.toList) := by
  obtain ⟨onward, holds⟩ := keeps_text text sees.fine sees.covers
  rw [Reading.resolveText_ofScope] at onward holds
  refine ⟨onward, rfl, fun ty member => holds ty ?_⟩
  rw [inScope_run] at member
  cases ran : (outcome (Scope.resolveText ⟨source.names, state.exports, source.imports⟩ text)
      state.types).1 with
  | ok own =>
    rw [ran] at member
    exact congrArg Except.ok (List.mem_singleton.1 member).symm
  | error err =>
    rw [ran] at member
    cases member

theorem settles_orError (sees : custody.Sees source start state) (span : TokenSpan)
    {result : Except DeclareError TypeId}
    (holds : ∀ ty ∈ result.toOption.toList, custody.holds state.types ty) :
    custody.Settles state (source.orError span result) fun ty => [ty] := by
  cases result with
  | ok ty => exact settles_pure sees holds
  | error err =>
    refine settles_bind sees (settles_report sees err span) fun _ after sees _ _ => ?_
    exact settles_pure sees (List.forall_mem_singleton.2 (custody.primitive sees.fine (by decide)))

theorem settles_typeOfText (sees : custody.Sees source start state) (text : String) (span : TokenSpan) :
    custody.Settles state (source.typeOfText text span) fun ty => [ty] :=
  settles_bind sees (settles_text sees text) fun _ _ sees _ holds => settles_orError sees span holds

/-- Resolving keeps the account. -/
theorem settles_resolving (declares : custody.Declares) (resolving : source.Resolving steps)
    (sees : custody.Sees source start state) : custody.Settles state steps fun _ => [] := by
  induction resolving generalizing state with
  | pure value => exact settles_nothing sees rfl
  | report err span => exact settles_report sees err span
  | text text span =>
    have settles := settles_typeOfText sees text span
    exact ⟨settles.onward, settles.exports, nofun⟩
  | intern form plain => exact ⟨declares.grows form sees.fine plain, rfl, nofun⟩
  | exports each ih => exact settles_get (ih state.exports sees)
  | bind first second ih ih' => exact settles_bind sees (ih sees) fun value _ sees _ _ => ih' value sees

end Steps

theorem settles_statedType (sees : custody.Sees source start state) (stated : Option Name) (owner : Name)
    (span : TokenSpan) : custody.Settles state (source.statedType stated owner span) fun ty => [ty] := by
  cases stated with
  | some spelled => exact settles_typeOfText sees _ span
  | none =>
    have none_ : ∀ ty ∈ (Except.error (.missingType (source.textOf owner)) :
        Except DeclareError TypeId).toOption.toList, custody.holds state.types ty := nofun
    exact settles_orError sees span none_

/-! ### Parameters of templates -/

/-- The types that an optional argument states. -/
private abbrev given (argument : Option TemplateArgument) : List TypeId :=
  argument.toList.flatMap TemplateArgument.stated

theorem settles_defaultArgument (sees : custody.Sees source start state) (value : ItemId)
    (node : ItemNode) : custody.Settles state (source.defaultArgument value node) given := by
  have missing : ∀ err span, custody.Settles state
      (do source.report err span; return (none : Option TemplateArgument)) given :=
    fun err span => settles_bind sees (settles_report sees err span) fun _ _ sees _ _ =>
      settles_nothing sees rfl
  have reference : ∀ spelled entry, custody.Settles state
      (source.defaultReference spelled node.span entry) given := by
    intro spelled entry
    unfold ModuleSource.defaultReference
    split
    · exact settles_nothing sees rfl
    · refine settles_bind sees (settles_typeOfText sees _ _) fun ty after sees _ holds => ?_
      exact settles_pure sees holds
  unfold ModuleSource.defaultArgument
  split
  · split
    · exact missing _ _
    · split
      · exact settles_nothing sees rfl
      · exact missing _ _
  · exact settles_nothing sees rfl
  · exact settles_get (reference _ _)
  · exact missing _ _

theorem settles_templateParameters (declares : custody.Declares) (sees : custody.Sees source start state)
    (definition : Definition) : custody.Settles state (source.templateParameters definition)
      (·.flatMap fun param => given param.default) := by
  refine settles_mapM sees (fun param state sees => ?_) _
  unfold ModuleSource.templateParameter
  split
  · refine settles_bind sees (settles_resolving declares (ModuleSource.resolving_parameterKind _ _)
      sees) fun kind middle sees _ _ => ?_
    split
    · exact settles_bind sees (settles_defaultArgument sees _ _) fun default after sees _ holds =>
        settles_pure sees holds
    · exact settles_nothing sees rfl
  · exact settles_nothing sees rfl

/-! ### Between the steps -/

theorem Stands.settled (stands : custody.Stands source start owed state) (declares : custody.Declares)
    {steps : DeclareM α} {gives : α → List TypeId} (settles : custody.Settles state steps gives) :
    custody.Stands source start owed (steps.run state).2 where
  toSees := stands.toSees.settled settles
  owes := stands.owes.spares (declares.spares settles.onward)
  apart := settles.exports ▸ stands.apart

theorem Stands.queue (stands : custody.Stands source start owed state) (queue : DiagnosticQueue) :
    custody.Stands source start owed { state with queue } :=
  ⟨⟨stands.since, stands.visible⟩, stands.owes, stands.apart⟩

theorem Stands.mono (stands : custody.Stands source start owed state) {more : List TypeId}
    (sub : owed ⊆ more) : custody.Stands source start more state :=
  ⟨stands.toSees, fun id entry live bare => sub (stands.owes id entry live bare), stands.apart⟩

/-- A type in hand is exported under a name that is free. -/
theorem Stands.addType (stands : custody.Stands source start owed state) {ty : TypeId}
    (free : state.exports.declares definition.name = false) (holds : custody.holds state.types ty) :
    custody.Stands source start owed
      { state with exports := state.exports.addType definition.name ty } := by
  have outside : state.exports.templates.contains definition.name = false :=
    (Bool.or_eq_false_iff.1 free).2
  refine ⟨stands.exporting fun name other found => ?_, stands.owes, fun name member => ?_⟩
  · simp only [Exports.addType, Std.HashMap.getElem?_insert] at found
    split at found
    · cases found
      exact holds
    · exact stands.own name other found
  · rcases Std.HashMap.mem_insert.1 member with same | member
    · intro other
      rw [← beq_iff_eq.1 same, ← Std.HashMap.contains_iff_mem] at other
      exact Bool.false_ne_true (outside.symm.trans other)
    · exact stands.apart name member

/-- A template is exported under a name that is free. -/
theorem Stands.addTemplate (stands : custody.Stands source start owed state) {id : TemplateId}
    (free : state.exports.declares definition.name = false) :
    custody.Stands source start owed
      { state with exports := state.exports.addTemplate definition.name id } := by
  have outside : state.exports.types.contains definition.name = false :=
    (Bool.or_eq_false_iff.1 free).1
  refine ⟨stands.exporting stands.own, stands.owes, fun name member other => ?_⟩
  rcases Std.HashMap.mem_insert.1 other with same | other
  · rw [← beq_iff_eq.1 same, ← Std.HashMap.contains_iff_mem] at member
    exact Bool.false_ne_true (outside.symm.trans member)
  · exact stands.apart name member other

theorem stands_forM {steps : α → DeclareM Unit}
    (each : ∀ x state, custody.Stands source start owed state →
      custody.Stands source start owed ((steps x).run state).2)
    (xs : List α) (stands : custody.Stands source start owed state) :
    custody.Stands source start owed ((xs.forM steps).run state).2 := by
  induction xs generalizing state with
  | nil => exact stands
  | cons x rest ih => exact ih (each x state stands)

/-! ### Declarations -/

/-- A definition that is declared is owed its body. -/
theorem stands_declareNominal (declares : custody.Declares)
    (stands : custody.Stands source start owed state) (definition : Definition) (kind : DefKind) :
    custody.Stands source start (((source.declareNominal definition kind).run state).1.toList ++ owed)
      ((source.declareNominal definition kind).run state).2 := by
  rw [ModuleSource.declareNominal_run]
  split
  · exact stands.queue _
  · rename_i free
    split
    · exact stands.queue _
    · rename_i entry types declared
      obtain ⟨goes, holds⟩ := declares.declare stands.fine declared
      have after : custody.Stands source start (entry.type :: owed) { state with types } :=
        ⟨stands.goes goes, stands.owes.declare declared, stands.apart⟩
      by_cases anonymous : definition.name = .empty
      · rw [if_pos anonymous]
        exact after
      · rw [if_neg anonymous]
        exact after.addType (Bool.eq_false_iff.2 fun taken => free ⟨anonymous, taken⟩) holds

theorem stands_declareNominals (declares : custody.Declares)
    (stands : custody.Stands source start owed state) (definitions : List Definition) :
    custody.Stands source start
      (((source.declareNominals definitions).run state).1.map Prod.snd ++ owed)
      ((source.declareNominals definitions).run state).2 := by
  induction definitions generalizing owed state with
  | nil => exact stands
  | cons definition rest ih =>
    unfold ModuleSource.declareNominals
    split
    · exact ih stands
    · rename_i kind _
      split
      · exact ih stands
      · have last := ih (stands_declareNominal declares stands definition kind)
        have among : ∀ (declared : Option TypeId) (others : List (Definition × TypeId)),
            others.map Prod.snd ++ (declared.toList ++ owed) ⊆
              ((declared.map (definition, ·)).toList ++ others).map Prod.snd ++ owed := by
          rintro (_ | own) others ty member
          · exact member
          · simp only [Option.toList, List.mem_append, List.mem_singleton, Option.map_some,
              List.map_append, List.map_cons, List.map_nil] at member ⊢
            tauto
        exact last.mono (among _ _)

theorem stands_registerTemplate (declares : custody.Declares)
    (stands : custody.Stands source start owed state)
    (free : state.exports.declares definition.name = false) {parameters : List TemplateParameter}
    (holds : ∀ ty ∈ parameters.flatMap fun param => given param.default,
      custody.holds state.types ty) :
    custody.Stands source start owed
      ((source.registerTemplate definition parameters).run state).2 := by
  have stated : ∀ ty ∈ (source.templateOf definition parameters state).stated,
      custody.holds state.types ty := by
    refine List.forall_mem_append.2 ⟨fun ty member => holds ty ?_,
      TemplateScope.body_stated (stands.grants definition parameters) _ _⟩
    obtain ⟨argument, listed, own⟩ := List.mem_flatMap.1 member
    obtain ⟨param, among, default⟩ := List.mem_filterMap.1 listed
    exact List.mem_flatMap.2 ⟨param, among, List.mem_flatMap.2
      ⟨argument, Option.mem_toList.2 default, own⟩⟩
  cases registered : state.types.registerTemplate
      (source.templateOf definition parameters state) with
  | ok made =>
    obtain ⟨id, types⟩ := made
    rw [ModuleSource.registerTemplate_ok state registered]
    have goes := declares.register stands.fine stated registered
    obtain ⟨templates, -, rfl⟩ := TypeContext.registerTemplate_ok registered
    have after : custody.Stands source start owed { state with types := { state.types with templates } } :=
      ⟨stands.goes goes, stands.owes, stands.apart⟩
    exact (after.addTemplate free).queue _
  | error err =>
    rw [ModuleSource.registerTemplate_error state registered]
    exact stands.queue _

theorem stands_declareTemplate (declares : custody.Declares) (definition : Definition)
    (state : Declaring) (stands : custody.Stands source start owed state) :
    custody.Stands source start owed ((source.declareTemplate definition).run state).2 := by
  rw [ModuleSource.declareTemplate_run]
  split
  · exact stands.queue _
  · rename_i free
    split
    · exact stands.queue _
    · have settles := settles_templateParameters declares stands.toSees definition
      refine stands_registerTemplate declares (stands.settled declares settles) ?_ settles.holds
      rw [settles.exports]
      exact Bool.eq_false_iff.2 free

theorem stands_declareAlias (declares : custody.Declares) (definition : Definition)
    (state : Declaring) (stands : custody.Stands source start owed state) :
    custody.Stands source start owed ((source.declareAlias definition).run state).2 := by
  have settles := settles_statedType stands.toSees definition.data.typeName definition.name
    definition.span
  have start : (get : DeclareM Declaring).run state = (state, state) := rfl
  unfold ModuleSource.declareAlias
  rw [run_bind_of start]
  split
  · exact stands.queue _
  · rename_i free
    refine (stands.settled declares settles).addType ?_ (settles.holds _ (List.mem_singleton.2 rfl))
    rw [settles.exports]
    exact Bool.eq_false_iff.2 free

/-- What is owed to a definition is settled when the pass defines it. -/
theorem stands_defineNominal (declares : custody.Declares) {ty : TypeId}
    (stands : custody.Stands source start (ty :: owed) state) (definition : Definition) :
    custody.Stands source start owed ((source.defineNominal definition ty).run state).2 := by
  have settled := stands.settled declares
    (settles_resolving declares (ModuleSource.resolving_bodyOf definition) stands.toSees)
  rcases ran : (source.bodyOf definition).run state with ⟨body, middle⟩
  rw [ran] at settled
  obtain ⟨refused, defines⟩ := settled.owes.define (declares.indexed settled.fine)
  have start : (get : DeclareM Declaring).run middle = (middle, middle) := rfl
  unfold ModuleSource.defineNominal
  rw [run_bind_of ran, run_bind_of start]
  cases defined : middle.types.define ty body with
  | ok types =>
    exact ⟨settled.goes (declares.define settled.fine defined), defines types defined,
      settled.apart⟩
  | error err =>
    exact ⟨⟨settled.since, settled.visible⟩, refused err defined, settled.apart⟩

theorem stands_declareFunction (declares : custody.Declares) (definition : Definition)
    (state : Declaring) (stands : custody.Stands source start owed state) :
    custody.Stands source start owed ((source.declareFunction definition).run state).2 := by
  have settled := stands.settled declares
    (settles_resolving declares (ModuleSource.resolving_signature definition) stands.toSees)
  exact ⟨settled.exporting settled.own, settled.owes, settled.apart⟩

/-! ### The pass -/

theorem stands_defineNominals (declares : custody.Declares) (pending : List (Definition × TypeId))
    (stands : custody.Stands source start (pending.map Prod.snd ++ owed) state) :
    custody.Stands source start owed
      ((pending.forM fun (definition, ty) => source.defineNominal definition ty).run state).2 := by
  induction pending generalizing state with
  | nil => exact stands
  | cons first rest ih => exact ih (stands_defineNominal declares stands first.1)

/-- The pass leaves no definition without a body. -/
theorem stands_declare (declares : custody.Declares) (stands : custody.Stands source start [] state) :
    custody.Stands source start [] (source.declare.run state).2 := by
  have nominals := stands_declareNominals declares stands source.tree.topDefinitions
  have templates := stands_forM (stands_declareTemplate declares)
    (source.tree.topDefinitions.filter source.tree.isTemplate) nominals
  have aliases := stands_forM (stands_declareAlias declares)
    (source.plainOf .typeAliasDefinition source.tree.topDefinitions) templates
  have defined := stands_defineNominals declares _ aliases
  exact stands_forM (stands_declareFunction declares)
    (source.plainOf .functionDefinition source.tree.topDefinitions) defined

end Custody

/-! ### Bodies, and types that live -/

namespace Custody

open TypeContext (Indexed Living)

/-- The account of bodies alone. -/
def bodies : Custody where
  fine := Indexed
  onward := Spares
  holds _ _ := True
  refl := .refl
  trans := .trans
  fine_onward _ spares := spares.indexed
  holds_onward _ _ _ := trivial
  primitive _ _ := trivial
  intern indexed _ _ := ⟨TypeContext.spares_intern indexed _, trivial⟩
  qualified quals indexed _ := ⟨TypeContext.spares_qualified indexed _ quals, trivial⟩
  specialize id indexed _ := ⟨TypeContext.specialize_spares indexed id _, fun _ _ => trivial⟩

theorem declares_bodies : bodies.Declares where
  indexed indexed := indexed
  spares spares := spares
  grows form indexed _ := TypeContext.spares_intern indexed form
  declare indexed declared :=
    ⟨⟨TypeContext.indexed_declare indexed declared, fun _ _ => trivial⟩, trivial⟩
  register indexed _ registered := by
    obtain ⟨templates, -, rfl⟩ := TypeContext.registerTemplate_ok registered
    exact ⟨⟨indexed.pool, indexed.defs, indexed.names⟩, fun _ _ => trivial⟩
  define indexed defined := by
    obtain ⟨_, registry, -, given, rfl⟩ := TypeContext.define_ok defined
    exact ⟨TypeContext.indexed_registry indexed given, fun _ _ => trivial⟩

/-- The account of the types that live. -/
def living : Custody where
  fine := Living
  onward before after := Spares before after ∧ after.Living
  holds := Lives
  refl living := ⟨.refl living.indexed, living⟩
  trans first second := ⟨first.1.trans second.1, second.2⟩
  fine_onward _ onward := onward.2
  holds_onward _ onward lives := lives.lasts onward.1.toLasts
  primitive living small := living.primitive _ small
  intern living plain parts :=
    ⟨living.intern _, TypeContext.lives_intern living.indexed.pool plain parts⟩
  qualified quals living lives :=
    ⟨living.qualified _ quals, lives.qualified living.indexed.pool quals⟩
  specialize id living all := by
    obtain ⟨living', lives⟩ := living.specialize id all
    exact ⟨⟨TypeContext.specialize_spares living.indexed id _, living'⟩, fun ty given =>
      lives ty (TypeContext.specialize_of_specializeType given)⟩

theorem declares_living : living.Declares where
  indexed living := living.indexed
  spares onward := onward.1
  grows form living _ := living.intern form
  declare living declared := by
    obtain ⟨lasts, lives⟩ := TypeContext.lasts_declare living.indexed declared
    have indexed := TypeContext.indexed_declare living.indexed declared
    obtain ⟨-, rfl⟩ := TypeContext.declare_ok declared
    exact ⟨⟨living.lasts lasts indexed rfl rfl, fun _ lives => lives.lasts lasts⟩, lives⟩
  register living stated registered := by
    obtain ⟨templates, given, rfl⟩ := TypeContext.registerTemplate_ok registered
    obtain ⟨-, -, -, found⟩ := TemplateRegistry.register_ok given
    have lasts : ∀ {ctx : TypeContext}, TypeContext.Lasts ctx { ctx with templates } :=
      ⟨.refl _, fun _ live => live⟩
    refine ⟨⟨⟨living.indexed.pool, living.indexed.defs, living.indexed.names⟩,
      fun ty small => (living.primitive ty small).lasts lasts, fun other template known => ?_,
      fun key ty found => (living.instances key ty found).lasts lasts⟩,
      fun _ lives => lives.lasts lasts⟩
    have stored := (found other).symm.trans known
    split at stored
    · cases stored
      exact fun ty member => (stated ty member).lasts lasts
    · exact (living.templates other template stored).lasts lasts
  define living defined := by
    obtain ⟨_, registry, -, given, rfl⟩ := TypeContext.define_ok defined
    have lasts := TypeContext.lasts_registry given
    have indexed := TypeContext.indexed_registry living.indexed given
    exact ⟨living.lasts lasts indexed rfl rfl, fun _ lives => lives.lasts lasts⟩

/-- The pass starts without exports. -/
theorem stands_start {custody : Custody} {source : ModuleSource} {start : TypeContext}
    (fine : custody.fine start) (queue : DiagnosticQueue) (whole : start.Whole) (imports : ∀ exports ∈ source.imports, ∀ (name : Name) ty,
      exports.types[name]? = some ty → custody.holds start ty) :
    custody.Stands source start [] { types := start, queue } where
  since := ⟨fine, fun _ holds => holds⟩
  visible := List.forall_mem_cons.2 ⟨fun name ty found => by simp at found, imports⟩
  owes := TypeContext.owes_nil.2 whole
  apart name member := by simp at member

end Custody

/-- Whatever a module declares and imports, every definition has a body again in the end, and no
name is exported both as a type and as a template. -/
theorem declareModule_whole {types : TypeContext} (source : ModuleSource) (queue : DiagnosticQueue)
    (indexed : types.Indexed) (whole : types.Whole) :
    (declareModule source types queue).types.Whole ∧
      ∀ name ∈ (declareModule source types queue).exports.types,
        name ∉ (declareModule source types queue).exports.templates := by
  have start : Custody.bodies.Stands source types [] { types, queue } :=
    Custody.stands_start indexed queue whole fun _ _ _ _ _ => trivial
  have stands := Custody.stands_declare Custody.declares_bodies start
  exact ⟨TypeContext.owes_nil.1 stands.owes, stands.apart⟩

/-- All types that are exported live. -/
def Exports.Live (exports : Exports) (ctx : TypeContext) : Prop :=
  ∀ (name : Name) ty, exports.types[name]? = some ty → ctx.Lives ty

/-- Where what is given out lives, and what the imports export, so do all types that the module
exports, and what lived before lives on. -/
theorem declareModule_live {types : TypeContext} (source : ModuleSource) (queue : DiagnosticQueue)
    (living : types.Living) (whole : types.Whole)
    (imports : ∀ exports ∈ source.imports, exports.Live types) :
    (declareModule source types queue).types.Living ∧
      (∀ ty, types.Lives ty → (declareModule source types queue).types.Lives ty) ∧
      (declareModule source types queue).exports.Live (declareModule source types queue).types := by
  have start : Custody.living.Stands source types [] { types, queue } :=
    Custody.stands_start living queue whole imports
  have stands := Custody.stands_declare Custody.declares_living start
  exact ⟨stands.fine, stands.since.holds, stands.own⟩

end FrontEnd
