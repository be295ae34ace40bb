import Mathlib
import FrontEnd.Proofs.Declaration.Overtaking
import FrontEnd.Proofs.Declaration.Reordering

/-!
The order of declarations. The pass has nothing to report for a module exactly if it has nothing to
report for the same items in another order, as long as the templates keep their order, and the aliases
theirs, and the recursion limit is not met. A template may mention those before it only, so the order
of the templates matters.
-/

namespace FrontEnd

open TypeContext (Leads Retains)

variable {shift : Renaming}

namespace ModuleSource

variable {source : ModuleSource} {state one two : Declaring} {definition : Definition}
  {definitions definitions' : List Definition}

/-! ### Templates and aliases in one order -/

theorem retains_declareTemplate (definition : Definition) (indexed : state.types.Indexed) :
    Retains state.types ((source.declareTemplate definition).run state).2.types := by
  rw [declareTemplate_run]
  split
  · exact .refl indexed
  · split
    · exact .refl indexed
    · have adds := (source.resolving_templateParameters definition).adds indexed
      rcases ran : (source.templateParameters definition).run state with ⟨parameters, middle⟩
      rw [ran] at adds
      rw [run_bind_of ran]
      cases registered : middle.types.registerTemplate
          (source.templateOf definition parameters middle) with
      | error err =>
        rw [registerTemplate_error middle registered]
        exact adds.toRetains
      | ok made =>
        obtain ⟨id, types⟩ := made
        rw [registerTemplate_ok middle registered]
        obtain ⟨templates, -, rfl⟩ := TypeContext.registerTemplate_ok registered
        exact ⟨⟨adds.indexed.pool, adds.indexed.defs, adds.indexed.names⟩, adds.size, adds.old⟩

theorem retains_declareAlias (definition : Definition) (indexed : state.types.Indexed) :
    Retains state.types ((source.declareAlias definition).run state).2.types := by
  have start : (get : DeclareM Declaring).run state = (state, state) := rfl
  unfold declareAlias
  rw [run_bind_of start]
  split
  · exact .refl indexed
  · have resolving : source.Resolving (source.statedType definition.data.typeName definition.name
        definition.span) := resolving_statedType _ _ _
    exact (resolving.adds indexed).toRetains

theorem retains_forM {steps : α → DeclareM Unit}
    (each : ∀ x state, state.types.Indexed → Retains state.types ((steps x).run state).2.types)
    (xs : List α) (indexed : state.types.Indexed) :
    Retains state.types ((xs.forM steps).run state).2.types := by
  induction xs generalizing state with
  | nil => exact .refl indexed
  | cons x rest ih => exact (each x state indexed).trans (ih (each x state indexed).indexed)

/-- The second and third step of the pass. -/
def declareNames (source : ModuleSource) (templates aliases : List Definition) : DeclareM Unit := do
  templates.forM source.declareTemplate
  aliases.forM source.declareAlias

theorem retains_declareNames (templates aliases : List Definition) (indexed : state.types.Indexed) :
    Retains state.types ((source.declareNames templates aliases).run state).2.types := by
  have first : Retains state.types ((templates.forM source.declareTemplate).run state).2.types :=
    retains_forM (fun definition _ => retains_declareTemplate definition) templates indexed
  exact first.trans
    (retains_forM (fun definition _ => retains_declareAlias definition) aliases first.indexed)

theorem pushes_declareNames (templates aliases : List Definition) (state : Declaring) :
    Pushes (source.declareNames templates aliases) state :=
  pushes_bind (pushes_forM pushes_declareTemplate _ _) fun _ => pushes_forM pushes_declareAlias _

theorem makes_declareNames (fit : source.Fit state) (templates aliases : List Definition) :
    source.Makes state (source.declareNames templates aliases) :=
  makes_bind (makes_forM fit fun definition _ _ _ fit' => makes_declareTemplate fit' definition)
    fun _ _ _ fit' _ =>
      makes_forM fit' fun definition _ _ _ fit'' => makes_declareAlias fit'' definition

theorem follows_declareNames (trails : source.Trails shift one two)
    (templates aliases : List Definition) :
    source.Follows shift one two (source.declareNames templates aliases)
      (source.declareNames templates aliases) :=
  follows_bind
    (follows_forM pushes_declareTemplate
      (fun definition _ _ _ trails => follows_declareTemplate trails definition) templates trails)
    (fun _ => pushes_forM pushes_declareAlias _) (fun _ => pushes_forM pushes_declareAlias _)
    fun _ _ _ _ _ _ trails' _ => follows_forM pushes_declareAlias
      (fun definition _ _ _ trails => follows_declareAlias trails definition) aliases trails'

/-! ### The pass -/

theorem declareAll_eq (source : ModuleSource) (definitions : List Definition) :
    source.declareAll definitions = (do
      let pending ← source.declareNominals definitions
      source.declareNames (definitions.filter source.tree.isTemplate)
        (source.plainOf .typeAliasDefinition definitions)
      source.declareBodies pending (source.plainOf .functionDefinition definitions)) := by
  unfold declareAll declareNames declareBodies
  simp only [bind_assoc]

theorem pushes_declareBodies (pending : List (Definition × TypeId)) (functions : List Definition)
    (state : Declaring) : Pushes (source.declareBodies pending functions) state :=
  pushes_bind (pushes_forM (fun _ => pushes_defineNominal _ _) _ _) fun _ =>
    pushes_forM pushes_declareFunction _

/-- The start of the pass, where nothing is exported. -/
theorem chases_start {entries : List (Definition × TypeDef)} (fit : source.Fit state)
    (blank : state.exports = {}) (leads : Leads state.types two.types)
    (declared : source.Declared state entries two) : Chases .id state two entries := by
  have meant : ∀ name, state.exports.lookup? name = none := by
    intro name
    rw [blank]
    simp [Exports.lookup?]
  refine ⟨fit.types.behind.leads fit.types leads declared.adds.templates, fun name => ?_,
    fun name outside => ?_, fun made member id below => ?_⟩
  · rw [meant]
    exact known_none
  · rw [declared.others name outside, meant]
    rfl
  · have above := declared.fresh made member
    rintro rfl
    exact Nat.lt_irrefl _ (Nat.lt_of_lt_of_le below above)

/-- What imports export was given out before the pass, so that it is the same for all runs. -/
theorem Fit.imports (fit : source.Fit state) {outer : Extent}
    (agrees : Agrees state.types.extent .id shift) (within : state.types.extent.Within outer) :
    ∀ exports ∈ source.imports, exports.Mirrors outer shift exports := by
  intro exports member
  have inside := fit.scope exports (List.mem_cons_of_mem _ member)
  have known : ∀ name, Known state.types.extent (exports.lookup? name) := by
    intro name
    unfold Exports.lookup?
    cases found : exports.types[name]? with
    | some ty => exact known_some.2 (known_typeEntry.2 (inside name ty found))
    | none =>
      cases exports.templates[name]? with
      | some id => exact fun _ _ _ => rfl
      | none => exact known_none
  refine ⟨fun name => (known name).within within, fun name => ?_⟩
  exact (Renaming.image_id _).symm.trans (known name _ _ agrees)

/-- The names of nominal definitions are free where nothing is reported. -/
theorem free_of_silent {nominals : List Definition} (indexes : Indexes state)
    (all : ∀ definition ∈ nominals, source.isNominal definition = true)
    (silent : ((source.declareNominals nominals).run state).2.queue.kept = []) :
    state.types.Free (namesOf nominals) := by
  by_contra taken
  have errors := ((source.declareNominals_settles nominals indexes all).taken taken).2
  rw [DiagnosticQueue.hasErrors_iff, DiagnosticQueue.errorCount, silent] at errors
  exact Nat.lt_irrefl _ errors

theorem free_perm {ctx : TypeContext} {nominals nominals' : List Definition}
    (perm : nominals.Perm nominals') (free : ctx.Free (namesOf nominals')) :
    ctx.Free (namesOf nominals) := by
  have names : (namesOf nominals).Perm (namesOf nominals') := (perm.map _).filter _
  exact ⟨names.nodup_iff.2 free.1, fun name member => free.2 name (names.subset member)⟩

/-- Both runs declare the nominal definitions, each in its order. The first trails the second then,
and has the same types in hand. -/
theorem trails_declareNominals {nominals nominals' : List Definition} (fit : source.Fit state)
    (blank : state.exports = {}) (empty : state.queue.kept = [])
    (all : ∀ definition ∈ nominals', source.isNominal definition = true)
    (perm : nominals.Perm nominals')
    (silent : ((source.declareNominals nominals').run state).2.queue.kept = []) :
    ∃ entries entries' one two shift,
      (source.declareNominals nominals).run state = (entries.map withType, one) ∧
      (source.declareNominals nominals').run state = (entries'.map withType, two) ∧
      source.Trails shift one two ∧ source.Declared state entries one ∧
      source.Declared state entries' two ∧ Known one.types.extent (entries.map withType) ∧
      (shift.image (entries.map withType)).Perm (entries'.map withType) := by
  have indexes : Indexes state := by
    intro name own
    rw [blank] at own
    simp [Exports.declares] at own
  have indexed := fit.types.sound.indexed
  have all' : ∀ definition ∈ nominals, source.isNominal definition = true :=
    fun definition member => all definition (perm.subset member)
  have free' := free_of_silent indexes all silent
  have free := free_perm perm free'
  obtain ⟨entries', two, ran', same', -, declared'⟩ :=
    declareNominals_declared indexed indexes free' all
  obtain ⟨entries, one, ran, -, queue, declared⟩ :=
    declareNominals_declared indexed indexes free all'
  have leads := (makes_declareNominals fit nominals').leads
  rw [ran'] at leads
  obtain ⟨shift, pending, after, ran'', agrees, within, chases, known, perm'⟩ :=
    (chases_start fit blank leads declared').declareNominals declared'.toLists (same' ▸ perm)
      indexes free all'
  cases ran.symm.trans ran''
  exact ⟨entries, entries', one, two, shift, ran, ran',
    ⟨chases.types, chases.mirrors, fit.imports agrees within, queue ▸ empty⟩,
    declared, declared', known, perm'⟩

/-- Both runs give bodies and signatures, each in its order. Where the second has nothing to report,
neither has the first, which has the end of the second before it. -/
theorem declareBodies_silent {entries entries' : List (Definition × TypeDef)}
    {functions functions' : List Definition} (trails : source.Trails shift one two)
    (fit : source.Fit two) (bare : Bare one.types entries)
    (known : Known one.types.extent (entries.map withType))
    (image : (shift.image (entries.map withType)).Perm (entries'.map withType))
    (known' : Known two.types.extent (entries'.map withType))
    (live : AllLive two.types (entries'.map withType)) (perm : functions.Perm functions')
    (silent : ((source.declareBodies (entries'.map withType) functions').run two).2.queue.kept = []) :
    ((source.declareBodies (entries.map withType) functions).run one).2.queue.kept = [] ∨
      ((source.declareBodies (entries.map withType) functions).run one).2.queue.Halted := by
  obtain ⟨last, ended⟩ : ∃ last,
    ((source.declareBodies (entries'.map withType) functions').run two).2 = last := ⟨_, rfl⟩
  have quiet : last.queue.kept = [] := ended ▸ silent
  obtain ⟨leads, stays, defined, signed⟩ := ends_declareBodies fit known' live ended quiet
  have inHand : ∀ made ∈ entries, Known one.types.extent made.2.type := fun made member =>
    (known_pair.1 (known_list.1 known _ (List.mem_map_of_mem member))).2
  have bodies : ∀ made ∈ entries, source.Defined last made.1 (shift.types made.2.type) := by
    intro made member
    have listed : shift.image (withType made) ∈ shift.image (entries.map withType) :=
      List.mem_map_of_mem (List.mem_map_of_mem member)
    exact defined _ (image.subset listed)
  obtain halted | ⟨_, -, -, trails'⟩ :=
    (trails.overtaken fit.types leads stays).declareBodies bare inHand bodies
      (fun definition member => signed definition (perm.subset member)) quiet
  · exact .inr halted
  · exact .inl trails'.silent

/-- Where the pass has nothing to report, it has nothing to report for the same definitions in
another order of all but the templates and aliases, unless it meets the recursion limit. -/
theorem declareAll_silent (fit : source.Fit state) (blank : state.exports = {})
    (empty : state.queue.kept = []) (perm : definitions.Perm definitions')
    (templates : definitions.filter source.tree.isTemplate =
      definitions'.filter source.tree.isTemplate)
    (aliases : source.plainOf .typeAliasDefinition definitions =
      source.plainOf .typeAliasDefinition definitions')
    (silent : ((source.declareAll definitions').run state).2.queue.kept = []) :
    ((source.declareAll definitions).run state).2.queue.kept = [] ∨
      ((source.declareAll definitions).run state).2.queue.Halted := by
  rw [declareAll_eq, declareNominals_filter] at silent
  rw [declareAll_eq, declareNominals_filter, templates, aliases]
  have before := (pushes_bind (pushes_declareNames _ _ _) fun _ =>
    pushes_declareBodies _ _).silent silent
  obtain ⟨entries, entries', one, two, shift, ran, ran', trails, declared, declared', known, image⟩ :=
    trails_declareNominals fit blank empty (fun definition member => (List.mem_filter.1 member).2)
      (perm.filter source.isNominal) before
  obtain ⟨-, -, fit₁, known'⟩ :=
    makes_declareNominals fit (definitions'.filter source.isNominal)
  rw [ran'] at fit₁ known'
  rw [run_bind_of ran'] at silent
  rw [run_bind_of ran]
  -- Templates and aliases come in one order, so that both runs go through them side by side.
  generalize definitions'.filter source.tree.isTemplate = templates at silent ⊢
  generalize source.plainOf .typeAliasDefinition definitions' = aliases at silent ⊢
  have functions : (source.plainOf .functionDefinition definitions).Perm
    (source.plainOf .functionDefinition definitions') := perm.filter _
  obtain halted | ⟨next, agrees, within, trails', -, -⟩ :=
    follows_declareNames trails templates aliases ((pushes_declareBodies _ _ _).silent silent)
  · exact .inr (halted_bind halted fun _ => pushes_declareBodies _ _)
  have names := makes_declareNames fit₁ templates aliases
  have retains := source.retains_declareNames templates aliases trails.types.indexed
  have retains' := source.retains_declareNames templates aliases fit₁.types.sound.indexed
  have live : AllLive ((source.declareNames templates aliases).run two).2.types
      (entries'.map withType) := by
    refine List.forall_mem_map.2 fun made member => ⟨made.2, ?_, rfl⟩
    exact retains'.live (declared'.live made member)
  have bare : Bare one.types entries := ⟨declared.live, declared.bare, declared.apart⟩
  exact declareBodies_silent trails' names.fit (bare.retains retains) (known.within within)
    (known _ _ agrees ▸ image) (known'.within (fit₁.within names.leads)) live functions silent

/-! ### Modules -/

/-- The templates of a module, in their order. -/
def templates (source : ModuleSource) : List Definition :=
  source.tree.topDefinitions.filter source.tree.isTemplate

/-- The aliases of a module, in their order. -/
def aliases (source : ModuleSource) : List Definition :=
  source.plainOf .typeAliasDefinition source.tree.topDefinitions

/-- Another order of the items of a module, in which the templates and the aliases come in theirs. -/
structure Reorders (source : ModuleSource) (order : List ItemId) : Prop where
  perm : order.Perm (source.tree.children source.tree.root)
  templates : (source.withTop order).templates = source.templates
  aliases : (source.withTop order).aliases = source.aliases

theorem hasErrors_declareModule (source : ModuleSource) (types : TypeContext)
    {queue : DiagnosticQueue} (empty : queue.kept = []) :
    (declareModule source types queue).queue.hasErrors = true ↔
      (declareModule source types queue).queue.kept ≠ [] := by
  obtain ⟨diags, errors, pushed⟩ := queue_declareModule source types queue
  rw [pushed]
  exact DiagnosticQueue.hasErrors_extend_iff empty errors

/-- **The order of declarations does not matter**, as long as the templates keep theirs, and so do
the aliases: a module has an error exactly if it has one when its items come in another order, unless
one of the two runs meets the recursion limit. An instance that is there already does not count
towards that limit, so that a module may meet it in one order and not in another. -/
theorem order_of_declarations {config : TypeConfig} {types : TypeContext} {queue : DiagnosticQueue}
    {order : List ItemId} (reached : Leads { config } types)
    (imports : ∀ exports ∈ source.imports, exports.Inside types.extent) (empty : queue.kept = [])
    (free : source.tree.RootFree) (reorders : source.Reorders order)
    (unhalted : ¬ (declareModule source types queue).queue.Halted)
    (unhalted' : ¬ (declareModule (source.withTop order) types queue).queue.Halted) :
    (declareModule (source.withTop order) types queue).queue.hasErrors =
      (declareModule source types queue).queue.hasErrors := by
  have fit := fit_initial reached imports queue
  have perm := perm_topDefinitions free reorders.perm
  have below : ∀ definition ∈ (source.withTop order).tree.topDefinitions,
      definition.id ≠ source.tree.root :=
    fun definition member => below_topDefinitions free definition (perm.subset member)
  have templates := (filter_withTop below).symm.trans reorders.templates
  have aliases := (plainOf_withTop below .typeAliasDefinition).symm.trans reorders.aliases
  have ran : declareModule (source.withTop order) types queue = _ :=
    congrArg Prod.snd (declare_withTop free reorders.perm { types, queue })
  rw [Bool.eq_iff_iff, hasErrors_declareModule _ _ empty, hasErrors_declareModule _ _ empty]
  refine not_congr ⟨fun silent => ?_, fun silent => ?_⟩
  · rw [ran] at silent
    exact (declareAll_silent fit rfl empty perm.symm templates.symm aliases.symm silent).resolve_right
      unhalted
  · rw [ran] at unhalted' ⊢
    exact (declareAll_silent fit rfl empty perm templates aliases silent).resolve_right unhalted'

/-! ### Small modules -/

/-- Texts of small modules. -/
def smallTexts : Interner :=
  ["A", "B", "T", "a", "b", "u8", "B<T>"].foldl (fun names text => (names.intern text).2) .bare

/-- The name of one of the texts. -/
def smallText (text : String) : Name := (smallTexts.get? text).getD .empty

/-- A member of a type, in the definition of a number. -/
def smallMember (name type : String) (parent : Nat) : ItemNode :=
  ⟨.variableDefinition, default,
    .definition { name := smallText name, typeName := smallText type }, [], some ⟨parent⟩⟩

/-- A structure with some parts, in the module of a number. -/
def smallStructure (name : String) (parts : List ItemId) (parent : Nat) : ItemNode :=
  ⟨.structureDefinition, default, .definition { name := smallText name }, parts, some ⟨parent⟩⟩

/-- A template parameter that is a type, in a list of a number. -/
def smallParameter (name : String) (parent : Nat) : ItemNode :=
  ⟨.templateParameter, default, .templateParameter (smallText name) .type, [], some ⟨parent⟩⟩

/-- A list of one template parameter, in the definition of a number. -/
def smallParameters (parameter : ItemId) (parent : Nat) : ItemNode :=
  ⟨.templateParameterList, default, .none, [parameter], some ⟨parent⟩⟩

/-- A module with some items. -/
def smallModule (nodes : Array ItemNode) (top : List ItemId) : ModuleSource where
  names := smallTexts
  tree :=
    let all := nodes.push ⟨.module, default, .module .empty, top, none⟩
    { source := default, root := ⟨nodes.size⟩, nodes := all, deterministic := verdicts all }
  imports := []

/-- Two structures, of which the first has a member of the second. -/
def twoStructures : ModuleSource :=
  smallModule #[smallMember "b" "B" 1, smallStructure "A" [⟨0⟩] 4, smallMember "a" "u8" 3,
    smallStructure "B" [⟨2⟩] 4] [⟨1⟩, ⟨3⟩]

theorem kept_twoStructures : (declareModule twoStructures {} {}).queue.kept = [] ∧
    (declareModule (twoStructures.withTop [⟨3⟩, ⟨1⟩]) {} {}).queue.kept = [] := by
  constructor <;> cbv

/-- The two structures come in another order, and neither order has an error. -/
theorem order_of_declarations_of_twoStructures :
    (declareModule (twoStructures.withTop [⟨3⟩, ⟨1⟩]) {} {}).queue.hasErrors =
      (declareModule twoStructures {} {}).queue.hasErrors := by
  obtain ⟨kept, kept'⟩ := kept_twoStructures
  have unhalted : ∀ {queue : DiagnosticQueue}, queue.kept = [] → ¬ queue.Halted := by
    rintro queue kept ⟨diag, member, -⟩
    rw [kept] at member
    exact List.not_mem_nil member
  have reorders : twoStructures.Reorders [⟨3⟩, ⟨1⟩] := ⟨.swap _ _ _, by cbv, by cbv⟩
  exact order_of_declarations (.refl {}) (fun exports member => absurd member List.not_mem_nil) rfl
    (ItemTree.rootFree_of_nodes (by decide)) reorders (unhalted kept) (unhalted kept')

/-- Two structure templates, of which the first has a member of the second. -/
def twoTemplates : ModuleSource :=
  smallModule #[smallParameter "T" 1, smallParameters ⟨0⟩ 3, smallMember "b" "B<T>" 3,
    smallStructure "A" [⟨1⟩, ⟨2⟩] 8, smallParameter "T" 5, smallParameters ⟨4⟩ 7,
    smallMember "a" "T" 7, smallStructure "B" [⟨5⟩, ⟨6⟩] 8] [⟨3⟩, ⟨7⟩]

/-- A template may mention those before it, and not those behind it. -/
theorem templates_in_order :
    (declareModule twoTemplates {} {}).queue.errorCount = 1 ∧
      (declareModule (twoTemplates.withTop [⟨7⟩, ⟨3⟩]) {} {}).queue.errorCount = 0 := by
  constructor <;> cbv

end ModuleSource

end FrontEnd
