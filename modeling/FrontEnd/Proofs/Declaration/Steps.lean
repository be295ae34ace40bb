import FrontEnd.Declaration.Pass
import FrontEnd.Proofs.Outcome

/-!
How the steps of the declaration pass run. Whatever the pass does between its declarations is put
together from a few kinds of steps: reporting an error, resolving a text, and adding the type of a
form. `Resolving` says so once for all of them, so that a fact about such steps is proved from these
alone.
-/

namespace FrontEnd

namespace ModuleSource

/-- What a name means where the pass stands. -/
def lookup? (source : ModuleSource) (exports : Exports) (text : String) : Option ScopeEntry :=
  Scope.lookup? ⟨source.names, exports, source.imports⟩ text

/-- Steps that are put together from reporting, resolving texts and adding types, and may read what
is exported so far. -/
inductive Resolving (source : ModuleSource) : {α : Type} → DeclareM α → Prop where
  | pure (value : α) : Resolving source (pure value)
  | report (err : DeclareError) (span : TokenSpan) : Resolving source (source.report err span)
  | text (text : String) (span : TokenSpan) : Resolving source (source.typeOfText text span)
  | intern (form : TypeForm) (plain : ∀ kind id, form ≠ .nominal kind id) :
    Resolving source (intern form)
  | exports {rest : Exports → DeclareM α} (each : ∀ exports, Resolving source (rest exports)) :
    Resolving source (do rest (← get).exports)
  | bind {steps : DeclareM α} {rest : α → DeclareM β} (first : Resolving source steps)
      (second : ∀ value, Resolving source (rest value)) : Resolving source (steps >>= rest)

variable {source : ModuleSource}

theorem resolving_mapM {steps : α → DeclareM β} (each : ∀ x, source.Resolving (steps x))
    (xs : List α) : source.Resolving (xs.mapM steps) := by
  induction xs with
  | nil => exact .pure []
  | cons x rest ih =>
    rw [List.mapM_cons]
    exact .bind (each x) fun first => .bind ih fun others => .pure _

/-! ### Types -/

theorem resolving_orError (span : TokenSpan) (result : Except DeclareError TypeId) :
    source.Resolving (source.orError span result) := by
  cases result with
  | ok ty => exact .pure ty
  | error err => exact .bind (.report err span) fun _ => .pure _

theorem resolving_statedType (stated : Option Name) (owner : Name) (span : TokenSpan) :
    source.Resolving (source.statedType stated owner span) := by
  cases stated with
  | some spelled => exact .text _ span
  | none => exact resolving_orError span (.error (.missingType (source.textOf owner)))

theorem resolving_resultType (stated : Option Name) (span : TokenSpan) :
    source.Resolving (source.resultType stated span) := by
  cases stated with
  | some spelled => exact .text _ span
  | none => exact .pure _

theorem resolving_parameterType (param : Definition) (isLast : Bool) :
    source.Resolving (source.parameterType param isLast) := by
  unfold parameterType
  rcases param.parameterText source.names isLast with err | ⟨text, _ | _⟩
  · exact .bind (resolving_orError _ _) fun ty => .pure _
  · exact .bind (.text _ _) fun ty => .pure _
  · exact .bind (.text _ _) fun element => .bind (.intern _ nofun) fun ty => .pure _

theorem resolving_parameterTypes (params : List Definition) :
    source.Resolving (source.parameterTypes params) := by
  induction params with
  | nil => exact .pure _
  | cons param rest ih =>
    exact .bind (resolving_parameterType param _) fun first => .bind ih fun others => .pure _

theorem resolving_signature (definition : Definition) :
    source.Resolving (source.signature definition) :=
  .bind (resolving_parameterTypes _) fun _ => .bind (resolving_resultType _ _) fun _ =>
    .intern _ nofun

/-! ### Parameters of templates -/

/-- What the default of a parameter refers to, by what its name means. -/
def defaultReference (source : ModuleSource) (spelled : Name) (span : TokenSpan)
    (entry : Option ScopeEntry) : DeclareM (Option TemplateArgument) :=
  match entry with
  | some (.template id) => return some (.template id)
  | _ => return some (.type (← source.typeOfText (source.textOf spelled) span))

theorem resolving_defaultReference (spelled : Name) (span : TokenSpan)
    (entry : Option ScopeEntry) :
    source.Resolving (source.defaultReference spelled span entry) := by
  unfold defaultReference
  split
  · exact .pure _
  · exact .bind (.text _ _) fun ty => .pure _

theorem resolving_defaultArgument (value : ItemId) (node : ItemNode) :
    source.Resolving (source.defaultArgument value node) := by
  have missing : ∀ err span, source.Resolving
      (do source.report err span; return (none : Option TemplateArgument)) :=
    fun err span => .bind (.report err span) fun _ => .pure none
  unfold defaultArgument
  split
  · split
    · exact missing _ _
    · split
      · exact .pure _
      · exact missing _ _
  · exact .pure _
  · rename_i spelled _
    exact .exports fun exports => resolving_defaultReference spelled node.span
      (source.lookup? exports (source.textOf spelled))
  · exact missing _ _

theorem resolving_parameterKind (sort : ParameterSort) (span : TokenSpan) :
    source.Resolving (source.parameterKind sort span) := by
  unfold parameterKind
  split
  · exact .pure _
  · exact .bind (.text _ _) fun ty => .pure _
  · exact .pure _

theorem resolving_templateParameter (param : Definition) :
    source.Resolving (source.templateParameter param) := by
  unfold templateParameter
  split
  · refine .bind (resolving_parameterKind _ _) fun kind => ?_
    split
    · exact .bind (resolving_defaultArgument _ _) fun given => .pure _
    · exact .pure _
  · exact .pure _

theorem resolving_templateParameters (definition : Definition) :
    source.Resolving (source.templateParameters definition) :=
  resolving_mapM resolving_templateParameter _

/-! ### Bodies -/

theorem resolving_member (field : Definition) : source.Resolving (source.member field) :=
  .bind (resolving_statedType _ _ _) fun _ => .pure _

theorem resolving_method (method : Definition) : source.Resolving (source.method method) :=
  .bind (resolving_signature method) fun _ => .pure _

theorem resolving_constantValue (constant : Definition) :
    source.Resolving (source.constantValue constant) := by
  unfold constantValue
  split
  · extract_lets node stated
    split
    · exact .bind (.report _ _) fun _ => .pure _
    · exact .pure _
  · exact .pure _

theorem resolving_bodyOf (definition : Definition) : source.Resolving (source.bodyOf definition) := by
  have types : ∀ names : List Name, source.Resolving
      (names.mapM fun spelled => source.typeOfName spelled definition.span) :=
    resolving_mapM fun spelled => Resolving.text _ _
  unfold bodyOf
  dsimp only
  split
  · rename_i _ base _ _ _ _
    have parent : source.Resolving
        (base.mapM fun spelled => source.typeOfName spelled definition.span) := by
      cases base with
      | none => exact .pure none
      | some spelled => exact .bind (.text _ _) fun ty => .pure _
    refine .bind (resolving_mapM resolving_member _) fun fields => ?_
    refine .bind parent fun ancestor => ?_
    refine .bind (types _) fun interfaces => ?_
    exact .bind (resolving_mapM resolving_method _) fun made => .pure _
  · refine .bind (types _) fun interfaces => ?_
    exact .bind (resolving_mapM resolving_method _) fun made => .pure _
  · have rest : ∀ (index : TypeId) (constants : List Definition), source.Resolving (do
        let constants ← constants.mapM fun constant => do
          return (constant.name, ← source.constantValue constant)
        return ({ indexType := some index
                  constants := EnumConstant.number constants } : DefBody)) := by
      intro index constants
      refine .bind (resolving_mapM (fun constant => ?_) _) fun made => .pure _
      exact .bind (resolving_constantValue constant) fun stated => .pure _
    split
    · exact .bind (.text _ _) fun index => rest index _
    · exact rest _ _
  · exact .bind (resolving_mapM resolving_member _) fun fields => .pure _
  · exact .pure _

end ModuleSource

end FrontEnd
