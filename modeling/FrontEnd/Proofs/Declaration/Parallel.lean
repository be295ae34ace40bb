import FrontEnd.Proofs.Declaration.Steps
import FrontEnd.Proofs.Renaming.Template

/-!
Steps of two runs in parallel. The steps of the declaration pass treat all types alike: two runs that
have the same types in hand, under different numbers, are put together from the same steps and have
the same in hand afterwards. `Parallel` says so for the steps between the declarations, so that a
fact about two runs, or about the types that one run has in hand, is proved from single steps.
-/

namespace FrontEnd

instance : Renames Bool := .constant _

instance : Renames Int := .constant _

instance : Renames Name := .constant _

instance : Renames Definition := .constant _

instance : Renames ScopeEntry where
  image shift
    | .type ty => .type (shift.image ty)
    | .template id => .template id
  image_id entry := by cases entry <;> simp
  image_image first second entry := by cases entry <;> simp

variable {extent : Extent} {shift : Renaming}

@[simp] theorem image_typeEntry (ty : TypeId) :
    shift.image (ScopeEntry.type ty) = .type (shift.types ty) := rfl

@[simp] theorem image_templateEntry (id : TemplateId) :
    shift.image (ScopeEntry.template id) = .template id := rfl

@[simp] theorem known_typeEntry {ty : TypeId} :
    Known extent (ScopeEntry.type ty) ↔ Known extent ty := by simp [Known]

theorem known_integer (value : Option Int) : Known extent value := by
  cases value with
  | none => exact known_none
  | some number => exact fun _ _ _ => rfl

/-- Names and numbers stay. -/
theorem image_constants (constants : List (Name × Option Int)) :
    shift.image constants = constants := by
  induction constants with
  | nil => rfl
  | cons constant rest ih =>
    rw [image_cons, ih]
    obtain ⟨name, _ | value⟩ := constant <;> rfl

namespace ModuleSource

/-- Steps of two runs that are put together in the same way. What the first has in hand is known, and
the second has the same under the new numbers. -/
inductive Parallel (source : ModuleSource) : {α : Type} → [Renames α] → Extent → Renaming →
    DeclareM α → DeclareM α → Prop where
  | pure [Renames α] {extent : Extent} {shift : Renaming} (value : α) (known : Known extent value) :
    Parallel source extent shift (pure value) (pure (shift.image value))
  | primitive {extent : Extent} {shift : Renaming} {ty : TypeId}
      (small : ty.index < TypeId.primitiveCount) :
    Parallel source extent shift (pure ty) (pure ty)
  | report {extent : Extent} {shift : Renaming} (err : DeclareError) (span : TokenSpan) :
    Parallel source extent shift (source.report err span) (source.report err span)
  | text {extent : Extent} {shift : Renaming} (text : String) (span : TokenSpan) :
    Parallel source extent shift (source.typeOfText text span) (source.typeOfText text span)
  | intern {extent : Extent} {shift : Renaming} {form : TypeForm}
      (plain : ∀ kind id, form ≠ .nominal kind id) (known : Known extent form) :
    Parallel source extent shift (intern form) (intern (shift.image form))
  | lookup [Renames α] {extent : Extent} {shift : Renaming} (text : String)
      {rest : Option ScopeEntry → DeclareM α} (only : ∀ entry, source.Resolving (rest entry))
      (each : ∀ entry, Known extent entry →
        Parallel source extent shift (rest entry) (rest (shift.image entry))) :
    Parallel source extent shift (do rest (source.lookup? (← get).exports text))
      (do rest (source.lookup? (← get).exports text))
  | bind [Renames α] [Renames β] {extent : Extent} {shift : Renaming} {steps steps' : DeclareM α}
      {rest rest' : α → DeclareM β} (first : Parallel source extent shift steps steps')
      (only : ∀ value, source.Resolving (rest value))
      (only' : ∀ value, source.Resolving (rest' value))
      (second : ∀ next outer value, Agrees extent shift next → extent.Within outer →
        Known outer value → Parallel source outer next (rest value) (rest' (next.image value))) :
    Parallel source extent shift (steps >>= rest) (steps' >>= rest')

variable {source : ModuleSource}

/-- The steps of the first run resolve and add types, and so do those of the second. -/
theorem Parallel.resolving [Renames α] {steps steps' : DeclareM α}
    (parallel : source.Parallel extent shift steps steps') :
    source.Resolving steps ∧ source.Resolving steps' := by
  induction parallel with
  | pure value known => exact ⟨.pure _, .pure _⟩
  | primitive small => exact ⟨.pure _, .pure _⟩
  | report err span => exact ⟨.report err span, .report err span⟩
  | text text span => exact ⟨.text text span, .text text span⟩
  | intern plain known =>
    refine ⟨.intern _ plain, .intern _ fun kind id same => ?_⟩
    rename_i form
    cases form with
    | nominal own other => exact plain own other rfl
    | _ => cases same
  | lookup text only each ih =>
    have reads := Resolving.exports fun exports => only (source.lookup? exports text)
    exact ⟨reads, reads⟩
  | bind first only only' second ih ih' => exact ⟨.bind ih.1 only, .bind ih.2 only'⟩

/-- Steps that both go on in the same way. -/
theorem Parallel.andThen [Renames α] [Renames β] {steps steps' : DeclareM α}
    {rest : α → DeclareM β} (first : source.Parallel extent shift steps steps')
    (only : ∀ value, source.Resolving (rest value))
    (second : ∀ next outer value, Agrees extent shift next → extent.Within outer →
      Known outer value → source.Parallel outer next (rest value) (rest (next.image value))) :
    source.Parallel extent shift (steps >>= rest) (steps' >>= rest) :=
  .bind first only only second

/-- A value that is made of what the first steps give. -/
theorem Parallel.give [Renames α] [Renames β] {steps steps' : DeclareM α} {wrap : α → β}
    (first : source.Parallel extent shift steps steps')
    (natural : ∀ (next : Renaming) value, wrap (next.image value) = next.image (wrap value))
    (known : ∀ outer value, Known outer value → Known outer (wrap value)) :
    source.Parallel extent shift (do return wrap (← steps)) (do return wrap (← steps')) := by
  refine first.andThen (fun _ => .pure _) fun next outer value _ _ inner => ?_
  rw [natural]
  exact .pure _ (known outer value inner)

theorem parallel_mapM [Renames β] {steps : α → DeclareM β}
    (only : ∀ x, source.Resolving (steps x))
    (each : ∀ x extent shift, source.Parallel extent shift (steps x) (steps x)) (xs : List α) :
    source.Parallel extent shift (xs.mapM steps) (xs.mapM steps) := by
  induction xs generalizing extent shift with
  | nil => exact .pure _ known_nil
  | cons x rest ih =>
    rw [List.mapM_cons]
    refine (each x extent shift).andThen
      (fun first => .bind (resolving_mapM only rest) fun _ => .pure _)
      fun next outer first _ _ known => ?_
    refine ih.bind (fun _ => .pure _) (fun _ => .pure _)
      fun last whole others agrees within known' => ?_
    rw [known _ _ agrees]
    exact .pure (first :: others) (known_cons.2 ⟨known.within within, known'⟩)

/-! ### Types -/

theorem parallel_missing (err : DeclareError) (span : TokenSpan) :
    source.Parallel extent shift (source.orError span (.error err))
      (source.orError span (.error err)) :=
  (Parallel.report err span).andThen (fun _ => .pure _) fun _ _ _ _ _ _ => .primitive (by decide)

theorem parallel_statedType (stated : Option Name) (owner : Name) (span : TokenSpan) :
    source.Parallel extent shift (source.statedType stated owner span)
      (source.statedType stated owner span) := by
  cases stated with
  | some spelled => exact .text _ span
  | none => exact parallel_missing _ span

theorem parallel_resultType (stated : Option Name) (span : TokenSpan) :
    source.Parallel extent shift (source.resultType stated span)
      (source.resultType stated span) := by
  cases stated with
  | some spelled => exact .text _ span
  | none => exact .primitive (by decide)

theorem parallel_parameterType (param : Definition) (isLast : Bool) :
    source.Parallel extent shift (source.parameterType param isLast)
      (source.parameterType param isLast) := by
  have flagged : ∀ (flag : Bool) extent (ty : TypeId), Known extent ty → Known extent (ty, flag) :=
    fun flag extent ty known => known_pair.2 ⟨known, fun _ _ _ => rfl⟩
  unfold parameterType
  rcases param.parameterText source.names isLast with err | ⟨text, _ | _⟩
  · exact (parallel_missing err _).give (fun _ _ => rfl) (flagged false)
  · exact (Parallel.text text _).give (fun _ _ => rfl) (flagged false)
  · refine (Parallel.text text _).andThen (fun _ => .bind (.intern _ nofun) fun _ => .pure _)
      fun next outer element _ _ known => ?_
    have made : source.Parallel outer next (intern (.slice element))
        (intern (.slice (next.image element))) :=
      .intern (fun _ _ => nofun) (known_slice.2 known)
    exact made.give (fun _ _ => rfl) (flagged true)

theorem parallel_parameterTypes (params : List Definition) :
    source.Parallel extent shift (source.parameterTypes params) (source.parameterTypes params) := by
  induction params generalizing extent shift with
  | nil => exact .pure _ (known_pair.2 ⟨known_nil, fun _ _ _ => rfl⟩)
  | cons param rest ih =>
    refine (parallel_parameterType param _).andThen
      (fun _ => .bind (resolving_parameterTypes rest) fun _ => .pure _)
      fun next outer ⟨first, variadic⟩ _ _ known => ?_
    refine ih.bind (fun _ => .pure _) (fun _ => .pure _)
      fun last whole ⟨others, more⟩ agrees within known' => ?_
    obtain ⟨given, -⟩ := known_pair.1 known
    dsimp only [image_pair]
    rw [given _ _ agrees]
    exact .pure (first :: others, variadic || more) (known_pair.2
      ⟨known_cons.2 ⟨given.within within, (known_pair.1 known').1⟩, fun _ _ _ => rfl⟩)

theorem parallel_signature (definition : Definition) :
    source.Parallel extent shift (source.signature definition) (source.signature definition) := by
  refine (parallel_parameterTypes _).andThen
    (fun _ => .bind (resolving_resultType _ _) fun _ => .intern _ (fun _ _ => nofun))
    fun next outer ⟨parameters, variadic⟩ _ _ known => ?_
  refine (parallel_resultType _ _).bind (fun _ => .intern _ (fun _ _ => nofun))
    (fun _ => .intern _ (fun _ _ => nofun)) fun last whole result agrees within known' => ?_
  obtain ⟨given, -⟩ := known_pair.1 known
  dsimp only
  rw [given _ _ agrees]
  exact .intern (fun _ _ => nofun) (known_function.2 ⟨given.within within, known'⟩)

/-! ### Parameters of templates -/

theorem parallel_defaultArgument (value : ItemId) (node : ItemNode) :
    source.Parallel extent shift (source.defaultArgument value node)
      (source.defaultArgument value node) := by
  have missing : ∀ err span, source.Parallel extent shift
      (do source.report err span; return (none : Option TemplateArgument))
      (do source.report err span; return (none : Option TemplateArgument)) :=
    fun err span => (Parallel.report err span).andThen (fun _ => .pure _)
      fun _ _ _ _ _ _ => .pure _ known_none
  have spelled : ∀ text span, source.Parallel extent shift
      (do return some (.type (← source.typeOfText text span)) : DeclareM (Option TemplateArgument))
      (do return some (.type (← source.typeOfText text span))) :=
    fun text span => (Parallel.text text span).give (fun _ _ => rfl)
      fun _ _ known => known_some.2 (known_typeArgument.2 known)
  unfold defaultArgument
  split
  · split
    · exact missing _ _
    · split
      · exact .pure _ (known_some.2 known_valueArgument)
      · exact missing _ _
  · exact .pure _ (known_some.2 known_valueArgument)
  · rename_i name _
    have meant : ∀ entry, Known extent entry → source.Parallel extent shift
        (source.defaultReference name node.span entry)
        (source.defaultReference name node.span (shift.image entry)) := by
      rintro (_ | _ | id) _
      · exact spelled _ _
      · exact spelled _ _
      · exact .pure _ (known_some.2 known_templateArgument)
    exact .lookup (source.textOf name) (resolving_defaultReference name node.span) meant
  · exact missing _ _

theorem parallel_parameterKind (sort : ParameterSort) (span : TokenSpan) :
    source.Parallel extent shift (source.parameterKind sort span)
      (source.parameterKind sort span) := by
  unfold parameterKind
  split
  · exact .pure _ fun _ _ _ => rfl
  · exact (Parallel.text _ span).give (fun _ _ => rfl) fun _ _ => known_valueParam.2
  · exact .pure _ fun _ _ _ => rfl

theorem parallel_templateParameter (param : Definition) :
    source.Parallel extent shift (source.templateParameter param)
      (source.templateParameter param) := by
  unfold templateParameter
  split
  · refine (parallel_parameterKind _ _).andThen (fun kind => ?_)
      fun next outer kind _ _ known => ?_
    · split
      · exact .bind (resolving_defaultArgument _ _) fun _ => .pure _
      · exact .pure _
    · split
      · refine (parallel_defaultArgument _ _).bind (fun _ => .pure _) (fun _ => .pure _)
          fun last whole given agrees within known' => ?_
        rw [known _ _ agrees]
        exact .pure _ (known_parameter.2 ⟨known.within within, known'⟩)
      · exact .pure _ (known_parameter.2 ⟨known, known_none⟩)
  · exact .pure _ (known_parameter.2 ⟨fun _ _ _ => rfl, known_none⟩)

theorem parallel_templateParameters (definition : Definition) :
    source.Parallel extent shift (source.templateParameters definition)
      (source.templateParameters definition) :=
  parallel_mapM resolving_templateParameter (fun param _ _ => parallel_templateParameter param) _

/-! ### Bodies -/

theorem parallel_member (field : Definition) :
    source.Parallel extent shift (source.member field) (source.member field) :=
  (parallel_statedType _ _ _).give (fun _ _ => rfl) fun _ _ => known_member.2

theorem parallel_method (method : Definition) :
    source.Parallel extent shift (source.method method) (source.method method) :=
  (parallel_signature method).give (fun _ _ => rfl) fun _ _ => known_method.2

theorem parallel_constantValue (constant : Definition) :
    source.Parallel extent shift (source.constantValue constant)
      (source.constantValue constant) := by
  unfold constantValue
  split
  · extract_lets node stated
    have same : shift.image stated = stated := by cases stated <;> rfl
    split
    · refine (Parallel.report _ _).andThen (fun _ => .pure _) fun next outer _ _ _ _ => ?_
      have same : next.image stated = stated := by cases stated <;> rfl
      have given : source.Parallel outer next (pure stated) (pure (next.image stated)) :=
        .pure stated (known_integer stated)
      rwa [same] at given
    · have given : source.Parallel extent shift (pure stated) (pure (shift.image stated)) :=
        .pure stated (known_integer stated)
      rwa [same] at given
  · exact .pure _ known_none

theorem parallel_typesOf (names : List Name) (span : TokenSpan) :
    source.Parallel extent shift (names.mapM fun spelled => source.typeOfName spelled span)
      (names.mapM fun spelled => source.typeOfName spelled span) :=
  parallel_mapM (fun _ => .text _ span) (fun _ _ _ => .text _ span) names

theorem parallel_members (fields : List ItemId) :
    source.Parallel extent shift ((source.tree.definitions fields).mapM source.member)
      ((source.tree.definitions fields).mapM source.member) :=
  parallel_mapM resolving_member (fun field _ _ => parallel_member field) _

theorem parallel_methods (methods : List ItemId) :
    source.Parallel extent shift ((source.tree.definitions methods).mapM source.method)
      ((source.tree.definitions methods).mapM source.method) :=
  parallel_mapM resolving_method (fun method _ _ => parallel_method method) _

/-- The last step for a body with methods. -/
theorem resolving_withMethods (methods : List ItemId) (wrap : List Method → DefBody) :
    source.Resolving
      (do return wrap (← (source.tree.definitions methods).mapM source.method)) :=
  .bind (resolving_mapM resolving_method _) fun _ => .pure _

/-- The type that a class extends. -/
def baseType (source : ModuleSource) (base : Option Name) (span : TokenSpan) :
    DeclareM (Option TypeId) :=
  base.mapM fun spelled => source.typeOfName spelled span

theorem resolving_baseType (base : Option Name) (span : TokenSpan) :
    source.Resolving (source.baseType base span) := by
  cases base with
  | none => exact .pure none
  | some spelled => exact .bind (.text _ _) fun ty => .pure _

theorem parallel_baseType (base : Option Name) (span : TokenSpan) :
    source.Parallel extent shift (source.baseType base span) (source.baseType base span) := by
  cases base with
  | none => exact .pure _ known_none
  | some spelled => exact (Parallel.text _ _).give (fun _ _ => rfl) fun _ _ => known_some.2

theorem parallel_classBody (base : Option Name) (interfaces : List Name)
    (fields methods : List ItemId) (span : TokenSpan) :
    let steps : DeclareM DefBody := do
      let members ← (source.tree.definitions fields).mapM source.member
      let base ← source.baseType base span
      let interfaces ← interfaces.mapM fun spelled => source.typeOfName spelled span
      return { members, base, interfaces
               methods := ← (source.tree.definitions methods).mapM source.method }
    source.Parallel extent shift steps steps := by
  have last : ∀ members base, source.Resolving (do
      let interfaces ← interfaces.mapM fun spelled => source.typeOfName spelled span
      return ({ members, base, interfaces
                methods := ← (source.tree.definitions methods).mapM source.method } : DefBody)) :=
    fun _ _ => .bind (resolving_mapM (fun _ => .text _ _) _) fun _ => resolving_withMethods _ _
  refine (parallel_members _).andThen (fun _ => .bind (resolving_baseType _ _) fun _ => last _ _)
    fun next₁ outer₁ members _ _ known₁ => ?_
  refine (parallel_baseType _ _).bind (fun _ => last _ _) (fun _ => last _ _)
    fun next₂ outer₂ base agrees₂ within₂ known₂ => ?_
  refine (parallel_typesOf _ _).bind (fun _ => resolving_withMethods _ _)
    (fun _ => resolving_withMethods _ _) fun next₃ outer₃ interfaces agrees₃ within₃ known₃ => ?_
  refine (parallel_methods _).bind (fun _ => .pure _) (fun _ => .pure _)
    fun next₄ outer₄ methods agrees₄ within₄ known₄ => ?_
  rw [known₁ _ _ agrees₂, (known₁.within within₂) _ _ agrees₃,
    (known₁.within (within₂.trans within₃)) _ _ agrees₄, known₂ _ _ agrees₃,
    (known₂.within within₃) _ _ agrees₄, known₃ _ _ agrees₄]
  exact .pure { members, base, interfaces, methods } (known_body.2
    ⟨known₁.within (within₂.trans (within₃.trans within₄)), known₄, known_nil,
      known₂.within (within₃.trans within₄), known₃.within within₄, known_none⟩)

theorem parallel_interfaceBody (interfaces : List Name) (methods : List ItemId)
    (span : TokenSpan) :
    let steps : DeclareM DefBody := do
      let interfaces ← interfaces.mapM fun spelled => source.typeOfName spelled span
      return { interfaces, methods := ← (source.tree.definitions methods).mapM source.method }
    source.Parallel extent shift steps steps := by
  refine (parallel_typesOf _ _).andThen (fun _ => resolving_withMethods _ _)
    fun next outer interfaces _ _ known => ?_
  refine (parallel_methods _).bind (fun _ => .pure _) (fun _ => .pure _)
    fun last whole methods agrees within known' => ?_
  rw [known _ _ agrees]
  exact .pure { interfaces, methods } (known_body.2
    ⟨known_nil, known', known_nil, known_none, known.within within, known_none⟩)

/-- The body of an enumeration over an index type. -/
def enumBody (source : ModuleSource) (constants : List ItemId) (index : TypeId) :
    DeclareM DefBody := do
  let constants ← (source.tree.definitions constants).mapM fun constant => do
    return (constant.name, ← source.constantValue constant)
  return { indexType := some index, constants := EnumConstant.number constants }

theorem resolving_namedConstant (constant : Definition) :
    source.Resolving (do return (constant.name, ← source.constantValue constant)) :=
  .bind (resolving_constantValue constant) fun _ => .pure _

theorem resolving_enumBody (constants : List ItemId) (index : TypeId) :
    source.Resolving (source.enumBody constants index) :=
  .bind (resolving_mapM resolving_namedConstant _) fun _ => .pure _

theorem parallel_enumBody (constants : List ItemId) {index : TypeId} (known : Known extent index) :
    source.Parallel extent shift (source.enumBody constants index)
      (source.enumBody constants (shift.image index)) := by
  refine (parallel_mapM resolving_namedConstant (fun constant _ _ =>
    (parallel_constantValue constant).give (fun _ _ => rfl)
      fun _ _ known => known_pair.2 ⟨fun _ _ _ => rfl, known⟩) _).bind
    (fun _ => .pure _) (fun _ => .pure _) fun next outer constants agrees within _ => ?_
  rw [known _ _ agrees, image_constants]
  exact .pure { indexType := some index, constants := EnumConstant.number constants }
    (known_body.2 ⟨known_nil, known_nil, known_nil, known_none, known_nil,
      known_some.2 (known.within within)⟩)

theorem parallel_bodyOf (definition : Definition) :
    source.Parallel extent shift (source.bodyOf definition) (source.bodyOf definition) := by
  unfold bodyOf
  dsimp only
  split
  · exact parallel_classBody _ _ _ _ _
  · exact parallel_interfaceBody _ _ _
  · split
    · exact (Parallel.text _ _).andThen (resolving_enumBody _)
        fun next outer index _ _ known => parallel_enumBody _ known
    · have start : source.Parallel extent shift (pure TypeId.i32) (pure TypeId.i32) :=
        .primitive (by decide)
      exact start.andThen (resolving_enumBody _)
        fun next outer index _ _ known => parallel_enumBody _ known
  · exact (parallel_members _).give (fun _ _ => rfl) fun _ _ known => known_body.2
      ⟨known, known_nil, known_nil, known_none, known_nil, known_none⟩
  · exact .pure _ (known_body.2 ⟨known_nil, known_nil, known_nil, known_none, known_nil, known_none⟩)

end ModuleSource

end FrontEnd
