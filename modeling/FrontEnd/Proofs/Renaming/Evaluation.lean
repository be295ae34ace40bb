import FrontEnd.Proofs.Renaming.Context
import FrontEnd.Proofs.Specialization.Steps

/-!
Evaluation in two requests that are related up to a renaming. Step for step, a renamed expression is
evaluated like the other, if adding types and applying templates keep the relation. One such relation
is that both requests are the same up to a renaming: then each fails where the other fails.
-/

namespace FrontEnd

namespace Specializer

variable {shift next : Renaming} {one two : Specializer} {key : SpecializationKey}

/-! ### Steps that keep a relation -/

/-- Two outcomes are the same up to a renaming that goes on from an earlier one, and the states left
behind are related under it. A failure of the first that is excused says nothing about the second. -/
def Carries [Renames α] (relates : Renaming → Specializer → Specializer → Prop)
    (excused : TypeError → Prop) (shift : Renaming) (before : Specializer)
    (first second : Except TypeError α × Specializer) : Prop :=
  (∃ err, excused err ∧ first.1 = .error err) ∨
  ∃ next, Agrees before.context.extent shift next ∧
    before.context.extent.Within first.2.context.extent ∧ relates next first.2 second.2 ∧
    Known first.2.context.extent first.1 ∧ second.1 = next.image first.1

/-- Both ways to add a type keep a relation. -/
structure Steady (relates : Renaming → Specializer → Specializer → Prop)
    (excused : TypeError → Prop) : Prop where
  intern : ∀ {shift one two} {form : TypeForm}, relates shift one two →
    Known one.context.extent form → Carries relates excused shift one
      (outcome (intern form) one) (outcome (intern (shift.image form)) two)
  qualified : ∀ {shift one two} {ty : TypeId}, relates shift one two →
    Known one.context.extent ty → ∀ quals, Carries relates excused shift one
      (outcome (qualified ty quals) one) (outcome (qualified (shift.types ty) quals) two)

variable {relates : Renaming → Specializer → Specializer → Prop} {excused : TypeError → Prop}

namespace Carries

variable [Renames α] [Renames β]

theorem unchanged (related : relates shift one two) {result : Except TypeError α}
    (known : Known one.context.extent result) :
    Carries relates excused shift one (result, one) (shift.image result, two) :=
  .inr ⟨shift, .refl _ _, .refl _, related, known, rfl⟩

theorem pure (related : relates shift one two) {value : α}
    (known : Known one.context.extent value) :
    Carries relates excused shift one (outcome (pure value : SpecializeM α) one)
      (outcome (pure (shift.image value) : SpecializeM α) two) :=
  unchanged related (known_ok.2 known)

theorem lift (related : relates shift one two) {result : Except TypeError α}
    (known : Known one.context.extent result) :
    Carries relates excused shift one (outcome (liftM result : SpecializeM α) one)
      (outcome (liftM (shift.image result) : SpecializeM α) two) := by
  rw [outcome_lift, outcome_lift]
  exact unchanged related known

/-- What goes on from a later state goes on from an earlier one. -/
theorem later {middle : Specializer} {first second : Except TypeError α × Specializer}
    (agrees : Agrees one.context.extent shift next)
    (within : one.context.extent.Within middle.context.extent)
    (carries : Carries relates excused next middle first second) :
    Carries relates excused shift one first second := by
  refine carries.imp_right ?_
  rintro ⟨last, agrees', within', related, known, same⟩
  exact ⟨last, agrees.trans (agrees'.within within), within.trans within', related, known, same⟩

theorem bind_ran {steps steps' : SpecializeM α} {rest rest' : α → SpecializeM β}
    (first : Carries relates excused shift one (outcome steps one) (outcome steps' two))
    (second : ∀ next value middle middle', Agrees one.context.extent shift next →
      one.context.extent.Within middle.context.extent → relates next middle middle' →
      Known middle.context.extent value → outcome steps one = (.ok value, middle) →
      outcome steps' two = (.ok (next.image value), middle') →
      Carries relates excused next middle (outcome (rest value) middle)
        (outcome (rest' (next.image value)) middle')) :
    Carries relates excused shift one (outcome (steps >>= rest) one)
      (outcome (steps' >>= rest') two) := by
  rw [outcome_bind, outcome_bind]
  generalize outcome steps one = left at first second ⊢
  generalize outcome steps' two = right at first second ⊢
  obtain ⟨err, excuse, same⟩ | ⟨next, agrees, within, related, known, same⟩ := first
  · rcases left with ⟨_, middle⟩
    cases same
    exact .inl ⟨err, excuse, rfl⟩
  rcases left with ⟨err | value, middle⟩ <;> rcases right with ⟨err' | value', middle'⟩ <;>
    cases same
  · exact .inr ⟨next, agrees, within, related, known_error.2 (known_error.1 known), rfl⟩
  · exact .later agrees within
      (second next value middle middle' agrees within related (known_ok.1 known) rfl rfl)

theorem bind {steps steps' : SpecializeM α} {rest rest' : α → SpecializeM β}
    (first : Carries relates excused shift one (outcome steps one) (outcome steps' two))
    (second : ∀ next value middle middle', Agrees one.context.extent shift next →
      one.context.extent.Within middle.context.extent → relates next middle middle' →
      Known middle.context.extent value →
      Carries relates excused next middle (outcome (rest value) middle)
        (outcome (rest' (next.image value)) middle')) :
    Carries relates excused shift one (outcome (steps >>= rest) one)
      (outcome (steps' >>= rest') two) :=
  bind_ran first fun next value middle middle' agrees within related known _ _ =>
    second next value middle middle' agrees within related known

end Carries

/-! ### Parameters -/

section Parameters

variable {extent : Extent}

theorem argument_image (key : SpecializationKey) (index : Nat) :
    (shift.image key).arguments[index]? = shift.image key.arguments[index]? :=
  List.getElem?_map

theorem argument_known (known : Known extent key) {index : Nat} {argument : TemplateArgument}
    (stored : key.arguments[index]? = some argument) : Known extent argument :=
  known_list.1 (known_key.1 known) _ (List.mem_of_getElem? stored)

theorem typeArgument_image (index : Nat) :
    typeArgument (shift.image key) index = shift.image (typeArgument key index) := by
  unfold typeArgument
  rw [argument_image]
  rcases key.arguments[index]? with _ | _ | _ | _ <;> rfl

theorem lengthArgument_image (index : Nat) :
    lengthArgument (shift.image key) index = shift.image (lengthArgument key index) := by
  unfold lengthArgument
  rw [argument_image]
  rcases key.arguments[index]? with _ | _ | (value | _) | _ <;> try rfl
  simp only [image_some, image_valueArgument]
  split <;> rfl

theorem templateArgument_image (index : Nat) :
    templateArgument (shift.image key) index = shift.image (templateArgument key index) := by
  unfold templateArgument
  rw [argument_image]
  rcases key.arguments[index]? with _ | _ | _ | _ <;> rfl

theorem anyArgument_image (index : Nat) :
    anyArgument (shift.image key) index = shift.image (anyArgument key index) := by
  unfold anyArgument
  rw [argument_image]
  rcases key.arguments[index]? with _ | _ | _ | _ <;> rfl

theorem typeArgument_known (known : Known extent key) (index : Nat) :
    Known extent (typeArgument key index) := by
  unfold typeArgument
  split
  · rename_i ty stored
    exact known_ok.2 (known_typeArgument.1 (argument_known known stored))
  · exact fun _ _ _ => rfl

theorem lengthArgument_known (index : Nat) : Known extent (lengthArgument key index) := by
  unfold lengthArgument
  split
  · split
    · exact fun _ _ _ => rfl
    · exact fun _ _ _ => rfl
  · exact fun _ _ _ => rfl

theorem templateArgument_known (index : Nat) : Known extent (templateArgument key index) := by
  unfold templateArgument
  split
  · exact fun _ _ _ => rfl
  · exact fun _ _ _ => rfl

theorem anyArgument_known (known : Known extent key) (index : Nat) :
    Known extent (anyArgument key index) := by
  unfold anyArgument
  split
  · rename_i argument stored
    exact known_ok.2 (argument_known known stored)
  · exact fun _ _ _ => rfl

end Parameters

/-! ### Evaluation -/

section Evaluation

variable {apply : TemplateId → List TemplateArgument → SpecializeM TypeId}

/-- Applying templates keeps a relation. -/
def Applied (relates : Renaming → Specializer → Specializer → Prop) (excused : TypeError → Prop)
    (apply : TemplateId → List TemplateArgument → SpecializeM TypeId) : Prop :=
  ∀ id arguments shift one two, relates shift one two → Known one.context.extent arguments →
    Carries relates excused shift one (outcome (apply id arguments) one)
      (outcome (apply id (shift.image arguments)) two)

mutual

theorem eval_carries (steady : Steady relates excused)
    (applied : Applied relates excused apply) : (expr : TypeExpr) →
    ∀ {shift : Renaming} {one two : Specializer} {key : SpecializationKey}, relates shift one two →
    Known one.context.extent key → Known one.context.extent expr →
    Carries relates excused shift one (outcome (eval key apply expr) one)
      (outcome (eval (shift.image key) apply (shift.image expr)) two)
  | .concrete ty, shift, one, two, key, related, _, known => by
    rw [image_concrete, eval, eval]
    exact .pure related (known_concrete.1 known)
  | .param index, shift, one, two, key, related, keyed, _ => by
    rw [image_param, eval, eval, typeArgument_image]
    exact .lift related (typeArgument_known keyed index)
  | .pointer target, shift, one, two, key, related, keyed, known => by
    rw [image_pointerExpr, eval, eval]
    refine .bind (eval_carries steady applied target related keyed (known_pointerExpr.1 known)) ?_
    intro next ty middle middle' _ _ related inner
    exact steady.intern related (known_pointer.2 inner)
  | .array element length, shift, one, two, key, related, keyed, known => by
    rw [image_arrayExpr, eval, eval]
    refine .bind (eval_carries steady applied element related keyed (known_arrayExpr.1 known)) ?_
    intro next ty middle middle' _ _ related inner
    exact steady.intern related (known_array.2 inner)
  | .arrayOfParam element index, shift, one, two, key, related, keyed, known => by
    rw [image_arrayOfParam, eval, eval, lengthArgument_image]
    refine .bind (.lift related (lengthArgument_known index)) ?_
    intro next length middle middle' agrees within related _
    rw [keyed _ _ agrees, known_arrayOfParam.1 known _ _ agrees]
    refine .bind (eval_carries steady applied element related (keyed.within within)
      ((known_arrayOfParam.1 known).within within)) ?_
    intro last ty final final' _ _ related inner
    exact steady.intern related (known_array.2 inner)
  | .slice element, shift, one, two, key, related, keyed, known => by
    rw [image_sliceExpr, eval, eval]
    refine .bind (eval_carries steady applied element related keyed (known_sliceExpr.1 known)) ?_
    intro next ty middle middle' _ _ related inner
    exact steady.intern related (known_slice.2 inner)
  | .qualified base quals, shift, one, two, key, related, keyed, known => by
    rw [image_qualifiedExpr, eval, eval]
    refine .bind (eval_carries steady applied base related keyed (known_qualifiedExpr.1 known)) ?_
    intro next ty middle middle' _ _ related inner
    exact steady.qualified related inner quals
  | .function parameters result variadic, shift, one, two, key, related, keyed, known => by
    obtain ⟨known₁, known₂⟩ := known_functionExpr.1 known
    rw [image_functionExpr, eval, eval]
    refine .bind (evalAll_carries steady applied parameters related keyed known₁) ?_
    intro next types middle middle' agrees within related inner
    rw [keyed _ _ agrees, known₂ _ _ agrees]
    refine .bind (eval_carries steady applied result related (keyed.within within)
      (known₂.within within)) ?_
    intro last ty final final' agrees' within' related inner'
    rw [inner _ _ agrees']
    exact steady.intern related
      (known_function.2 ⟨inner.within within', inner'⟩)
  | .apply template arguments, shift, one, two, key, related, keyed, known => by
    rw [image_apply, eval, eval]
    refine .bind (evalArguments_carries steady applied arguments related keyed (known_apply.1 known)) ?_
    intro next given middle middle' _ _ related inner
    exact applied template given next middle middle' related inner
  | .applyParam index arguments, shift, one, two, key, related, keyed, known => by
    rw [image_applyParam, eval, eval, templateArgument_image]
    refine .bind (.lift related (templateArgument_known index)) ?_
    intro next template middle middle' agrees within related _
    rw [keyed _ _ agrees, known_applyParam.1 known _ _ agrees]
    refine .bind (evalArguments_carries steady applied arguments related (keyed.within within)
      ((known_applyParam.1 known).within within)) ?_
    intro last given final final' _ _ related inner
    exact applied template given last final final' related inner

theorem evalAll_carries (steady : Steady relates excused)
    (applied : Applied relates excused apply) : (exprs : List TypeExpr) →
    ∀ {shift : Renaming} {one two : Specializer} {key : SpecializationKey}, relates shift one two →
    Known one.context.extent key → Known one.context.extent exprs →
    Carries relates excused shift one (outcome (evalAll key apply exprs) one)
      (outcome (evalAll (shift.image key) apply (shift.image exprs)) two)
  | [], shift, one, two, key, related, _, _ => by
    rw [image_nil, evalAll, evalAll]
    exact .pure related known_nil
  | expr :: rest, shift, one, two, key, related, keyed, known => by
    obtain ⟨known₁, known₂⟩ := known_cons.1 known
    rw [image_cons, evalAll, evalAll]
    refine .bind (eval_carries steady applied expr related keyed known₁) ?_
    intro next ty middle middle' agrees within related inner
    rw [keyed _ _ agrees, known₂ _ _ agrees]
    refine .bind (evalAll_carries steady applied rest related (keyed.within within)
      (known₂.within within)) ?_
    intro last types final final' agrees' within' related inner'
    rw [inner _ _ agrees']
    exact .pure related (known_cons.2 ⟨inner.within within', inner'⟩)

theorem evalArgument_carries (steady : Steady relates excused)
    (applied : Applied relates excused apply) : (argument : ArgExpr) →
    ∀ {shift : Renaming} {one two : Specializer} {key : SpecializationKey}, relates shift one two →
    Known one.context.extent key → Known one.context.extent argument →
    Carries relates excused shift one (outcome (evalArgument key apply argument) one)
      (outcome (evalArgument (shift.image key) apply (shift.image argument)) two)
  | .type expr, shift, one, two, key, related, keyed, known => by
    rw [image_typeExprArgument, evalArgument, evalArgument]
    refine .bind (eval_carries steady applied expr related keyed (known_typeExprArgument.1 known)) ?_
    intro next ty middle middle' _ _ related inner
    exact .pure related (known_typeArgument.2 inner)
  | .value value, shift, one, two, key, related, _, _ => by
    rw [image_valueExprArgument, evalArgument, evalArgument]
    exact .pure related known_valueArgument
  | .template id, shift, one, two, key, related, _, _ => by
    rw [image_templateExprArgument, evalArgument, evalArgument]
    exact .pure related known_templateArgument
  | .param index, shift, one, two, key, related, keyed, _ => by
    rw [image_paramArgument, evalArgument, evalArgument, anyArgument_image]
    exact .lift related (anyArgument_known keyed index)

theorem evalArguments_carries (steady : Steady relates excused)
    (applied : Applied relates excused apply) : (arguments : List ArgExpr) →
    ∀ {shift : Renaming} {one two : Specializer} {key : SpecializationKey}, relates shift one two →
    Known one.context.extent key → Known one.context.extent arguments →
    Carries relates excused shift one (outcome (evalArguments key apply arguments) one)
      (outcome (evalArguments (shift.image key) apply (shift.image arguments)) two)
  | [], shift, one, two, key, related, _, _ => by
    rw [image_nil, evalArguments, evalArguments]
    exact .pure related known_nil
  | argument :: rest, shift, one, two, key, related, keyed, known => by
    obtain ⟨known₁, known₂⟩ := known_cons.1 known
    rw [image_cons, evalArguments, evalArguments]
    refine .bind (evalArgument_carries steady applied argument related keyed known₁) ?_
    intro next given middle middle' agrees within related inner
    rw [keyed _ _ agrees, known₂ _ _ agrees]
    refine .bind (evalArguments_carries steady applied rest related (keyed.within within)
      (known₂.within within)) ?_
    intro last others final final' agrees' within' related inner'
    rw [inner _ _ agrees']
    exact .pure related (known_cons.2 ⟨inner.within within', inner'⟩)

end

/-- The type of a function is evaluated like the other. -/
theorem evalFunction_carries (steady : Steady relates excused)
    (applied : Applied relates excused apply) {parameters : List TypeExpr} {result : TypeExpr}
    (variadic : Bool) {shift : Renaming} {one two : Specializer} {key : SpecializationKey}
    (related : relates shift one two) (keyed : Known one.context.extent key)
    (known₁ : Known one.context.extent parameters) (known₂ : Known one.context.extent result) :
    Carries relates excused shift one
      (outcome (do
        let types ← evalAll key apply parameters
        let inner ← eval key apply result
        intern (.function types inner variadic)) one)
      (outcome (do
        let types ← evalAll (shift.image key) apply (shift.image parameters)
        let inner ← eval (shift.image key) apply (shift.image result)
        intern (.function types inner variadic)) two) := by
  have carries := eval_carries steady applied (.function parameters result variadic) related keyed
    (known_functionExpr.2 ⟨known₁, known₂⟩)
  rwa [image_functionExpr, eval, eval] at carries

theorem evalFields_carries (steady : Steady relates excused)
    (applied : Applied relates excused apply) {fields : List FieldExpr} {shift : Renaming}
    {one two : Specializer} {key : SpecializationKey} (related : relates shift one two)
    (keyed : Known one.context.extent key) (known : Known one.context.extent fields) :
    Carries relates excused shift one (outcome (evalFields key apply fields) one)
      (outcome (evalFields (shift.image key) apply (shift.image fields)) two) := by
  induction fields generalizing shift one two with
  | nil => exact .pure related known_nil
  | cons field rest ih =>
    obtain ⟨name, type⟩ := field
    obtain ⟨known₁, known₂⟩ := known_cons.1 known
    rw [image_cons, image_field, evalFields, evalFields]
    refine .bind (eval_carries steady applied type related keyed (known_field.1 known₁)) ?_
    intro next ty middle middle' agrees within related inner
    rw [keyed _ _ agrees, known₂ _ _ agrees]
    refine .bind (ih related (keyed.within within) (known₂.within within)) ?_
    intro last members final final' agrees' within' related inner'
    rw [inner _ _ agrees']
    exact .pure related
      (known_cons.2 ⟨known_member.2 (inner.within within'), inner'⟩)

theorem evalMethods_carries (steady : Steady relates excused)
    (applied : Applied relates excused apply) {methods : List MethodExpr} {shift : Renaming}
    {one two : Specializer} {key : SpecializationKey} (related : relates shift one two)
    (keyed : Known one.context.extent key) (known : Known one.context.extent methods) :
    Carries relates excused shift one (outcome (evalMethods key apply methods) one)
      (outcome (evalMethods (shift.image key) apply (shift.image methods)) two) := by
  induction methods generalizing shift one two with
  | nil => exact .pure related known_nil
  | cons method rest ih =>
    obtain ⟨name, parameters, result⟩ := method
    obtain ⟨known₀, known₃⟩ := known_cons.1 known
    obtain ⟨known₁, known₂⟩ := known_methodExpr.1 known₀
    rw [image_cons, image_methodExpr, evalMethods, evalMethods]
    refine .bind (evalAll_carries steady applied parameters related keyed known₁) ?_
    intro next₁ types middle₁ middle₁' agrees₁ within₁ related₁ inner₁
    rw [keyed _ _ agrees₁, known₂ _ _ agrees₁, known₃ _ _ agrees₁]
    have keyed₁ := keyed.within within₁
    have rest₁ := known₃.within within₁
    refine .bind (eval_carries steady applied result related₁ keyed₁ (known₂.within within₁)) ?_
    intro next₂ ty middle₂ middle₂' agrees₂ within₂ related₂ inner₂
    rw [keyed₁ _ _ agrees₂, rest₁ _ _ agrees₂, inner₁ _ _ agrees₂]
    have keyed₂ := keyed₁.within within₂
    have rest₂ := rest₁.within within₂
    refine .bind (steady.intern related₂
      (known_function.2 ⟨inner₁.within within₂, inner₂⟩)) ?_
    intro next₃ signature middle₃ middle₃' agrees₃ within₃ related₃ inner₃
    rw [keyed₂ _ _ agrees₃, rest₂ _ _ agrees₃]
    refine .bind (ih related₃ (keyed₂.within within₃) (rest₂.within within₃)) ?_
    intro last others final final' agrees₄ within₄ related₄ inner₄
    rw [inner₃ _ _ agrees₄]
    exact .pure related₄
      (known_cons.2 ⟨known_method.2 (inner₃.within within₄), inner₄⟩)

theorem evalBody_carries (steady : Steady relates excused)
    (applied : Applied relates excused apply) {body : TemplateBody} {shift : Renaming}
    {one two : Specializer} {key : SpecializationKey} (related : relates shift one two)
    (keyed : Known one.context.extent key) (known : Known one.context.extent body) :
    Carries relates excused shift one (outcome (evalBody key apply body) one)
      (outcome (evalBody (shift.image key) apply (shift.image body)) two) := by
  have record : ∀ fields, Known one.context.extent fields →
      Carries relates excused shift one
        (outcome (evalFields key apply fields >>= fun members =>
          pure ({ members } : DefBody)) one)
        (outcome (evalFields (shift.image key) apply (shift.image fields) >>= fun members =>
          pure ({ members } : DefBody)) two) := by
    intro fields known
    refine .bind (evalFields_carries steady applied related keyed known) ?_
    intro next members middle middle' _ _ related inner
    exact .pure related (known_body.2 (by simp [inner]))
  cases body with
  | struct fields => exact record fields (known_structBody.1 known)
  | union fields => exact record fields (known_unionBody.1 known)
  | classType base fields methods =>
    obtain ⟨known₁, known₂, known₃⟩ := known_classBody.1 known
    have signatures : ∀ next middle middle' members parent, relates next middle middle' →
        Known middle.context.extent key → Known middle.context.extent methods →
        Known middle.context.extent members → Known middle.context.extent parent →
        Carries relates excused next middle
          (outcome (evalMethods key apply methods >>= fun methods =>
            pure ({ members, base := parent, methods } : DefBody)) middle)
          (outcome (evalMethods (next.image key) apply (next.image methods) >>= fun methods =>
            pure ({ members := next.image members, base := next.image parent, methods } : DefBody))
            middle') := by
      intro next middle middle' members parent related keyed known inner inner'
      refine .bind (evalMethods_carries steady applied related keyed known) ?_
      intro last methods final final' agrees within related inner''
      rw [inner _ _ agrees, inner' _ _ agrees]
      refine .pure related
        (known_body.2 ?_)
      exact ⟨inner.within within, inner'', known_nil, inner'.within within, known_nil, known_none⟩
    rw [image_classBody]
    refine .bind (evalFields_carries steady applied related keyed known₂) ?_
    intro next₁ members middle₁ middle₁' agrees₁ within₁ related₁ inner₁
    rw [keyed _ _ agrees₁, known₁ _ _ agrees₁, known₃ _ _ agrees₁]
    have keyed₁ := keyed.within within₁
    have methods₁ := known₃.within within₁
    cases base with
    | none =>
      refine .bind (.pure related₁ known_none) ?_
      intro next₂ parent middle₂ middle₂' agrees₂ within₂ related₂ inner₂
      rw [keyed₁ _ _ agrees₂, methods₁ _ _ agrees₂, inner₁ _ _ agrees₂]
      exact signatures next₂ middle₂ middle₂' members parent related₂ (keyed₁.within within₂)
        (methods₁.within within₂) (inner₁.within within₂) inner₂
    | some base =>
      have stated := (known_some.1 known₁).within within₁
      simp only [image_some, map_eq_pure_bind]
      refine .bind (.bind (eval_carries steady applied base related₁ keyed₁ stated)
        fun next ty middle middle' _ _ related inner =>
          .pure related (known_some.2 inner)) ?_
      intro next₂ parent middle₂ middle₂' agrees₂ within₂ related₂ inner₂
      rw [keyed₁ _ _ agrees₂, methods₁ _ _ agrees₂, inner₁ _ _ agrees₂]
      exact signatures next₂ middle₂ middle₂' members parent related₂ (keyed₁.within within₂)
        (methods₁.within within₂) (inner₁.within within₂) inner₂
  | synonym target => exact .pure related (known_body.2 (by simp))
  | function parameters result variadic =>
    exact .pure related (known_body.2 (by simp))

theorem requireType_image (id : TemplateId) (made : Instance) :
    requireType id (shift.image made) = shift.image (requireType id made) := by
  cases made <;> rfl

theorem requireType_known {extent : Extent} (id : TemplateId) {made : Instance}
    (known : Known extent made) : Known extent (requireType id made) := by
  cases made with
  | type ty => exact known_ok.2 (known_instanceType.1 known)
  | function made => exact fun _ _ _ => rfl

/-- Applying a template keeps a relation if requesting its instance does. -/
theorem Carries.applied {budget : Nat} {id : TemplateId} {arguments : List TemplateArgument}
    (requested : Carries relates excused shift one
      (outcome (specializeWithin budget id arguments) one)
      (outcome (specializeWithin budget id (shift.image arguments)) two)) :
    Carries relates excused shift one (outcome (applyWithin budget id arguments) one)
      (outcome (applyWithin budget id (shift.image arguments)) two) := by
  refine .bind requested ?_
  intro next made middle middle' _ _ related inner
  rw [requireType_image]
  exact .lift related (requireType_known id inner)

end Evaluation

/-! ### Requests that are the same -/

/-- Two requests in progress are the same up to a renaming. -/
structure Mirror (shift : Renaming) (one two : Specializer) : Prop where
  context : Twin shift one.context two.context
  chain : two.chain = shift.image one.chain
  pending : two.pending = shift.image one.pending
  declared : two.declared = shift.image one.declared
  knownChain : Known one.context.extent one.chain
  knownPending : Known one.context.extent one.pending
  knownDeclared : Known one.context.extent one.declared

/-- Two outcomes are the same up to a renaming that goes on from an earlier one, and so are the
states left behind. -/
def Follows [Renames α] (shift : Renaming) (before : Specializer)
    (first second : Except TypeError α × Specializer) : Prop :=
  ∃ next, Agrees before.context.extent shift next ∧
    before.context.extent.Within first.2.context.extent ∧ Mirror next first.2 second.2 ∧
    Known first.2.context.extent first.1 ∧ second.1 = next.image first.1

/-- No failure is excused of requests that are the same. -/
theorem carries_mirror [Renames α] {before : Specializer}
    {first second : Except TypeError α × Specializer} :
    Carries Mirror (fun _ => False) shift before first second ↔ Follows shift before first second := by
  simp [Carries, Follows]

/-- A change of the tables alone leaves the rest of the requests the same. -/
theorem Mirror.withContext (mirror : Mirror shift one two) {context context' : TypeContext}
    (agrees : Agrees one.context.extent shift next)
    (within : one.context.extent.Within context.extent) (twin : Twin next context context') :
    Mirror next { one with context } { two with context := context' } where
  context := twin
  chain := mirror.chain.trans (mirror.knownChain _ _ agrees)
  pending := mirror.pending.trans (mirror.knownPending _ _ agrees)
  declared := mirror.declared.trans (mirror.knownDeclared _ _ agrees)
  knownChain := mirror.knownChain.within within
  knownPending := mirror.knownPending.within within
  knownDeclared := mirror.knownDeclared.within within

namespace Follows

variable [Renames α] [Renames β]

theorem unchanged (mirror : Mirror shift one two) {result : Except TypeError α}
    (known : Known one.context.extent result) :
    Follows shift one (result, one) (shift.image result, two) :=
  carries_mirror.1 (.unchanged mirror known)

theorem pure (mirror : Mirror shift one two) {value : α} (known : Known one.context.extent value) :
    Follows shift one (outcome (pure value : SpecializeM α) one)
      (outcome (pure (shift.image value) : SpecializeM α) two) :=
  carries_mirror.1 (.pure mirror known)

theorem bind {steps steps' : SpecializeM α} {rest rest' : α → SpecializeM β}
    (first : Follows shift one (outcome steps one) (outcome steps' two))
    (second : ∀ next value middle middle', Agrees one.context.extent shift next →
      one.context.extent.Within middle.context.extent → Mirror next middle middle' →
      Known middle.context.extent value →
      Follows next middle (outcome (rest value) middle)
        (outcome (rest' (next.image value)) middle')) :
    Follows shift one (outcome (steps >>= rest) one) (outcome (steps' >>= rest') two) :=
  carries_mirror.1 (.bind (carries_mirror.2 first)
    fun next value middle middle' agrees within mirror known =>
      carries_mirror.2 (second next value middle middle' agrees within mirror known))

theorem ofKeeps (mirror : Mirror shift one two) {first second : α × TypeContext}
    (keeps : Keeps shift one.context first second) :
    Follows shift one (.ok first.1, { one with context := first.2 })
      (.ok second.1, { two with context := second.2 }) := by
  obtain ⟨next, agrees, within, twin, known, same⟩ := keeps
  exact ⟨next, agrees, within, mirror.withContext agrees within twin, known_ok.2 known,
    congrArg Except.ok same⟩

theorem intern (mirror : Mirror shift one two) {form : TypeForm}
    (known : Known one.context.extent form) :
    Follows shift one (outcome (intern form) one) (outcome (intern (shift.image form)) two) :=
  ofKeeps mirror (mirror.context.intern known)

theorem qualified (mirror : Mirror shift one two) {ty : TypeId}
    (known : Known one.context.extent ty) (quals : Qualifiers) :
    Follows shift one (outcome (qualified ty quals) one)
      (outcome (qualified (shift.types ty) quals) two) :=
  ofKeeps mirror (mirror.context.qualified known quals)

end Follows

theorem steady_mirror : Steady Mirror fun _ => False where
  intern mirror known := carries_mirror.2 (.intern mirror known)
  qualified mirror known quals := carries_mirror.2 (.qualified mirror known quals)

end Specializer

end FrontEnd
