import FrontEnd.Proofs.Renaming.Evaluation
import FrontEnd.Proofs.Specialization.Binding
import FrontEnd.Proofs.Specialization.Growth

/-!
What expressions denote. An expression denotes a type under a key if nothing has to be added for it:
all types that it is built from are in the pool, and every template that it applies has its instance
already. What an expression denotes never changes while tables only grow.
-/

namespace FrontEnd

namespace TypeContext

variable {before after : TypeContext}

/-! ### Binding in grown tables -/

/-- Tables that have grown still take an argument that they took before. -/
private theorem accepts_grown {kind : TemplateParamKind} {argument : TemplateArgument}
    (pool : TypePool.Kept before.pool after.pool)
    (templates : ∀ id template, before.templates.get? id = some template →
      after.templates.get? id = some template)
    (known : Known before.extent kind) (accepted : before.accepts kind argument) :
    after.accepts kind argument := by
  cases kind with
  | type => cases argument <;> exact accepted
  | value ty =>
    have same : after.pool.unqualified ty = before.pool.unqualified ty :=
      congrArg Prod.fst (TypePool.split_kept pool (known_type.1 (known_valueParam.1 known)))
    cases argument with
    | type ty => cases accepted
    | template id => cases accepted
    | value value => cases value <;> simpa [accepts, same] using accepted
  | template arity =>
    cases argument with
    | type ty => exact accepted
    | value value => exact accepted
    | template target =>
      simp only [accepts] at accepted ⊢
      cases found : before.templates.get? target with
      | none => simp [found] at accepted
      | some template =>
        rw [found] at accepted
        rw [templates target template found]
        exact accepted

private theorem bindFrom_grown {id : TemplateId} {arity : TypeError} {params : List TemplateParameter}
    {index : Nat} {arguments full : List TemplateArgument}
    (pool : TypePool.Kept before.pool after.pool)
    (templates : ∀ id template, before.templates.get? id = some template →
      after.templates.get? id = some template)
    (known : Known before.extent params)
    (bound : before.bindFrom id arity index params arguments = .ok full) :
    after.bindFrom id arity index params arguments = .ok full := by
  induction params generalizing index arguments full with
  | nil => exact bound
  | cons param params ih =>
    obtain ⟨known₁, known₂⟩ := known_cons.1 known
    rw [bindFrom_cons] at bound ⊢
    cases picked : arguments.head?.or param.default with
    | none => simp [picked] at bound
    | some argument =>
      simp only [picked] at bound ⊢
      split at bound
      · rename_i accepted
        rw [if_pos (accepts_grown pool templates (known_parameter.1 known₁).1 accepted)]
        cases others : before.bindFrom id arity (index + 1) params (arguments.drop 1) with
        | error err =>
          rw [others] at bound
          cases bound
        | ok rest =>
          rw [others] at bound
          rw [ih known₂ others]
          exact bound
      · cases bound

/-- Arguments that bound before bind in the same way when the tables have grown. -/
theorem bind_grown {id : TemplateId} {template : TemplateDef} {arguments full : List TemplateArgument}
    (pool : TypePool.Kept before.pool after.pool)
    (templates : ∀ id template, before.templates.get? id = some template →
      after.templates.get? id = some template)
    (known : Known before.extent template)
    (bound : before.bind id template arguments = .ok full) :
    after.bind id template arguments = .ok full := by
  unfold TypeContext.bind at bound ⊢
  dsimp only at bound ⊢
  split at bound
  · cases bound
  · rename_i within
    rw [if_neg within]
    exact bindFrom_grown pool templates (known_templateDef.1 known).1 bound

end TypeContext

namespace Specializer

/-! ### Denotation -/

/-- The instance of a template for arguments is known, and is a type. -/
def Gives (state : Specializer) (id : TemplateId) (arguments : List TemplateArgument)
    (ty : TypeId) : Prop :=
  ∃ template full, state.context.templates.get? id = some template ∧
    state.context.bind id template arguments = .ok full ∧
    state.find? ⟨id, full⟩ = some (.type ty)

section Denotation

variable (state : Specializer) (key : SpecializationKey)

mutual

/-- The expression means the type under the key, and the tables need no addition for it. -/
def Denotes : TypeExpr → TypeId → Prop
  | .concrete own, ty => ty = own
  | .param index, ty => typeArgument key index = .ok ty
  | .pointer target, ty => ∃ inner, Denotes target inner ∧
    state.context.pool.form? ty = some (.pointer inner)
  | .array element length, ty => ∃ inner, Denotes element inner ∧
    state.context.pool.form? ty = some (.array inner length)
  | .arrayOfParam element index, ty => ∃ inner length, lengthArgument key index = .ok length ∧
    Denotes element inner ∧ state.context.pool.form? ty = some (.array inner length)
  | .slice element, ty => ∃ inner, Denotes element inner ∧
    state.context.pool.form? ty = some (.slice inner)
  | .qualified base quals, ty => ∃ inner, Denotes base inner ∧
    state.context.pool.Qualifies inner quals ty
  | .function parameters result variadic, ty => ∃ types inner, DenotesAll parameters types ∧
    Denotes result inner ∧ state.context.pool.form? ty = some (.function types inner variadic)
  | .apply id arguments, ty => ∃ given, DenotesArguments arguments given ∧ state.Gives id given ty
  | .applyParam index arguments, ty => ∃ id given, templateArgument key index = .ok id ∧
    DenotesArguments arguments given ∧ state.Gives id given ty

def DenotesAll : List TypeExpr → List TypeId → Prop
  | [], [] => True
  | expr :: rest, ty :: types => Denotes expr ty ∧ DenotesAll rest types
  | _, _ => False

/-- The expression means the argument under the key. -/
def DenotesArgument : ArgExpr → TemplateArgument → Prop
  | .type expr, argument => ∃ ty, argument = .type ty ∧ Denotes expr ty
  | .value value, argument => argument = .value value
  | .template id, argument => argument = .template id
  | .param index, argument => anyArgument key index = .ok argument

def DenotesArguments : List ArgExpr → List TemplateArgument → Prop
  | [], [] => True
  | argument :: rest, given :: others => DenotesArgument argument given ∧ DenotesArguments rest others
  | _, _ => False

end

/-- The member has the name of the field and the type that the field denotes. -/
def DenotesMember (field : FieldExpr) (member : Member) : Prop :=
  member.name = field.name ∧ Denotes state key field.type member.type

/-- The method has the name that is written, and a signature of the types that are denoted. No
method of an instance is variadic. -/
def DenotesMethod (method : MethodExpr) (made : Method) : Prop :=
  ∃ types result, DenotesAll state key method.parameters types ∧
    Denotes state key method.result result ∧
    state.context.pool.form? made.signature = some (.function types result false) ∧
    made = { name := method.name, signature := made.signature }

/-- The body of a definition is what a template makes under the key. Nothing but the parts named
here is ever made. -/
def DenotesBody : TemplateBody → DefBody → Prop
  | .struct fields, body | .union fields, body => ∃ members, body = { members } ∧
    List.Forall₂ (DenotesMember state key) fields members
  | .classType base fields methods, body => ∃ members parent made,
    body = { members, base := parent, methods := made } ∧
      List.Forall₂ (DenotesMember state key) fields members ∧
      Option.Rel (Denotes state key) base parent ∧
      List.Forall₂ (DenotesMethod state key) methods made
  | .synonym _, body | .function .., body => body = {}

/-- The instance of a template that makes no definition is what the template says under the key. -/
def DenotesInstance : TemplateBody → Instance → Prop
  | .synonym target, made => ∃ ty, made = .type ty ∧ Denotes state key target ty
  | .function parameters result variadic, made => ∃ types inner signature,
    made = .function ⟨key, signature⟩ ∧ DenotesAll state key parameters types ∧
      Denotes state key result inner ∧
      state.context.pool.form? signature = some (.function types inner variadic)
  | .struct _, _ | .union _, _ | .classType .., _ => False

end Denotation

/-! ### What grows -/

/-- The later state knows everything that the earlier one knew. -/
structure Onward (before after : Specializer) : Prop where
  exact : before.context.pool.Exact
  exact' : after.context.pool.Exact
  pool : TypePool.Kept before.context.pool after.context.pool
  known : ∀ id template, before.context.templates.get? id = some template →
    Known before.context.extent template
  templates : ∀ id template, before.context.templates.get? id = some template →
    after.context.templates.get? id = some template
  found : ∀ key made, before.find? key = some made → after.find? key = some made

variable {before middle after : Specializer} {key : SpecializationKey}

theorem Onward.trans (first : Onward before middle) (second : Onward middle after) :
    Onward before after where
  exact := first.exact
  exact' := second.exact'
  pool := first.pool.trans second.pool
  known := first.known
  templates id template registered := second.templates id template
    (first.templates id template registered)
  found key made known := second.found key made (first.found key made known)

theorem Gives.onward (onward : Onward before after) {id : TemplateId}
    {arguments : List TemplateArgument} {ty : TypeId} (gives : before.Gives id arguments ty) :
    after.Gives id arguments ty := by
  obtain ⟨template, full, registered, bound, found⟩ := gives
  exact ⟨template, full, onward.templates id template registered,
    TypeContext.bind_grown onward.pool onward.templates (onward.known id template registered) bound,
    onward.found _ _ found⟩

mutual

theorem Denotes.onward (onward : Onward before after) : {expr : TypeExpr} → {ty : TypeId} →
    Denotes before key expr ty → Denotes after key expr ty
  | .concrete _, _, denotes => denotes
  | .param _, _, denotes => denotes
  | .pointer _, _, ⟨inner, target, form⟩ =>
    ⟨inner, target.onward onward, TypePool.form?_kept onward.pool form⟩
  | .array .., _, ⟨inner, element, form⟩ =>
    ⟨inner, element.onward onward, TypePool.form?_kept onward.pool form⟩
  | .arrayOfParam .., _, ⟨inner, length, given, element, form⟩ =>
    ⟨inner, length, given, element.onward onward, TypePool.form?_kept onward.pool form⟩
  | .slice _, _, ⟨inner, element, form⟩ =>
    ⟨inner, element.onward onward, TypePool.form?_kept onward.pool form⟩
  | .qualified .., _, ⟨inner, base, qualifies⟩ =>
    ⟨inner, base.onward onward, qualifies.kept onward.exact onward.exact' onward.pool⟩
  | .function .., _, ⟨types, inner, parameters, result, form⟩ =>
    ⟨types, inner, parameters.onward onward, result.onward onward,
      TypePool.form?_kept onward.pool form⟩
  | .apply .., _, ⟨given, arguments, gives⟩ =>
    ⟨given, arguments.onward onward, gives.onward onward⟩
  | .applyParam .., _, ⟨id, given, own, arguments, gives⟩ =>
    ⟨id, given, own, arguments.onward onward, gives.onward onward⟩

theorem DenotesAll.onward (onward : Onward before after) : {exprs : List TypeExpr} →
    {types : List TypeId} → DenotesAll before key exprs types → DenotesAll after key exprs types
  | [], [], _ => trivial
  | _ :: _, _ :: _, ⟨expr, rest⟩ => ⟨expr.onward onward, rest.onward onward⟩
  | [], _ :: _, denotes => denotes
  | _ :: _, [], denotes => denotes

theorem DenotesArgument.onward (onward : Onward before after) : {argument : ArgExpr} →
    {given : TemplateArgument} → DenotesArgument before key argument given →
    DenotesArgument after key argument given
  | .type _, _, ⟨ty, same, expr⟩ => ⟨ty, same, expr.onward onward⟩
  | .value _, _, same => same
  | .template _, _, same => same
  | .param _, _, own => own

theorem DenotesArguments.onward (onward : Onward before after) : {arguments : List ArgExpr} →
    {given : List TemplateArgument} → DenotesArguments before key arguments given →
    DenotesArguments after key arguments given
  | [], [], _ => trivial
  | _ :: _, _ :: _, ⟨argument, rest⟩ => ⟨argument.onward onward, rest.onward onward⟩
  | [], _ :: _, denotes => denotes
  | _ :: _, [], denotes => denotes

end

theorem DenotesMember.onward (onward : Onward before after) {field : FieldExpr} {member : Member}
    (denotes : DenotesMember before key field member) : DenotesMember after key field member :=
  ⟨denotes.1, denotes.2.onward onward⟩

theorem DenotesMethod.onward (onward : Onward before after) {method : MethodExpr} {made : Method}
    (denotes : DenotesMethod before key method made) : DenotesMethod after key method made := by
  obtain ⟨types, result, parameters, returned, form, same⟩ := denotes
  exact ⟨types, result, parameters.onward onward, returned.onward onward,
    TypePool.form?_kept onward.pool form, same⟩

theorem DenotesBody.onward (onward : Onward before after) {template : TemplateBody} {body : DefBody}
    (denotes : DenotesBody before key template body) : DenotesBody after key template body := by
  cases template with
  | struct fields | union fields =>
    obtain ⟨members, same, fields⟩ := denotes
    exact ⟨members, same, fields.imp fun _ _ denotes => denotes.onward onward⟩
  | classType base fields methods =>
    obtain ⟨members, parent, made, same, fields, base, methods⟩ := denotes
    refine ⟨members, parent, made, same, fields.imp fun _ _ denotes => denotes.onward onward, ?_,
      methods.imp fun _ _ denotes => denotes.onward onward⟩
    cases base with
    | none => exact .none
    | some base => exact .some (base.onward onward)
  | synonym target => exact denotes
  | function parameters result variadic => exact denotes

theorem DenotesInstance.onward (onward : Onward before after) {template : TemplateBody}
    {made : Instance} (denotes : DenotesInstance before key template made) :
    DenotesInstance after key template made := by
  cases template with
  | synonym target =>
    obtain ⟨ty, same, denotes⟩ := denotes
    exact ⟨ty, same, denotes.onward onward⟩
  | function parameters result variadic =>
    obtain ⟨types, inner, signature, same, all, returned, form⟩ := denotes
    exact ⟨types, inner, signature, same, all.onward onward, returned.onward onward,
      TypePool.form?_kept onward.pool form⟩
  | struct fields | union fields => exact denotes
  | classType base fields methods => exact denotes

end Specializer

end FrontEnd
