import FrontEnd.Proofs.Specialization.Binding
import FrontEnd.Proofs.Specialization.Request
import FrontEnd.Proofs.Typing.History
import Mathlib

/-!
Defaults of registered templates. Registration lets a default through if it is of the sort that its
parameter asks for, and binding then judges it like any other argument. The two differ in what is left
open by the sort: a truth value may stand for a number or a number for a truth value, and a template
may not take as many arguments as it would be given. Nothing else can go wrong where defaults fill in.
-/

namespace FrontEnd

namespace TemplateDef

variable {template : TemplateDef}

private theorem checkFrom_ok {required index : Nat} {params : List TemplateParameter}
    (checked : checkFrom required index params = .ok ()) (place : Nat) (param : TemplateParameter)
    (found : params[place]? = some param) :
    (param.default = none → index + place ≤ required) ∧
      ∀ given, param.default = some given → given.sort = param.kind.sort := by
  induction params generalizing index place with
  | nil => cases found
  | cons first rest ih =>
    rw [checkFrom] at checked
    cases place with
    | zero =>
      cases found
      split at checked
      · rename_i bare
        split at checked
        · cases checked
        · exact ⟨fun _ => by omega, fun given has => nomatch bare.symm.trans has⟩
      · rename_i default has
        split at checked
        · cases checked
        · rename_i sorts
          refine ⟨fun bare => (nomatch bare.symm.trans has), fun given has' => ?_⟩
          cases has.symm.trans has'
          exact not_not.1 sorts
    | succ place =>
      have later : checkFrom required (index + 1) rest = .ok () := by
        repeat' split at checked
        all_goals first | exact checked | cases checked
      have inner := ih later place found
      rwa [Nat.add_right_comm, Nat.add_assoc] at inner

/-- From the first default on, every parameter of a template that passed the check has a default of
the right sort. -/
theorem default_of_check (checked : template.check = .ok ()) {place : Nat}
    {param : TemplateParameter} (found : template.parameters[place]? = some param)
    (behind : template.required ≤ place) :
    ∃ given, param.default = some given ∧ given.sort = param.kind.sort := by
  obtain ⟨early, sorts⟩ := checkFrom_ok checked place param found
  obtain ⟨inside, same⟩ := List.getElem?_eq_some_iff.1 found
  have has : param.default.isSome := by
    by_contra bare
    have first : place = template.required := by
      have := early (Option.not_isSome_iff_eq_none.1 bare)
      omega
    subst first
    have stands := List.findIdx_getElem (w := inside)
    rw [← same] at bare
    exact bare stands
  obtain ⟨given, has⟩ := Option.isSome_iff_exists.1 has
  exact ⟨given, has, sorts given has⟩

end TemplateDef

namespace TypeContext

variable {ctx : TypeContext} {id : TemplateId} {template : TemplateDef} {kind : TemplateParamKind}
  {argument : TemplateArgument} {arguments : List TemplateArgument}

/-- The argument is of the sort that the parameter asks for, but not what it asks for: a truth value
for a number, a number for a truth value, or a template that is unknown or does not take so many
arguments. -/
def Misfits (ctx : TypeContext) : TemplateParamKind → TemplateArgument → Prop
  | .value ty, .value (.bool _) => ctx.pool.unqualified ty ≠ .bool
  | .value ty, .value (.int _) => ctx.pool.unqualified ty = .bool
  | .template arity, .template target => ∀ template, ctx.templates.get? target = some template →
      arity < template.required ∨ template.parameters.length < arity
  | _, _ => False

/-- The arguments reach at least to the first default and no further than the parameters, and each is
what its parameter asks for. -/
structure Suits (ctx : TypeContext) (template : TemplateDef) (arguments : List TemplateArgument) :
    Prop where
  least : template.required ≤ arguments.length
  most : arguments.length ≤ template.parameters.length
  each : ∀ (place : Nat) argument param, arguments[place]? = some argument →
    template.parameters[place]? = some param → ctx.accepts param.kind argument

/-- At the place behind all arguments there is a parameter whose default misfits. -/
def MisfitAt (ctx : TypeContext) (template : TemplateDef) (arguments : List TemplateArgument)
    (place : Nat) (param : TemplateParameter) : Prop :=
  arguments.length ≤ place ∧ template.parameters[place]? = some param ∧
    ∃ given, param.default = some given ∧ ctx.Misfits param.kind given

/-- Of the right sort, an argument is accepted unless it misfits. -/
theorem accepts_iff (sorts : argument.sort = kind.sort) :
    ctx.accepts kind argument ↔ ¬ ctx.Misfits kind argument := by
  cases kind with
  | type => cases argument <;> simp_all [accepts, Misfits, TemplateArgument.sort, TemplateParamKind.sort]
  | value ty =>
    cases argument with
    | value value => cases value <;> simp [accepts, Misfits]
    | _ => cases sorts
  | template arity =>
    cases argument with
    | template target =>
      cases found : ctx.templates.get? target with
      | none => simp [accepts, Misfits, found]
      | some template => simp [accepts, Misfits, found]
    | _ => cases sorts

/-- Accepted arguments are bound as they are, and the rest is bound behind them. -/
theorem bindFrom_accepted (arity : TypeError) {params : List TemplateParameter} (index : Nat)
    (most : arguments.length ≤ params.length)
    (each : ∀ (place : Nat) argument param, arguments[place]? = some argument →
      params[place]? = some param → ctx.accepts param.kind argument) :
    ctx.bindFrom id arity index params arguments =
      (ctx.bindFrom id arity (index + arguments.length) (params.drop arguments.length) []).map
        (arguments ++ ·) := by
  induction arguments generalizing params index with
  | nil =>
    show _ = (ctx.bindFrom id arity index params []).map fun rest => rest
    cases ctx.bindFrom id arity index params [] <;> rfl
  | cons argument rest ih =>
    cases params with
    | nil => exact absurd most (Nat.not_succ_le_zero _)
    | cons param params =>
      have accepted := each 0 argument param rfl rfl
      have others := ih (index + 1) (Nat.le_of_succ_le_succ most) fun place => each (place + 1)
      rw [bindFrom_cons, List.head?_cons, Option.some_or]
      dsimp only
      rw [if_pos accepted, List.drop_one, List.tail_cons, others, List.length_cons,
        List.drop_succ_cons, Nat.add_right_comm, Nat.add_assoc]
      cases ctx.bindFrom id arity (index + (rest.length + 1)) (params.drop rest.length) [] <;> rfl

/-- Where nothing is given, defaults are bound up to the first that is not accepted. -/
theorem bindFrom_defaults (ctx : TypeContext) (id : TemplateId) (arity : TypeError)
    {params : List TemplateParameter} (index : Nat)
    (defaults : ∀ param ∈ params, ∃ given, param.default = some given) :
    (ctx.bindFrom id arity index params [] = .ok (params.filterMap (·.default)) ∧
      ∀ param ∈ params, ∀ given, param.default = some given → ctx.accepts param.kind given) ∨
    ∃ place param given, params[place]? = some param ∧ param.default = some given ∧
      ¬ ctx.accepts param.kind given ∧ ctx.bindFrom id arity index params [] =
        .error (.templateArgumentMismatch id (index + place) param.kind.sort given.sort) := by
  induction params generalizing index with
  | nil => exact .inl ⟨rfl, by simp⟩
  | cons param rest ih =>
    obtain ⟨given, has⟩ := defaults param List.mem_cons_self
    rw [bindFrom_cons, List.head?_nil, Option.none_or, has]
    dsimp only
    by_cases accepted : ctx.accepts param.kind given
    · rw [if_pos accepted, List.drop_nil]
      rcases ih (index + 1) fun other member => defaults other (List.mem_cons_of_mem _ member) with
        ⟨bound, all⟩ | ⟨place, other, given', found, has', refused, bound⟩
      · rw [bound]
        refine .inl ⟨by simp [has, Except.map], List.forall_mem_cons.2 ⟨fun given' has' => ?_, all⟩⟩
        cases has.symm.trans has'
        exact accepted
      · rw [bound, Nat.add_right_comm, Nat.add_assoc]
        exact .inr ⟨place + 1, other, given', found, has', refused, rfl⟩
    · rw [if_neg accepted]
      exact .inr ⟨0, param, given, rfl, has, accepted, rfl⟩

/-- Arguments that suit are bound, and behind them only defaults are. -/
theorem Suits.bind_eq (suits : ctx.Suits template arguments) : ctx.bind id template arguments =
    (ctx.bindFrom id
      (.templateArityMismatch id template.required template.parameters.length arguments.length)
      arguments.length (template.parameters.drop arguments.length) []).map (arguments ++ ·) := by
  have within : ¬ (arguments.length < template.required ||
      template.parameters.length < arguments.length) = true := by
    simp [suits.least, suits.most]
  rw [TypeContext.bind, if_neg within, bindFrom_accepted _ _ suits.most suits.each, Nat.zero_add]

/-- A request fails as the binding of its arguments does. -/
theorem specialize_of_bind_error {err : TypeError} (stored : ctx.templates.get? id = some template)
    (failed : ctx.bind id template arguments = .error err) :
    (ctx.specialize id arguments).1 = .error err := by
  have ran := Specializer.specialize_settled { context := ctx } id arguments
  rw [Specializer.outcome_specializeWithin] at ran
  simp only [stored, failed] at ran
  exact congrArg Prod.fst ran

/-- What binding makes of a registered template. If the arguments suit and reach to the first default,
the number of arguments is never at fault, and the defaults are filled in unless one of them misfits.
A failure names such a default, with one sort for what it is and for what was asked for, and it is the
failure of every request for the template with these arguments. -/
theorem bind_registered {registry : TemplateRegistry} {made : TemplateId × TemplateRegistry}
    (registered : registry.register template = .ok made) (ctx : TypeContext) (id : TemplateId)
    (arguments : List TemplateArgument) (suits : ctx.Suits template arguments) :
    (ctx.bind id template arguments = .ok (template.fill arguments) ↔
      ∀ place param, ¬ ctx.MisfitAt template arguments place param) ∧
    ∀ err, ctx.bind id template arguments = .error err →
      (∃ place param, ctx.MisfitAt template arguments place param ∧
        err = .templateArgumentMismatch id place param.kind.sort param.kind.sort) ∧
      (ctx.templates.get? id = some template → (ctx.specialize id arguments).1 = .error err) := by
  have checked : template.check = .ok () := by
    unfold TemplateRegistry.register at registered
    split at registered
    · cases registered
    · assumption
  have defaults : ∀ (place : Nat) param,
      (template.parameters.drop arguments.length)[place]? = some param →
      ∃ given, param.default = some given ∧ given.sort = param.kind.sort := by
    intro place param found
    rw [List.getElem?_drop] at found
    exact TemplateDef.default_of_check checked found (Nat.le_trans suits.least (Nat.le_add_right _ _))
  have whole : ctx.bind id template arguments = _ := suits.bind_eq
  obtain ⟨bound, all⟩ | ⟨place, param, given, found, has, refused, bound⟩ :=
    ctx.bindFrom_defaults id
      (.templateArityMismatch id template.required template.parameters.length arguments.length)
      arguments.length fun param member => by
        obtain ⟨place, found⟩ := List.mem_iff_getElem?.1 member
        obtain ⟨given, has, -⟩ := defaults place param found
        exact ⟨given, has⟩
  · rw [bound] at whole
    have filled : ctx.bind id template arguments = .ok (template.fill arguments) := whole
    refine ⟨⟨fun _ place param => ?_, fun _ => filled⟩, fun err failed => ?_⟩
    · rintro ⟨behind, found, given, has, misfits⟩
      obtain ⟨rest, rfl⟩ := Nat.exists_eq_add_of_le behind
      rw [← List.getElem?_drop] at found
      obtain ⟨given', has', sorts⟩ := defaults rest param found
      cases has.symm.trans has'
      exact (accepts_iff sorts).1 (all param (List.mem_of_getElem? found) given has) misfits
    · cases filled.symm.trans failed
  · rw [bound] at whole
    have fails : ctx.bind id template arguments = .error (.templateArgumentMismatch id
        (arguments.length + place) param.kind.sort given.sort) := whole
    obtain ⟨given', has', sorts⟩ := defaults place param found
    cases has.symm.trans has'
    have misfit : ctx.MisfitAt template arguments (arguments.length + place) param := by
      rw [List.getElem?_drop] at found
      exact ⟨Nat.le_add_right _ _, found, given, has, not_not.1 (mt (accepts_iff sorts).2 refused)⟩
    refine ⟨⟨fun filled => ?_, fun fit => absurd misfit (fit _ _)⟩, fun err failed => ?_⟩
    · cases fails.symm.trans filled
    · refine ⟨⟨_, param, misfit, ?_⟩, fun stored => specialize_of_bind_error stored failed⟩
      cases fails.symm.trans failed
      rw [sorts]

/-- A template with a byte for its only parameter, which stands for a truth value if it is not given. -/
def truthForByte : TemplateDef :=
  ⟨.empty, [⟨.empty, .value ⟨6⟩, some (.value (.bool true))⟩], .struct []⟩

/-- It is registered, and every request that leaves the default to it fails. -/
theorem bind_registered_truthForByte : let now := ({} : TypeContext).after [.register truthForByte]
    (∃ made, ({} : TemplateRegistry).register truthForByte = .ok made) ∧
      now.templates.get? ⟨0⟩ = some truthForByte ∧ now.Suits truthForByte [] ∧
      (now.specialize ⟨0⟩ []).1 = .error (.templateArgumentMismatch ⟨0⟩ 0 .value .value) := by
  intro now
  have suits : now.Suits truthForByte [] := ⟨by decide, by decide, by simp⟩
  have failed : now.bind ⟨0⟩ truthForByte [] =
      .error (.templateArgumentMismatch ⟨0⟩ 0 .value .value) := by cbv
  obtain ⟨-, fails⟩ := bind_registered
    (rfl : ({} : TemplateRegistry).register truthForByte = .ok _) now ⟨0⟩ [] suits
  exact ⟨⟨_, rfl⟩, rfl, suits, (fails _ failed).2 rfl⟩

end TypeContext

end FrontEnd
