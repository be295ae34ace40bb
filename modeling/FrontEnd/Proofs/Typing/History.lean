import FrontEnd.Proofs.Typing.Registry
import FrontEnd.Typing.Layout
import FrontEnd.Typing.Specialization

/-!
Histories of the type tables: the requests that are made of them one after the other, each of which
may fail. Whatever a request does, types, definitions, templates and instances that were there
before stay what they were; a definition may only get the body that it did not have yet.
-/

namespace FrontEnd

/-- A request of the type tables. What a source declares is never the instance of a template. -/
inductive TableRequest where
  | intern (form : TypeForm)
  | qualify (ty : TypeId) (quals : Qualifiers)
  | declare (name : Option Name) (kind : DefKind) (locator : Option ItemLocator)
  | define (ty : TypeId) (body : DefBody)
  | register (template : TemplateDef)
  | specialize (id : TemplateId) (arguments : List TemplateArgument)
  | layout (ty : TypeId)
  | recordLayout (ty : TypeId)

/-- What a request is answered. -/
inductive TableAnswer where
  | type (ty : TypeId)
  | declared (result : Except TypeError TypeDef)
  | defined (result : Except TypeError Unit)
  | registered (result : Except TemplateDefError TemplateId)
  | specialized (result : Except TypeError Instance)
  | layout (result : Except TypeError TypeLayout)
  | recordLayout (result : Except TypeError RecordLayout)

namespace TypeContext

/-- The answer to a request that may change the tables, and the tables after it. -/
def answered (ctx : TypeContext) (result : Except ε (α × TypeContext)) : Except ε α × TypeContext :=
  match result with
  | .ok (value, after) => (.ok value, after)
  | .error err => (.error err, ctx)

/-- The answer to one request, and the tables after it. -/
def perform (ctx : TypeContext) : TableRequest → TableAnswer × TypeContext
  | .intern form => (ctx.intern form).map .type id
  | .qualify ty quals => (ctx.qualified ty quals).map .type id
  | .declare name kind locator =>
    (ctx.answered (ctx.declare { name, kind, locator })).map .declared id
  | .define ty body => (ctx.answered ((ctx.define ty body).map ((), ·))).map .defined id
  | .register template => (ctx.answered (ctx.registerTemplate template)).map .registered id
  | .specialize template arguments => (ctx.specialize template arguments).map .specialized id
  | .layout ty => (ctx.layoutOf ty).map .layout id
  | .recordLayout ty => (ctx.recordLayoutOf ty).map .recordLayout id

/-- The answers to requests one after the other, and the tables after them. -/
def run (ctx : TypeContext) : List TableRequest → List TableAnswer × TypeContext
  | [] => ([], ctx)
  | request :: rest =>
    let (answer, next) := ctx.perform request
    let (answers, last) := next.run rest
    (answer :: answers, last)

/-- The tables after requests one after the other. -/
def after (ctx : TypeContext) (history : List TableRequest) : TypeContext := (ctx.run history).2

@[simp] theorem after_nil (ctx : TypeContext) : ctx.after [] = ctx := rfl

@[simp] theorem after_cons (ctx : TypeContext) (request : TableRequest)
    (rest : List TableRequest) : ctx.after (request :: rest) = (ctx.perform request).2.after rest :=
  rfl

theorem after_append (ctx : TypeContext) (first second : List TableRequest) :
    ctx.after (first ++ second) = (ctx.after first).after second := by
  induction first generalizing ctx with
  | nil => rfl
  | cons request rest ih => exact ih _

/-- What is preserved by every request is preserved by every history. -/
theorem after_preserves {holds : TypeContext → Prop}
    (step : ∀ ctx request, holds ctx → holds (ctx.perform request).2) (ctx : TypeContext)
    (start : holds ctx) (history : List TableRequest) : holds (ctx.after history) := by
  induction history generalizing ctx with
  | nil => exact start
  | cons request rest ih => exact ih _ (step ctx request start)

/-! ### What stays -/

/-- Everything in the tables before is still there after, with the same id. -/
structure Extends (before after : TypeContext) : Prop where
  config : after.config = before.config
  pool : TypePool.Kept before.pool after.pool
  templates : ∀ id template, before.templates.get? id = some template →
    after.templates.get? id = some template
  instances : ∀ (key : SpecializationKey) made, before.instances[key]? = some made →
    after.instances[key]? = some made
  defs : ∀ id entry, before.registry.get? id = some entry →
    ∃ body, after.registry.get? id = some { entry with body } ∧
      (entry.body.isSome → body = entry.body)

variable {before middle after : TypeContext}

theorem Extends.refl (ctx : TypeContext) : Extends ctx ctx where
  config := rfl
  pool := .refl _
  templates _ _ found := found
  instances _ _ found := found
  defs _ entry live := ⟨entry.body, live, fun _ => rfl⟩

theorem Extends.trans (first : Extends before middle) (second : Extends middle after) :
    Extends before after where
  config := second.config.trans first.config
  pool := first.pool.trans second.pool
  templates id template found := second.templates id template (first.templates id template found)
  instances key made found := second.instances key made (first.instances key made found)
  defs id entry live := by
    obtain ⟨body, kept, same⟩ := first.defs id entry live
    obtain ⟨last, kept', same'⟩ := second.defs id _ kept
    refine ⟨last, kept', fun whole => ?_⟩
    rw [← same whole]
    exact same' (by rw [same whole]; exact whole)

/-- A definition with a body stays exactly what it is. -/
theorem Extends.complete (extends_ : Extends before after) {id : DefId} {entry : TypeDef}
    (live : before.registry.get? id = some entry) (whole : entry.body.isSome) :
    after.registry.get? id = some entry := by
  obtain ⟨body, kept, same⟩ := extends_.defs id entry live
  rw [kept, same whole]

end TypeContext

end FrontEnd
