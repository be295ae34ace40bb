import FrontEnd.Proofs.Layout.Oblivion
import FrontEnd.Proofs.Layout.Record

/-!
Layouts over histories. Whatever is asked of the tables, and in whatever order, every layout that is
remembered is the layout of its type: a plan never changes, and only results that follow from plans
are remembered. So what was asked before never shows in an answer, and a type has a layout exactly
if its plans make one.
-/

namespace FrontEnd

open Relation

namespace TypeContext

variable {ctx after : TypeContext} {ty part : TypeId} {err : TypeError}

/-! ### What is remembered stays right -/

theorem Remembered.kept (extends_ : Extends ctx after)
    {layouts : Std.HashMap TypeId TypeLayout} (right : ctx.Remembered layouts) :
    after.Remembered layouts :=
  fun ty layout found => (right ty layout found).kept extends_

theorem extends_withLayouts (ctx : TypeContext) (layouts : Std.HashMap TypeId TypeLayout) :
    Extends ctx (ctx.withLayouts layouts) :=
  ⟨rfl, .refl _, fun _ _ found => found, fun _ _ found => found, (Extends.refl ctx).defs⟩

/-- A search that finds layouts leaves right ones behind. -/
theorem remembered_runLayout {good : α → Prop} {reason : TypeError → Prop} {search : LayoutM α}
    (right : ctx.Remembered ctx.layouts) (finds : ctx.Finds good reason search) :
    (ctx.runLayout search).2.Remembered (ctx.runLayout search).2.layouts :=
  (finds ctx.layouts right).1.kept (extends_withLayouts ctx _)

/-- A request that asks for no layout leaves the layouts as they are. -/
theorem layouts_perform {request : TableRequest}
    (other : request.asksLayout = false) : (ctx.perform request).2.layouts = ctx.layouts := by
  have same := perform_withLayouts ctx ctx.layouts other
  rw [show ctx.withLayouts ctx.layouts = ctx from rfl] at same
  rw [same]
  rfl

/-- One request keeps everything that is remembered right. -/
theorem remembered_perform (sound : CacheSound ctx) (right : ctx.Remembered ctx.layouts)
    (request : TableRequest) :
    (ctx.perform request).2.Remembered (ctx.perform request).2.layouts := by
  cases asks : request.asksLayout with
  | false =>
    rw [layouts_perform asks]
    exact right.kept (perform_sound sound request).2
  | true =>
    cases request with
    | layout ty =>
      have kept := remembered_runLayout right (layoutWithin_finds (room_alone ctx) ty)
      exact kept
    | recordLayout ty =>
      have kept := remembered_runLayout right (recordSearch_finds ctx ty)
      rw [← recordLayoutOf_eq] at kept
      exact kept
    | _ => cases asks

theorem remembered_after (config : TypeConfig) (history : List TableRequest) :
    (({ config } : TypeContext).after history).Remembered
      (({ config } : TypeContext).after history).layouts := by
  have step (ctx : TypeContext) (request : TableRequest)
      (kept : CacheSound ctx ∧ ctx.Remembered ctx.layouts) :
      CacheSound (ctx.perform request).2 ∧
        (ctx.perform request).2.Remembered (ctx.perform request).2.layouts :=
    ⟨(perform_sound kept.1 request).1, remembered_perform kept.1 kept.2 request⟩
  have start : Remembered { config } {} := fun ty layout found => by simp at found
  exact (after_preserves step _ ⟨cacheSound_initial config, start⟩ history).2

/-! ### What is answered -/

theorem layoutOf_answers (right : ctx.Remembered ctx.layouts) (ty : TypeId) :
    Answers (ctx.Lays ty) (ctx.Blames [] ty) (ctx.layoutOf ty).1 :=
  (layoutWithin_finds (room_alone ctx) ty ctx.layouts right).2

theorem layoutOf_eq_ok_iff (right : ctx.Remembered ctx.layouts) {layout : TypeLayout} :
    (ctx.layoutOf ty).1 = .ok layout ↔ ctx.Lays ty layout := by
  constructor
  · intro answer
    have answers := layoutOf_answers right ty
    rwa [answer] at answers
  · exact layoutWithin_complete ⟨room_alone ctx, by simp⟩ right

end TypeContext

end FrontEnd
