import FrontEnd.Proofs.Renaming.Binding
import FrontEnd.Proofs.Renaming.Evaluation
import FrontEnd.Proofs.Specialization.Request

/-!
Requests for instances in tables that are the same up to a renaming. The renamed request finds what
the other finds, makes what the other makes, and fails where the other fails.
-/

namespace FrontEnd

namespace Specializer

variable {shift next : Renaming} {one two : Specializer} {key : SpecializationKey}

/-! ### Making an instance -/

section Making

theorem Follows.nested [Renames α] {steps steps' : SpecializeM α} (mirror : Mirror shift one two)
    (keyed : Known one.context.extent key)
    (inside : Mirror shift { one with chain := one.chain ++ [key] }
        { two with chain := two.chain ++ [shift.image key] } →
      Follows shift { one with chain := one.chain ++ [key] }
        (outcome steps { one with chain := one.chain ++ [key] })
        (outcome steps' { two with chain := two.chain ++ [shift.image key] })) :
    Follows shift one (outcome (nested key steps) one)
      (outcome (nested (shift.image key) steps') two) := by
  obtain ⟨next, agrees, within, deeper, known, same⟩ := inside { mirror with
    chain := by rw [mirror.chain, image_append]; rfl
    knownChain := known_append.2 ⟨mirror.knownChain, known_cons.2 ⟨keyed, known_nil⟩⟩ }
  rw [outcome_nested, outcome_nested]
  exact ⟨next, agrees, within, { deeper with
    chain := mirror.chain.trans (mirror.knownChain _ _ agrees)
    knownChain := mirror.knownChain.within within }, known, same⟩

theorem Follows.remember {made : Instance} (mirror : Mirror shift one two)
    (keyed : Known one.context.extent key) (known : Known one.context.extent made) :
    Follows shift one (outcome (remember key made) one)
      (outcome (remember (shift.image key) (shift.image made)) two) := by
  rw [outcome_remember, outcome_remember]
  refine ⟨shift, .refl _ _, .refl _, { mirror with
    pending := ?_
    knownPending := ?_ }, known_ok.2 (known_unit _), rfl⟩
  · rw [mirror.pending, image_append]
    rfl
  · exact known_append.2 ⟨mirror.knownPending, known_cons.2 ⟨known_pair.2 ⟨keyed, known⟩, known_nil⟩⟩

theorem Follows.reserve (name : Name) (kind : DefKind) (mirror : Mirror shift one two)
    (keyed : Known one.context.extent key) :
    Follows shift one (outcome (reserve name kind key) one)
      (outcome (reserve name kind (shift.image key)) two) := by
  obtain ⟨entry, context, here, ran⟩ := outcome_reserve name kind key one
  obtain ⟨entry', context', there, ran'⟩ := outcome_reserve name kind (shift.image key) two
  have known : Known one.context.extent (reservation name kind key).specialization :=
    known_some.2 keyed
  have declared := mirror.context.declare known
  rw [show shift.image (reservation name kind key) = reservation name kind (shift.image key)
    from rfl, here, there] at declared
  obtain ⟨next, agrees, within, twin, known, same⟩ := declared
  cases same
  rw [ran, ran']
  have fresh := (known_entry.1 (known_ok.1 known)).1
  refine ⟨next, agrees, within, { mirror.withContext agrees within twin with
    declared := ?_
    knownDeclared := ?_ }, known, rfl⟩
  · rw [mirror.declared, mirror.knownDeclared _ _ agrees, image_append]
    rfl
  · exact known_append.2 ⟨mirror.knownDeclared.within within, known_cons.2 ⟨fresh, known_nil⟩⟩

theorem Follows.complete {id : DefId} {body : DefBody} (mirror : Mirror shift one two)
    (known : Known one.context.extent id) (known' : Known one.context.extent body) :
    Follows shift one (outcome (complete id body) one)
      (outcome (complete (shift.defs id) (shift.image body)) two) := by
  rw [outcome_complete, outcome_complete]
  rcases mirror.context.registry.define mirror.context.faithful known known' with
    ⟨err, here, inner, there⟩ | ⟨registry, registry', here, there, size, registries⟩
  · rw [here, there]
    exact .unchanged mirror (known_error.2 (known_registryError.2 inner))
  · rw [here, there]
    have twin := mirror.context.redefine size registries
    have extent : TypeContext.extent { one.context with registry } = one.context.extent := by
      simp [TypeContext.extent, size]
    exact ⟨shift, .refl _ _, extent ▸ .refl _,
      mirror.withContext (.refl _ _) (extent ▸ .refl _) twin, known_ok.2 (known_unit _), rfl⟩

variable {apply : TemplateId → List TemplateArgument → SpecializeM TypeId}

/-- Making an instance does the same on both sides. -/
theorem make_follows (applied : Applied Mirror (fun _ => False) apply) {template : TemplateDef}
    (mirror : Mirror shift one two) (keyed : Known one.context.extent key)
    (known : Known one.context.extent template) :
    Follows shift one (outcome (make key template apply) one)
      (outcome (make (shift.image key) (shift.image template) apply) two) := by
  have whole := (known_templateDef.1 known).2
  have nominal : ∀ kind : DefKind, Follows shift one
      (outcome (do
        let entry ← reserve template.name kind key
        remember key (.type entry.type)
        let body ← nested key (evalBody key apply template.body)
        complete entry.id body
        return Instance.type entry.type) one)
      (outcome (do
        let entry ← reserve template.name kind (shift.image key)
        remember (shift.image key) (.type entry.type)
        let body ← nested (shift.image key)
          (evalBody (shift.image key) apply (shift.image template.body))
        complete entry.id body
        return Instance.type entry.type) two) := by
    intro kind
    refine .bind (.reserve _ _ mirror keyed) ?_
    intro next₁ entry middle₁ middle₁' agrees₁ within₁ mirror₁ inner₁
    obtain ⟨own₁, type₁, -, -⟩ := known_entry.1 inner₁
    rw [keyed _ _ agrees₁, whole _ _ agrees₁]
    have keyed₁ := keyed.within within₁
    have whole₁ := whole.within within₁
    refine .bind (.remember mirror₁ keyed₁
      (known_instanceType.2 type₁)) ?_
    intro next₂ _ middle₂ middle₂' agrees₂ within₂ mirror₂ _
    rw [keyed₁ _ _ agrees₂, whole₁ _ _ agrees₂, inner₁ _ _ agrees₂]
    have keyed₂ := keyed₁.within within₂
    have inner₂ := inner₁.within within₂
    refine .bind (.nested mirror₂ keyed₂ fun deeper =>
      carries_mirror.1 (evalBody_carries steady_mirror applied deeper keyed₂
        (whole₁.within within₂))) ?_
    intro next₃ body middle₃ middle₃' agrees₃ within₃ mirror₃ inner₃
    rw [inner₂ _ _ agrees₃]
    have own₃ := (own₁.within within₂).within within₃
    refine .bind (.complete mirror₃ own₃ inner₃) ?_
    intro next₄ _ final final' agrees₄ within₄ mirror₄ _
    rw [(inner₂.within within₃) _ _ agrees₄]
    exact .pure mirror₄
      (known_instanceType.2 (((type₁.within within₂).within within₃).within within₄))
  obtain ⟨name, parameters, body⟩ := template
  cases body with
  | synonym target =>
    refine .bind (.nested mirror keyed fun deeper =>
      carries_mirror.1 (eval_carries steady_mirror applied target deeper keyed
        (known_synonymBody.1 whole))) ?_
    intro next₁ ty middle₁ middle₁' agrees₁ within₁ mirror₁ inner₁
    rw [keyed _ _ agrees₁]
    refine .bind (.remember mirror₁ (keyed.within within₁)
      (known_instanceType.2 inner₁)) ?_
    intro next₂ _ final final' agrees₂ within₂ mirror₂ _
    rw [inner₁ _ _ agrees₂]
    exact .pure mirror₂
      (known_instanceType.2 (inner₁.within within₂))
  | function exprs result variadic =>
    obtain ⟨known₁, known₂⟩ := known_functionBody.1 whole
    refine .bind (.nested mirror keyed fun deeper => carries_mirror.1
      (evalFunction_carries steady_mirror applied variadic deeper keyed known₁ known₂)) ?_
    intro next₁ signature middle₁ middle₁' agrees₁ within₁ mirror₁ inner₁
    rw [keyed _ _ agrees₁]
    have keyed₁ := keyed.within within₁
    have made : Known middle₁.context.extent (Instance.function ⟨key, signature⟩) :=
      known_instanceFunction.2 (known_functionInstance.2 ⟨keyed₁, inner₁⟩)
    refine .bind (.remember mirror₁ keyed₁ made) ?_
    intro next₂ _ final final' agrees₂ within₂ mirror₂ _
    rw [keyed₁ _ _ agrees₂, inner₁ _ _ agrees₂]
    exact .pure mirror₂ (made.within within₂)
  | struct fields => exact nominal .struct
  | union fields => exact nominal .union
  | classType base fields methods => exact nominal .classType

end Making

/-! ### Whole requests -/

theorem find?_image {extent : Extent} (faithful : Faithful extent shift)
    {pending : List (SpecializationKey × Instance)} (known : Known extent pending)
    (keyed : Known extent key) :
    (shift.image pending).find? (·.1 == shift.image key) =
      shift.image (pending.find? (·.1 == key)) := by
  induction pending with
  | nil => rfl
  | cons entry rest ih =>
    obtain ⟨own, made⟩ := entry
    obtain ⟨known₁, known₂⟩ := known_cons.1 known
    have same : (shift.image own == shift.image key) = (own == key) := by
      rw [Bool.eq_iff_iff, beq_iff_eq, beq_iff_eq]
      exact image_eq_iff faithful (known_pair.1 known₁).1 keyed
    rw [image_cons, image_pair, List.find?_cons, List.find?_cons, same, ih known₂]
    cases own == key <;> rfl

/-- Both requests know the same instances. -/
theorem Mirror.find? (mirror : Mirror shift one two) (keyed : Known one.context.extent key) :
    two.find? (shift.image key) = shift.image (one.find? key) ∧
      Known one.context.extent (one.find? key) := by
  have pending := find?_image mirror.context.faithful mirror.knownPending keyed
  unfold Specializer.find?
  rw [mirror.pending, pending]
  cases stored : one.pending.find? (·.1 == key) with
  | some entry =>
    have known := known_list.1 mirror.knownPending entry (List.mem_of_find?_eq_some stored)
    exact ⟨rfl, known_some.2 (known_pair.1 known).2⟩
  | none =>
    refine ⟨mirror.context.instances.lookup mirror.context.faithful keyed, ?_⟩
    cases found : one.context.instances[key]? with
    | none => exact known_none
    | some made => exact known_some.2 (mirror.context.instances.kept key made found).2.1

variable (key) in
theorem refusal_image (mirror : Mirror shift one two) :
    two.refusal (shift.image key) = shift.image (one.refusal key) := by
  simp [refusal, mirror.context.config, mirror.chain]

/-- A request does the same on both sides. -/
theorem specializeWithin_follows (budget : Nat) (id : TemplateId)
    {arguments : List TemplateArgument} (mirror : Mirror shift one two)
    (known : Known one.context.extent arguments) :
    Follows shift one (outcome (specializeWithin budget id arguments) one)
      (outcome (specializeWithin budget id (shift.image arguments)) two) := by
  induction budget using Nat.strongRecOn generalizing id arguments shift one two with
  | ind budget ih =>
    rw [outcome_specializeWithin, outcome_specializeWithin, mirror.context.templates.get?]
    cases registered : one.context.templates.get? id with
    | none => exact .unchanged mirror fun _ _ _ => rfl
    | some template =>
      have whole := mirror.context.templates.known id template registered
      obtain ⟨same, bound⟩ := mirror.context.shared.bind id whole known
      simp only [image_some, same]
      cases given : one.context.bind id template arguments with
      | error err =>
        rw [given] at bound
        exact .unchanged mirror (known_error.2 (known_error.1 bound))
      | ok full =>
        rw [given, known_ok] at bound
        have keyed : Known one.context.extent (SpecializationKey.mk id full) := known_key.2 bound
        obtain ⟨same', found⟩ := mirror.find? keyed
        rw [image_key] at same'
        simp only [image_ok, same']
        cases stored : one.find? ⟨id, full⟩ with
        | some made =>
          rw [stored, known_some] at found
          exact .unchanged mirror (known_ok.2 found)
        | none =>
          have refused := refusal_image ⟨id, full⟩ mirror
          have refusedKnown : Known one.context.extent (one.refusal ⟨id, full⟩) :=
            known_recursionLimit.2 (known_append.2
              ⟨mirror.knownChain, known_cons.2 ⟨keyed, known_nil⟩⟩)
          rw [image_key] at refused
          cases budget with
          | zero =>
            simp only [image_none, refused]
            exact .unchanged mirror (known_error.2 refusedKnown)
          | succ budget =>
            have busy : (⟨id, shift.image full⟩ : SpecializationKey) ∈ two.chain ↔
                (⟨id, full⟩ : SpecializationKey) ∈ one.chain := by
              rw [mirror.chain]
              exact mem_image_iff mirror.context.faithful keyed mirror.knownChain
            simp only [image_none, busy, refused]
            split
            · exact .unchanged mirror (known_error.2 refusedKnown)
            · refine make_follows (fun id _ _ _ _ mirror known => ?_) mirror keyed whole
              exact .applied (carries_mirror.2 (ih budget (Nat.lt_succ_self _) id mirror known))

/-! ### Publishing and withdrawing -/

private theorem insertAll_twin {extent : Extent} (faithful : Faithful extent shift)
    {pending : List (SpecializationKey × Instance)} (known : Known extent pending)
    {kept kept' : Std.HashMap SpecializationKey Instance}
    (twin : KeyedTwin extent shift kept kept') :
    KeyedTwin extent shift (pending.foldl (fun kept (key, made) => kept.insert key made) kept)
      ((shift.image pending).foldl (fun kept (key, made) => kept.insert key made) kept') := by
  induction pending generalizing kept kept' with
  | nil => exact twin
  | cons entry rest ih =>
    obtain ⟨known₁, known₂⟩ := known_cons.1 known
    obtain ⟨keyed, made⟩ := known_pair.1 known₁
    exact ih known₂ (twin.insert faithful keyed made)

private theorem withdrawAll_twin {extent : Extent} (faithful : Faithful extent shift)
    {ids : List DefId} (known : Known extent ids) {registry registry' : TypeRegistry}
    (twin : RegistryTwin extent shift registry registry') :
    (withdrawAll registry ids).defs.size = registry.defs.size ∧
      RegistryTwin extent shift (withdrawAll registry ids)
        (withdrawAll registry' (shift.image ids)) := by
  induction ids generalizing registry registry' with
  | nil => exact ⟨rfl, twin⟩
  | cons id rest ih =>
    obtain ⟨known₁, known₂⟩ := known_cons.1 known
    obtain ⟨size, twin'⟩ := twin.withdraw faithful known₁
    obtain ⟨size', twin''⟩ := ih known₂ twin'
    exact ⟨size'.trans size, twin''⟩

theorem Mirror.publish (mirror : Mirror shift one two) :
    Twin shift one.publish.context two.publish.context := by
  have instances := insertAll_twin mirror.context.faithful mirror.knownPending
    mirror.context.instances
  rw [← mirror.pending] at instances
  exact ⟨mirror.context.config, mirror.context.faithful, mirror.context.primitive,
    mirror.context.pool, mirror.context.registry, mirror.context.templates, instances,
    mirror.context.layouts⟩

theorem Mirror.withdraw (mirror : Mirror shift one two) :
    one.withdraw.context.extent = one.context.extent ∧
      Twin shift one.withdraw.context two.withdraw.context := by
  obtain ⟨size, registries⟩ := withdrawAll_twin mirror.context.faithful mirror.knownDeclared
    mirror.context.registry
  rw [← mirror.declared] at registries
  refine ⟨?_, mirror.context.redefine size registries⟩
  exact congrArg (Extent.mk one.context.pool.size) size

end Specializer

/-- Requests for instances are answered alike. -/
theorem Twin.specialize {shift : Renaming} {one two : TypeContext} (twin : Twin shift one two)
    {id : TemplateId} {arguments : List TemplateArgument} (known : Known one.extent arguments) :
    Keeps shift one (one.specialize id arguments) (two.specialize id (shift.image arguments)) := by
  have start : Specializer.Mirror shift { context := one } { context := two } :=
    ⟨twin, rfl, rfl, rfl, known_nil, known_nil, known_nil⟩
  have follows := Specializer.specializeWithin_follows
    (one.config.recursionLimit - Specializer.depth { context := one }) id start known
  have depth : two.config.recursionLimit - Specializer.depth { context := two } =
      one.config.recursionLimit - Specializer.depth { context := one } := by
    rw [twin.config]
    rfl
  unfold TypeContext.specialize
  rw [Specializer.specialize_settled, Specializer.specialize_settled, depth]
  generalize outcome (Specializer.specializeWithin _ id arguments) { context := one } = first
    at follows ⊢
  generalize outcome (Specializer.specializeWithin _ id (shift.image arguments))
    { context := two } = second at follows ⊢
  obtain ⟨next, agrees, within, mirror, inner, same⟩ := follows
  rcases first with ⟨err | made, left⟩ <;> rcases second with ⟨err' | made', right⟩ <;> cases same
  · obtain ⟨extent, twin'⟩ := mirror.withdraw
    refine ⟨next, agrees, ?_, twin', ?_, rfl⟩
    · exact (congrArg one.extent.Within extent).mpr within
    · exact known_error.2 ((congrArg (Known · err) extent).mpr (known_error.1 inner))
  · exact ⟨next, agrees, within, mirror.publish, known_ok.2 (known_ok.1 inner), rfl⟩

end FrontEnd
