import FrontEnd.Proofs.Renaming.Request

/-!
Tables that are the same up to a renaming. The second of two tables may hold more than the first;
what the first knows, the second knows under the new numbers. Each operation of a table keeps the
two in step, and gives what is new in the first its number in the second.
-/

namespace FrontEnd

/-! ### Extending a renaming -/

namespace Renaming

/-- The renaming with a number for one more type. -/
def withType (shift : Renaming) (ty image : TypeId) : Renaming :=
  { shift with types := fun other => if other = ty then image else shift.types other }

/-- The renaming with a number for one more definition. -/
def withDef (shift : Renaming) (id image : DefId) : Renaming :=
  { shift with defs := fun other => if other = id then image else shift.defs other }

end Renaming

variable {shift next : Renaming} {extent wider : Extent}

theorem agrees_withType {ty image : TypeId} (fresh : extent.types ≤ ty.index) :
    Agrees extent shift (shift.withType ty image) := by
  refine ⟨fun other below => ?_, fun _ _ => rfl⟩
  have different : other ≠ ty := by
    rintro rfl
    omega
  simp [Renaming.withType, different]

theorem agrees_withDef {id image : DefId} (fresh : extent.defs ≤ id.index) :
    Agrees extent shift (shift.withDef id image) := by
  refine ⟨fun _ _ => rfl, fun other below => ?_⟩
  have different : other ≠ id := by
    rintro rfl
    omega
  simp [Renaming.withDef, different]

theorem faithful_withType {image : TypeId} (faithful : Faithful extent shift)
    (new : ∀ ty : TypeId, ty.index < extent.types → shift.types ty ≠ image) :
    Faithful { extent with types := extent.types + 1 } (shift.withType ⟨extent.types⟩ image) := by
  refine ⟨fun ⟨first⟩ ⟨second⟩ left right same => ?_, faithful.defs⟩
  simp only [Renaming.withType, TypeId.mk.injEq] at left right same ⊢
  by_cases last : first = extent.types <;> by_cases last' : second = extent.types
  · omega
  · rw [if_pos last, if_neg last'] at same
    exact absurd same.symm (new ⟨second⟩ (show second < extent.types by omega))
  · rw [if_neg last, if_pos last'] at same
    exact absurd same (new ⟨first⟩ (show first < extent.types by omega))
  · rw [if_neg last, if_neg last'] at same
    exact TypeId.mk.inj (faithful.types ⟨first⟩ ⟨second⟩ (show first < extent.types by omega)
      (show second < extent.types by omega) same)

theorem faithful_withDef {image : DefId} (faithful : Faithful extent shift)
    (new : ∀ id : DefId, id.index < extent.defs → shift.defs id ≠ image) :
    Faithful { extent with defs := extent.defs + 1 } (shift.withDef ⟨extent.defs⟩ image) := by
  refine ⟨faithful.types, fun ⟨first⟩ ⟨second⟩ left right same => ?_⟩
  simp only [Renaming.withDef, DefId.mk.injEq] at left right same ⊢
  by_cases last : first = extent.defs <;> by_cases last' : second = extent.defs
  · omega
  · rw [if_pos last, if_neg last'] at same
    exact absurd same.symm (new ⟨second⟩ (show second < extent.defs by omega))
  · rw [if_neg last, if_pos last'] at same
    exact absurd same (new ⟨first⟩ (show first < extent.defs by omega))
  · rw [if_neg last, if_neg last'] at same
    exact DefId.mk.inj (faithful.defs ⟨first⟩ ⟨second⟩ (show first < extent.defs by omega)
      (show second < extent.defs by omega) same)

/-! ### The pool -/

/-- Every type of the first pool has the same form in the second, under the new numbers. -/
structure PoolTwin (extent : Extent) (shift : Renaming) (one two : TypePool) : Prop where
  sound : one.Sound
  sound' : two.Sound
  size : extent.types = one.size
  form : ∀ ty form, one.form? ty = some form →
    Known extent form ∧ two.form? (shift.types ty) = some (shift.image form)

namespace PoolTwin

variable {one two : TypePool} {ty : TypeId} {form : TypeForm}

theorem exists_form (twin : PoolTwin extent shift one two) (known : Known extent ty) :
    ∃ form, one.form? ty = some form ∧ Known extent form ∧
      two.form? (shift.types ty) = some (shift.image form) := by
  rw [known_type, twin.size] at known
  obtain ⟨form, found⟩ := TypePool.exists_form? known
  exact ⟨form, found, twin.form ty form found⟩

theorem agree (twin : PoolTwin extent shift one two) (agrees : Agrees extent shift next)
    (within : extent.Within wider) (same : wider.types = extent.types) :
    PoolTwin wider next one two where
  sound := twin.sound
  sound' := twin.sound'
  size := same.trans twin.size
  form ty form found := by
    obtain ⟨known, found'⟩ := twin.form ty form found
    have below : ty.index < extent.types := by
      rw [twin.size]
      exact TypePool.lt_size_of_form? found
    refine ⟨known.within within, ?_⟩
    rw [← agrees.types ty below, found', known _ _ agrees]

theorem split (twin : PoolTwin extent shift one two) (known : Known extent ty) :
    two.split (shift.types ty) = (shift.types (one.split ty).1, (one.split ty).2) ∧
      Known extent (one.split ty).1 := by
  obtain ⟨form, found, inner, found'⟩ := twin.exists_form known
  rw [TypePool.split_eq twin.sound.honest, TypePool.split_eq twin.sound'.honest, found, found']
  cases form with
  | qualified base quals => exact ⟨rfl, known_qualified.1 inner⟩
  | _ => exact ⟨rfl, known⟩

theorem unqualified (twin : PoolTwin extent shift one two) (known : Known extent ty) :
    two.unqualified (shift.types ty) = shift.types (one.unqualified ty) ∧
      Known extent (one.unqualified ty) := by
  obtain ⟨same, inner⟩ := twin.split known
  exact ⟨congrArg Prod.fst same, inner⟩

/-- Interning keeps the pools in step. A form that is new in the first pool may have been in the
second already; the type that it has there stands for no other type of the first. -/
theorem intern (twin : PoolTwin extent shift one two) (faithful : Faithful extent shift)
    (known : Known extent form) :
    ∃ next : Renaming, Agrees extent shift next ∧ next.defs = shift.defs ∧
      extent.types ≤ (one.intern form).2.size ∧
      Faithful ⟨(one.intern form).2.size, extent.defs⟩ next ∧
      PoolTwin ⟨(one.intern form).2.size, extent.defs⟩ next (one.intern form).2
        (two.intern (shift.image form)).2 ∧
      (one.intern form).1.index < (one.intern form).2.size ∧
      (two.intern (shift.image form)).1 = next.types (one.intern form).1 := by
  obtain ⟨types, defs⟩ := extent
  have size : types = one.size := twin.size
  cases here : one.ids[form]? with
  | some ty =>
    have found := (twin.sound.exact form ty).1 here
    have there := (twin.sound'.exact _ _).2 (twin.form ty form found).2
    rw [TypePool.intern_of_some here, TypePool.intern_of_some there]
    exact ⟨shift, .refl _ _, rfl, Nat.le_of_eq size, size ▸ faithful, size ▸ twin,
      TypePool.lt_size_of_form? found, rfl⟩
  | none =>
    -- the type of the form in the second pool, old or new, is no image of an older type
    have fresh : ∀ ty : TypeId, ty.index < types →
        shift.types ty ≠ (two.intern (shift.image form)).1 := by
      intro ty below same
      obtain ⟨other, found, inner, found'⟩ := twin.exists_form (known_type.2 below)
      have kept := TypePool.form?_kept (TypePool.kept_intern two (shift.image form)) found'
      rw [same, TypePool.form?_intern twin.sound', Option.some.injEq] at kept
      have equal := image_injective faithful known inner kept
      subst equal
      simp [(twin.sound.exact form ty).2 found] at here
    refine ⟨shift.withType ⟨types⟩ (two.intern (shift.image form)).1,
      agrees_withType (Nat.le_refl _), rfl, ?_⟩
    have agrees : Agrees ⟨types, defs⟩ shift
        (shift.withType ⟨types⟩ (two.intern (shift.image form)).1) :=
      agrees_withType (Nat.le_refl _)
    have within : Extent.Within ⟨types, defs⟩ ⟨types + 1, defs⟩ := ⟨Nat.le_succ _, Nat.le_refl _⟩
    have sound := TypePool.sound_intern twin.sound form
    rw [TypePool.intern_of_none here] at sound ⊢
    simp only [TypePool.size_push, ← size]
    refine ⟨Nat.le_succ _, faithful_withType faithful fresh, ⟨sound,
      TypePool.sound_intern twin.sound' _, by simp [TypePool.size_push, size], fun ty other found => ?_⟩, Nat.lt_succ_self _, by
        simp [Renaming.withType]⟩
    rw [TypePool.form?_push] at found
    split at found
    · rename_i last
      cases found
      obtain rfl : ty = ⟨types⟩ := by
        cases ty
        simp_all
      refine ⟨known.within within, ?_⟩
      rw [← known _ _ agrees]
      simp only [Renaming.withType, if_true]
      exact TypePool.form?_intern twin.sound' _
    · obtain ⟨inner, found'⟩ := twin.form ty other found
      have below : ty.index < types := by
        rw [size]
        exact TypePool.lt_size_of_form? found
      refine ⟨inner.within within, ?_⟩
      rw [← agrees.types ty below, ← inner _ _ agrees]
      exact TypePool.form?_kept (TypePool.kept_intern two _) found'

end PoolTwin

/-! ### Keyed tables -/

/-- The second table holds exactly what the first holds, under the new numbers. -/
structure KeyedTwin [BEq κ] [Hashable κ] [Renames κ] [Renames β] (extent : Extent)
    (shift : Renaming) (one two : Std.HashMap κ β) : Prop where
  kept : ∀ (key : κ) value, one[key]? = some value →
    Known extent key ∧ Known extent value ∧ two[shift.image key]? = some (shift.image value)
  only : ∀ key : κ, (two[key]?).isSome → ∃ own : κ, (one[own]?).isSome ∧ key = shift.image own

namespace KeyedTwin

variable [BEq κ] [Hashable κ] [Renames κ] [Renames β] {one two : Std.HashMap κ β}
  {key : κ} {value : β}

theorem lookup (twin : KeyedTwin extent shift one two) (faithful : Faithful extent shift)
    (known : Known extent key) : two[shift.image key]? = shift.image one[key]? := by
  cases found : one[key]? with
  | some value => exact (twin.kept key value found).2.2
  | none =>
    cases found' : two[shift.image key]? with
    | none => rfl
    | some value =>
      obtain ⟨own, present, same⟩ := twin.only _ (by rw [found']; rfl)
      obtain ⟨value, stored⟩ := Option.isSome_iff_exists.1 present
      obtain rfl := image_injective faithful known (twin.kept own value stored).1 same
      rw [found] at stored
      cases stored

theorem agree (twin : KeyedTwin extent shift one two) (agrees : Agrees extent shift next)
    (within : extent.Within wider) : KeyedTwin wider next one two := by
  refine ⟨fun key value found => ?_, fun key present => ?_⟩
  · obtain ⟨known, known', found'⟩ := twin.kept key value found
    refine ⟨known.within within, known'.within within, ?_⟩
    rw [← known _ _ agrees, ← known' _ _ agrees]
    exact found'
  · obtain ⟨own, present', same⟩ := twin.only key present
    obtain ⟨value, found⟩ := Option.isSome_iff_exists.1 present'
    exact ⟨own, present', same.trans ((twin.kept own value found).1 _ _ agrees)⟩

theorem insert [LawfulBEq κ] (twin : KeyedTwin extent shift one two) (faithful : Faithful extent shift)
    (known : Known extent key) (known' : Known extent value) :
    KeyedTwin extent shift (one.insert key value)
      (two.insert (shift.image key) (shift.image value)) := by
  refine ⟨fun other stored found => ?_, fun other present => ?_⟩
  · rw [Std.HashMap.getElem?_insert] at found
    by_cases same : key = other
    · subst same
      simp only [beq_self_eq_true, if_true, Option.some.injEq] at found
      subst found
      exact ⟨known, known', by simp⟩
    · have different : (key == other) = false := by simpa using same
      rw [different] at found
      obtain ⟨inner, inner', found'⟩ := twin.kept other stored found
      refine ⟨inner, inner', ?_⟩
      have different' : (shift.image key == shift.image other) = false := by
        simpa using fun equal => same (image_injective faithful known inner equal)
      rw [Std.HashMap.getElem?_insert, different']
      exact found'
  · rw [Std.HashMap.getElem?_insert] at present
    by_cases same : shift.image key = other
    · exact ⟨key, by simp, same.symm⟩
    · have different : (shift.image key == other) = false := by simpa using same
      rw [different] at present
      obtain ⟨own, present', equal⟩ := twin.only other present
      refine ⟨own, ?_, equal⟩
      have different' : (key == own) = false := by
        simpa using fun equal' => same (by rw [equal, equal'])
      rw [Std.HashMap.getElem?_insert, different']
      exact present'

end KeyedTwin

/-! ### The registry of definitions -/

instance : Renames DefRequest where
  image shift request := { request with specialization := shift.image request.specialization }
  image_id request := by simp
  image_image first second request := by simp

theorem image_request (request : DefRequest) : shift.image request =
    { request with specialization := shift.image request.specialization } := rfl

@[simp] theorem indexName?_image (request : DefRequest) :
    (shift.image request).indexName? = request.indexName? := by
  rcases request with ⟨name, kind, locator, _ | key⟩ <;> rfl

/-- A definition that is pushed is known if its type and its key are. -/
theorem known_pushed (registry : TypeRegistry) {types : Nat} {request : DefRequest} {ty : TypeId}
    (known : Known ⟨types, registry.defs.size + 1⟩ request.specialization) (below : ty.index < types) :
    Known ⟨types, registry.defs.size + 1⟩ (registry.pushed request ty) :=
  known_entry.2 ⟨known_def.2 (Nat.lt_succ_self _), known_type.2 below, known, known_none⟩

/-- Every id that the first registry gave out leads to the same definition in the second, or to
none in both, and names lead to the same ids. -/
structure RegistryTwin (extent : Extent) (shift : Renaming) (one two : TypeRegistry) : Prop where
  size : extent.defs = one.defs.size
  inside : ∀ id : DefId, id.index < extent.defs → (shift.defs id).index < two.defs.size
  get? : ∀ id : DefId, id.index < extent.defs →
    two.get? (shift.defs id) = shift.image (one.get? id)
  known : ∀ id entry, one.get? id = some entry → Known extent entry
  names : ∀ name : Name, two.names[name]? = shift.image one.names[name]?
  named : ∀ (name : Name) id, one.names[name]? = some id → Known extent id

namespace RegistryTwin

variable {one two : TypeRegistry} {id : DefId}

theorem agree (twin : RegistryTwin extent shift one two) (agrees : Agrees extent shift next)
    (within : extent.Within wider) (same : wider.defs = extent.defs) :
    RegistryTwin wider next one two where
  size := same.trans twin.size
  inside id below := by
    rw [same] at below
    rw [← agrees.defs id below]
    exact twin.inside id below
  get? id below := by
    rw [same] at below
    rw [← agrees.defs id below, twin.get? id below]
    cases live : one.get? id with
    | none => rfl
    | some entry => exact congrArg some (twin.known id entry live _ _ agrees)
  known id entry live := (twin.known id entry live).within within
  names name := by
    rw [twin.names name]
    cases found : one.names[name]? with
    | none => rfl
    | some id => exact congrArg some (twin.named name id found _ _ agrees)
  named name id found := (twin.named name id found).within within

/-- Both registries accept a name, or both refuse it because of the same definition. -/
theorem checkName (twin : RegistryTwin extent shift one two) (request : DefRequest) :
    two.checkName (shift.image request) = match one.checkName request with
      | .ok () => .ok ()
      | .error err => .error (shift.image err) := by
  unfold TypeRegistry.checkName
  rw [indexName?_image]
  cases request.indexName? with
  | none => rfl
  | some name =>
    simp only [twin.names name]
    cases one.names[name]? <;> rfl

theorem checkName_known (twin : RegistryTwin extent shift one two) {request : DefRequest}
    {err : RegistryError} (refused : one.checkName request = .error err) : Known extent err := by
  unfold TypeRegistry.checkName at refused
  split at refused
  · cases refused
  · split at refused
    · rename_i existing found
      cases refused
      exact known_duplicate.2 (twin.named _ existing found)
    · cases refused

/-- Both registries add a definition at their next id. -/
theorem push (twin : RegistryTwin extent shift one two) {request : DefRequest} {ty : TypeId}
    {types : Nat} (agrees : Agrees extent shift next) (more : extent.types ≤ types)
    (new : next.defs one.nextId = two.nextId) (known : Known extent request.specialization)
    (below : ty.index < types) :
    RegistryTwin ⟨types, one.defs.size + 1⟩ next (one.push request ty).2
        (two.push (next.image request) (next.types ty)).2 ∧
      two.pushed (next.image request) (next.types ty) = next.image (one.pushed request ty) ∧
      Known ⟨types, one.defs.size + 1⟩ (one.pushed request ty) := by
  have size := twin.size
  have within : extent.Within ⟨types, one.defs.size + 1⟩ := ⟨more, by simp [size]⟩
  have entry : two.pushed (next.image request) (next.types ty) =
      next.image (one.pushed request ty) := by
    simp [TypeRegistry.pushed, TypeRegistry.push, image_entry, image_request, ← new]
  have fresh := known_pushed one (known.within within) below
  have older : ∀ id : DefId, id ≠ one.nextId → id.index < one.defs.size + 1 →
      id.index < extent.defs := by
    rw [size]
    exact fun id => TypeRegistry.lt_size_of_ne_nextId
  refine ⟨⟨by simp [TypeRegistry.size_push], fun id within => ?_, fun id within => ?_,
    fun id stored live => ?_, fun name => ?_, fun name id found => ?_⟩, entry, fresh⟩
  · rw [TypeRegistry.size_push]
    by_cases last : id = one.nextId
    · rw [last, new]
      exact Nat.lt_succ_self _
    · have inner := older id last within
      rw [← agrees.defs id inner]
      exact Nat.lt_succ_of_lt (twin.inside id inner)
  · rw [TypeRegistry.get?_push, TypeRegistry.get?_push]
    by_cases last : id = one.nextId
    · rw [last, new, if_pos rfl, if_pos rfl, entry, image_some]
    · have inner := older id last within
      have different : next.defs id ≠ two.nextId := by
        intro same
        have below := twin.inside id inner
        rw [agrees.defs id inner, same] at below
        exact Nat.lt_irrefl _ below
      rw [if_neg last, if_neg different, ← agrees.defs id inner, twin.get? id inner]
      cases live : one.get? id with
      | none => rfl
      | some entry => exact congrArg some (twin.known id entry live _ _ agrees)
  · rw [TypeRegistry.get?_push] at live
    split at live
    · cases live
      exact fresh
    · exact (twin.known id stored live).within within
  · have old : two.names[name]? = next.image one.names[name]? := by
      rw [twin.names name]
      cases found : one.names[name]? with
      | none => rfl
      | some id => exact congrArg some (twin.named name id found _ _ agrees)
    simp only [TypeRegistry.push, indexName?_image]
    cases request.indexName? with
    | none => exact old
    | some own =>
      simp only [Std.HashMap.getElem?_insert]
      split
      · exact congrArg some new.symm
      · exact old
  · simp only [TypeRegistry.push] at found
    split at found
    · rw [Std.HashMap.getElem?_insert] at found
      split at found
      · cases found
        exact known_def.2 (Nat.lt_succ_self _)
      · exact (twin.named name id found).within within
    · exact (twin.named name id found).within within

/-- The definitions of the second registry after both change one definition alike. -/
private theorem changed (twin : RegistryTwin extent shift one two)
    (faithful : Faithful extent shift) (inner : id.index < extent.defs)
    {one' two' : TypeRegistry} {stored : Option TypeDef} (kept : Known extent stored)
    (size : one'.defs.size = one.defs.size) (size' : two'.defs.size = two.defs.size)
    (found : ∀ other, one'.get? other = if other = id then stored else one.get? other)
    (found' : ∀ other, two'.get? other =
      if other = shift.defs id then shift.image stored else two.get? other)
    (names : ∀ name : Name, two'.names[name]? = shift.image one'.names[name]?)
    (named : ∀ (name : Name) id, one'.names[name]? = some id → Known extent id) :
    RegistryTwin extent shift one' two' := by
  refine ⟨twin.size.trans size.symm, fun other below => ?_, fun other below => ?_,
    fun other entry live => ?_, names, named⟩
  · rw [size']
    exact twin.inside other below
  · rw [found, found']
    by_cases same : other = id
    · rw [same, if_pos rfl, if_pos rfl]
    · have different : shift.defs other ≠ shift.defs id :=
        fun equal => same (faithful.defs other id below inner equal)
      rw [if_neg same, if_neg different]
      exact twin.get? other below
  · rw [found] at live
    split at live
    · rw [live, known_some] at kept
      exact kept
    · exact twin.known other entry live

/-- Both registries give a definition its body, or both refuse it. -/
theorem define (twin : RegistryTwin extent shift one two) (faithful : Faithful extent shift)
    (known : Known extent id) {body : DefBody} (known' : Known extent body) :
    (∃ err, one.define id body = .error err ∧ Known extent err ∧
      two.define (shift.defs id) (shift.image body) = .error (shift.image err)) ∨
    ∃ one' two', one.define id body = .ok one' ∧
      two.define (shift.defs id) (shift.image body) = .ok two' ∧
      one'.defs.size = one.defs.size ∧ RegistryTwin extent shift one' two' := by
  rw [known_def] at known
  have there := twin.get? id known
  cases live : one.get? id with
  | none =>
    rw [live] at there
    refine .inl ⟨.unknownDef id, by simp [TypeRegistry.define, live],
      known_unknownDef.2 (known_def.2 known), ?_⟩
    simp [TypeRegistry.define, there]
  | some entry =>
    rw [live] at there
    cases whole : entry.body with
    | some old =>
      refine .inl ⟨.alreadyDefined id, by simp [TypeRegistry.define, live, whole],
        known_alreadyDefined.2 (known_def.2 known), ?_⟩
      simp [TypeRegistry.define, there, image_entry, whole]
    | none =>
      obtain ⟨one', defined⟩ := TypeRegistry.define_bare live whole
      obtain ⟨two', defined'⟩ := TypeRegistry.define_bare there
        (by simp [image_entry, whole])
      obtain ⟨stored, live₁, -, names, size, found⟩ := TypeRegistry.define_ok defined
      obtain ⟨stored', live₂, -, names', size', found'⟩ := TypeRegistry.define_ok defined'
      cases live.symm.trans live₁
      cases there.symm.trans live₂
      obtain ⟨own, type, specialization, -⟩ := known_entry.1 (twin.known id entry live)
      refine .inr ⟨one', two', defined, defined', size, twin.changed faithful known
        ?_ size size' found found'
        (fun name => ?_) fun name id named => ?_⟩
      · exact known_some.2 (known_entry.2 ⟨own, type, specialization, known_some.2 known'⟩)
      · rw [names, names']
        exact twin.names name
      · rw [names] at named
        exact twin.named name id named

/-- Both registries take a definition back, if they have it. -/
theorem withdraw (twin : RegistryTwin extent shift one two) (faithful : Faithful extent shift)
    (known : Known extent id) :
    ((one.withdraw id).toOption.getD one).defs.size = one.defs.size ∧
    RegistryTwin extent shift ((one.withdraw id).toOption.getD one)
      ((two.withdraw (shift.defs id)).toOption.getD two) := by
  rw [known_def] at known
  have there := twin.get? id known
  cases live : one.get? id with
  | none =>
    rw [live] at there
    simpa [TypeRegistry.withdraw, live, there, Except.toOption] using twin
  | some entry =>
    rw [live] at there
    obtain ⟨one', withdrawn, size, names, found⟩ := TypeRegistry.withdraw_live live
    obtain ⟨two', withdrawn', size', names', found'⟩ := TypeRegistry.withdraw_live there
    rw [withdrawn, withdrawn']
    change one'.defs.size = one.defs.size ∧ RegistryTwin extent shift one' two'
    refine ⟨size, twin.changed faithful known known_none size size' found found'
      (fun name => ?_) fun name other named => ?_⟩
    · have leads : two.names[name]? = some (shift.defs id) ↔ one.names[name]? = some id := by
        rw [twin.names name]
        cases stored : one.names[name]? with
        | none => simp
        | some other =>
          have inner := known_def.1 (twin.named name other stored)
          simp only [image_some, image_def, Option.some.injEq]
          exact ⟨faithful.defs other id inner known, congrArg _⟩
      simp only [names, names', TypeRegistry.getElem?_namesWithout, leads,
        show (shift.image entry).name = entry.name from rfl]
      split
      · rfl
      · exact twin.names name
    · rw [names, TypeRegistry.getElem?_namesWithout] at named
      split at named
      · cases named
      · exact twin.named name other named

end RegistryTwin

/-! ### The registry of templates -/

/-- Both registries hold the same templates, apart from the numbers of the types they mention. -/
structure TemplatesTwin (extent : Extent) (shift : Renaming) (one two : TemplateRegistry) :
    Prop where
  size : two.templates.size = one.templates.size
  get? : ∀ id, two.get? id = shift.image (one.get? id)
  known : ∀ id template, one.get? id = some template → Known extent template
  names : two.names = one.names

namespace TemplatesTwin

variable {one two : TemplateRegistry}

theorem agree (twin : TemplatesTwin extent shift one two) (agrees : Agrees extent shift next)
    (within : extent.Within wider) : TemplatesTwin wider next one two where
  size := twin.size
  get? id := by
    rw [twin.get? id]
    cases registered : one.get? id with
    | none => rfl
    | some template => exact congrArg some (twin.known id template registered _ _ agrees)
  known id template registered := (twin.known id template registered).within within
  names := twin.names

@[simp] theorem sort_image (kind : TemplateParamKind) : (shift.image kind).sort = kind.sort := by
  cases kind <;> rfl

@[simp] theorem argumentSort_image (argument : TemplateArgument) :
    (shift.image argument).sort = argument.sort := by
  cases argument <;> rfl

@[simp] theorem required_image (template : TemplateDef) :
    (shift.image template).required = template.required := by
  simp only [TemplateDef.required, image_templateDef]
  induction template.parameters with
  | nil => rfl
  | cons param rest ih =>
    rw [image_cons, List.findIdx_cons, List.findIdx_cons, ih]
    rcases param with ⟨name, kind, _ | default⟩ <;> rfl

theorem check_image (template : TemplateDef) : (shift.image template).check = template.check := by
  have same : ∀ (params : List TemplateParameter) (required index : Nat),
      TemplateDef.checkFrom required index (shift.image params) =
        TemplateDef.checkFrom required index params := by
    intro params required index
    induction params generalizing index with
    | nil => rfl
    | cons param rest ih =>
      rcases param with ⟨name, kind, _ | default⟩ <;>
        simp [TemplateDef.checkFrom, image_parameter, ih]
  simp only [TemplateDef.check, required_image]
  exact same _ _ _

/-- Both registries register a template under the same id, or both refuse it. -/
theorem register (twin : TemplatesTwin extent shift one two) {template : TemplateDef}
    (known : Known extent template) :
    (∃ err, one.register template = .error err ∧
      two.register (shift.image template) = .error err) ∨
    ∃ id one' two', one.register template = .ok (id, one') ∧
      two.register (shift.image template) = .ok (id, two') ∧
      TemplatesTwin extent shift one' two' := by
  have next : two.nextId = one.nextId := by simp [TemplateRegistry.nextId, twin.size]
  cases checked : template.check with
  | error err =>
    refine .inl ⟨err, ?_, ?_⟩
    · simp [TemplateRegistry.register, checked]
    · simp [TemplateRegistry.register, check_image, checked]
  | ok value =>
    have here : one.register template = .ok (one.nextId,
        ⟨one.templates.push template, one.names.insert template.name one.nextId⟩) := by
      simp [TemplateRegistry.register, checked]
    have there : two.register (shift.image template) = .ok (one.nextId,
        ⟨two.templates.push (shift.image template),
          two.names.insert template.name one.nextId⟩) := by
      simp [TemplateRegistry.register, check_image, checked, next]
      rfl
    obtain ⟨-, -, -, found⟩ := TemplateRegistry.register_ok here
    obtain ⟨-, -, -, found'⟩ := TemplateRegistry.register_ok there
    refine .inr ⟨_, _, _, here, there, by simp [twin.size], fun id => ?_,
      fun id stored registered => ?_, by simp [twin.names]⟩
    · rw [found, found', next]
      split
      · rfl
      · exact twin.get? id
    · rw [found] at registered
      split at registered
      · cases registered
        exact known
      · exact twin.known id stored registered

end TemplatesTwin

end FrontEnd
