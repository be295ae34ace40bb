import FrontEnd.Proofs.Renaming.Data
import FrontEnd.Proofs.Typing.Sharding

/-!
The numbers are all that two lawful tables of types differ in. Whatever state one comes to, the
other can come to a state with the same types, numbered differently: each step is taken over with
the forms renumbered. So the pool of one table stands for the one that is spread over shards.
-/

namespace FrontEnd

/-! ### Forms with other numbers -/

namespace TypeForm

/-- The form over the types that take the places of its children. -/
def renumber (names : TypeId → TypeId) (form : TypeForm) : TypeForm :=
  Renaming.image ⟨names, fun id => id⟩ form

variable {names first second : TypeId → TypeId} {form : TypeForm}

theorem children_renumber : (form.renumber names).children = form.children.map names := by
  cases form <;> rfl

theorem renumber_congr (same : ∀ child ∈ form.children, first child = second child) :
    form.renumber first = form.renumber second := by
  cases form with
  | pointer target => exact congrArg TypeForm.pointer (same target (by simp [children]))
  | array element length =>
    exact congrArg (TypeForm.array · length) (same element (by simp [children]))
  | slice element => exact congrArg TypeForm.slice (same element (by simp [children]))
  | function parameters result variadic =>
    have parameters_same : parameters.map first = parameters.map second :=
      List.map_congr_left fun ty member => same ty (by simp [children, member])
    exact congrArg₂ (TypeForm.function · · variadic) parameters_same
      (same result (by simp [children]))
  | qualified base quals =>
    exact congrArg (TypeForm.qualified · quals) (same base (by simp [children]))
  | _ => rfl

theorem renumber_renumber :
    (form.renumber first).renumber second = form.renumber fun ty => second (first ty) :=
  Renames.image_image ..

theorem renumber_self (same : ∀ child ∈ form.children, names child = child) :
    form.renumber names = form :=
  (renumber_congr same).trans (Renames.image_id form)

theorem isQualified_renumber : (TypeFlags.ofOutermost (form.renumber names)).isQualified =
    (TypeFlags.ofOutermost form).isQualified := by
  cases form <;> rfl

theorem renumber_eq_qualified {base : TypeId} {quals : Qualifiers}
    (same : form.renumber names = .qualified base quals) :
    ∃ own, form = .qualified own quals ∧ base = names own := by
  cases form <;> cases same
  exact ⟨_, rfl, rfl⟩

end TypeForm

namespace TypeTable

variable {σ τ : Type} {table : TypeTable σ} {table' : TypeTable τ} {valid : σ → Prop}
  {valid' : τ → Prop} {now after start : σ} {now' after' start' : τ} {there back : TypeId → TypeId}
  {form stored : TypeForm} {ty ty' other : TypeId}

/-- Two states hold the same types under different numbers. -/
structure Mirrors (table : TypeTable σ) (table' : TypeTable τ) (now : σ) (now' : τ)
    (there back : TypeId → TypeId) : Prop where
  image : ∀ ty form, table.form? now ty = some form →
    table'.form? now' (there ty) = some (form.renumber there)
  origin : ∀ ty form, table'.form? now' ty = some form →
    table.form? now (back ty) = some (form.renumber back)
  back_there : ∀ ty, table.Holds now ty → back (there ty) = ty
  there_back : ∀ ty, table'.Holds now' ty → there (back ty) = ty

theorem Mirrors.symm (mirrors : table.Mirrors table' now now' there back) :
    table'.Mirrors table now' now back there :=
  ⟨mirrors.origin, mirrors.image, mirrors.there_back, mirrors.back_there⟩

theorem Holds.image (mirrors : table.Mirrors table' now now' there back)
    (held : table.Holds now ty) : table'.Holds now' (there ty) := by
  obtain ⟨form, held⟩ := held
  exact ⟨_, mirrors.image ty form held⟩

theorem Fits.image (mirrors : table.Mirrors table' now now' there back)
    (fits : table.Fits now form) : table'.Fits now' (form.renumber there) where
  children child member := by
    rw [TypeForm.children_renumber] at member
    obtain ⟨own, listed, rfl⟩ := List.mem_map.1 member
    exact (fits.children own listed).image mirrors
  canonical base quals same := by
    obtain ⟨own, rfl, rfl⟩ := TypeForm.renumber_eq_qualified same
    obtain ⟨filled, plain, held, unqualified⟩ := fits.canonical own quals rfl
    exact ⟨filled, _, mirrors.image own plain held,
      TypeForm.isQualified_renumber.trans unqualified⟩

/-- A form is as it was after it is taken over and back. -/
theorem Fits.renumber_back (mirrors : table.Mirrors table' now now' there back)
    (fits : table.Fits now form) : (form.renumber there).renumber back = form := by
  rw [TypeForm.renumber_renumber]
  exact TypeForm.renumber_self fun child member =>
    mirrors.back_there child (fits.children child member)

/-- Two states with the same types mirror each other. -/
theorem Mirrors.of_same (same : ∀ ty, table.form? now ty = table'.form? now' ty) :
    table.Mirrors table' now now' (fun ty => ty) (fun ty => ty) where
  image ty form held := by
    rw [TypeForm.renumber_self fun _ _ => rfl, ← same, held]
  origin ty form held := by
    rw [TypeForm.renumber_self fun _ _ => rfl, same, held]
  back_there _ _ := rfl
  there_back _ _ := rfl

/-- A form that is new to one table is new to the other. -/
theorem Mirrors.absent (mirrors : table.Mirrors table' now now' there back)
    (fits : table.Fits now form) (absent : ∀ ty, table.form? now ty ≠ some form) (ty : TypeId) :
    table'.form? now' ty ≠ some (form.renumber there) := by
  intro held
  have origin := mirrors.origin ty _ held
  rw [fits.renumber_back mirrors] at origin
  exact absent _ origin

/-! ### Taking over one step -/

/-- The numbers with one more. -/
def extended (names : TypeId → TypeId) (ty image : TypeId) : TypeId → TypeId :=
  fun other => if other = ty then image else names other

theorem extended_self (names : TypeId → TypeId) (ty image : TypeId) :
    extended names ty image ty = image := if_pos rfl

theorem extended_of_ne {names : TypeId → TypeId} {other image : TypeId} (different : other ≠ ty) :
    extended names ty image other = names other := if_neg different

/-- A type was not there before its form was. -/
theorem Lawful.fresh (lawful : table.Lawful valid) (good : valid now)
    (made : table.intern now form = some (ty, after))
    (absent : ∀ ty, table.form? now ty ≠ some form) {other : TypeId}
    (held : table.Holds now other) : other ≠ ty := by
  rintro rfl
  obtain ⟨stored, held⟩ := held
  have same := (lawful.kept good made held).symm.trans (lawful.found good made)
  cases same
  exact absent _ held

theorem renumber_extended (lawful : table.Lawful valid) (good : valid now)
    (made : table.intern now form = some (ty, after))
    (absent : ∀ ty, table.form? now ty ≠ some form) {stored : TypeForm} {image : TypeId}
    (fits : table.Fits now stored) :
    stored.renumber (extended there ty image) = stored.renumber there :=
  TypeForm.renumber_congr fun child member =>
    extended_of_ne (lawful.fresh good made absent (fits.children child member))

/-- What the table holds after a form was added has its image after the image was added. -/
theorem Mirrors.image_added (lawful : table.Lawful valid) (lawful' : table'.Lawful valid')
    (good : table.Good valid now) (good' : valid' now')
    (mirrors : table.Mirrors table' now now' there back) (fits : table.Fits now form)
    (absent : ∀ ty, table.form? now ty ≠ some form)
    (made : table.intern now form = some (ty, after))
    (made' : table'.intern now' (form.renumber there) = some (ty', after')) (other : TypeId)
    (stored : TypeForm) (held : table.form? after other = some stored) :
    table'.form? after' (extended there ty ty' other) =
      some (stored.renumber (extended there ty ty')) := by
  rcases lawful.only good.valid made held with earlier | rfl
  · rw [extended_of_ne (lawful.fresh good.valid made absent ⟨_, earlier⟩),
      renumber_extended lawful good.valid made absent (good.stored _ _ earlier)]
    exact lawful'.kept good' made' (mirrors.image _ _ earlier)
  · have last : other = ty :=
      lawful.distinct (lawful.stays good.valid made) held (lawful.found good.valid made)
    rw [last, extended_self, renumber_extended lawful good.valid made absent fits]
    exact lawful'.found good' made'

theorem Mirrors.back_added (lawful : table.Lawful valid) (lawful' : table'.Lawful valid')
    (good : table.Good valid now) (good' : valid' now')
    (mirrors : table.Mirrors table' now now' there back)
    (fits : table.Fits now form) (absent : ∀ ty, table.form? now ty ≠ some form)
    (made : table.intern now form = some (ty, after))
    (made' : table'.intern now' (form.renumber there) = some (ty', after')) (other : TypeId)
    (held : table.Holds after other) :
    extended back ty' ty (extended there ty ty' other) = other := by
  obtain ⟨stored, held⟩ := held
  rcases lawful.only good.valid made held with earlier | rfl
  · have image := mirrors.image _ _ earlier
    rw [extended_of_ne (lawful.fresh good.valid made absent ⟨_, earlier⟩),
      extended_of_ne (lawful'.fresh good' made' (mirrors.absent fits absent) ⟨_, image⟩)]
    exact mirrors.back_there other ⟨_, earlier⟩
  · have last : other = ty :=
      lawful.distinct (lawful.stays good.valid made) held (lawful.found good.valid made)
    rw [last, extended_self, extended_self]

/-- A form that is interned here can be interned there. -/
theorem Mirrors.interned (lawful : table.Lawful valid) (lawful' : table'.Lawful valid')
    (good : table.Good valid now) (good' : table'.Good valid' now')
    (mirrors : table.Mirrors table' now now' there back) (fits : table.Fits now form)
    (made : table.intern now form = some (ty, after))
    (made' : table'.intern now' (form.renumber there) = some (ty', after')) :
    ∃ there back, table.Mirrors table' after after' there back := by
  by_cases held : ∃ ty, table.form? now ty = some form
  · obtain ⟨_, held⟩ := held
    have known := (lawful.known good.valid held).symm.trans made
    have known' := (lawful'.known good'.valid (mirrors.image _ _ held)).symm.trans made'
    cases known
    cases known'
    exact ⟨there, back, mirrors⟩
  · have absent : ∀ ty, table.form? now ty ≠ some form := fun ty held' => held ⟨ty, held'⟩
    have absent' := mirrors.absent fits absent
    have fits' := fits.image mirrors
    have made_back : table.intern now ((form.renumber there).renumber back) = some (ty, after) := by
      rwa [fits.renumber_back mirrors]
    exact ⟨extended there ty ty', extended back ty' ty,
      mirrors.image_added lawful lawful' good good'.valid fits absent made made',
      mirrors.symm.image_added lawful' lawful good' good.valid fits' absent' made' made_back,
      mirrors.back_added lawful lawful' good good'.valid fits absent made made',
      mirrors.symm.back_added lawful' lawful good' good.valid fits' absent' made' made_back⟩

/-- A step changes nothing or interns a form. -/
theorem Step.interns (lawful : table.Lawful valid) (good : table.Good valid now)
    (step : table.Step now after) : after = now ∨
      ∃ form ty, table.Fits now form ∧ table.intern now form = some (ty, after) := by
  cases step with
  | interned fits made => exact .inr ⟨_, _, fits, made⟩
  | qualified held made =>
    rcases lawful.qualified_cases good held made with ⟨-, -, rfl⟩ | ⟨fits, made⟩
    · exact .inl rfl
    · exact .inr ⟨_, _, fits, made⟩

/-- What one lawful table comes to, another that has room for everything comes to as well, but for
the numbers. -/
theorem Leads.mirrored (lawful : table.Lawful valid) (lawful' : table'.Lawful valid')
    (room : ∀ now form, ∃ made, table'.intern now form = some made)
    (good : table.Good valid start) (good' : table'.Good valid' start')
    (mirrors : table.Mirrors table' start start' there back) (leads : table.Leads start now) :
    ∃ now' there back, table'.Leads start' now' ∧ table.Mirrors table' now now' there back := by
  induction leads with
  | refl => exact ⟨start', there, back, .refl, mirrors⟩
  | tail first step ih =>
    obtain ⟨now', there, back, first', mirrors⟩ := ih
    have good := (Leads.good lawful good first).2
    have good' := (Leads.good lawful' good' first').2
    rcases step.interns lawful good with rfl | ⟨form, ty, fits, made⟩
    · exact ⟨now', there, back, first', mirrors⟩
    · obtain ⟨⟨ty', after'⟩, made'⟩ := room now' (form.renumber there)
      obtain ⟨there, back, mirrors'⟩ := mirrors.interned lawful lawful' good good' fits made made'
      exact ⟨after', there, back, first'.tail (.interned (fits.image mirrors) made'), mirrors'⟩

end TypeTable

/-- Whatever the hash, what the pool of shards comes to hold, the pool of one table can come to hold
as well, with numbers of its own. -/
theorem ShardedPool.mirrored {hash : TypeForm → Nat} {sharded : ShardedPool}
    (leads : (table hash).Leads new sharded) : ∃ pool there back,
      TypePool.table.Leads .new pool ∧
        (table hash).Mirrors TypePool.table sharded pool there back := by
  have lawful := table_lawful hash
  have lawful' := TypePool.table_lawful
  have same (ty : TypeId) : (table hash).form? new ty = TypePool.table.form? .new ty :=
    (form?_new ty).trans (TypePool.form?_new_eq ty).symm
  exact leads.mirrored lawful lawful' (fun pool form => ⟨pool.intern form, rfl⟩)
    (.of_primitives (sound_new hash) form?_new)
    (.of_primitives TypePool.sound_new TypePool.form?_new_eq) (.of_same same)

end FrontEnd
