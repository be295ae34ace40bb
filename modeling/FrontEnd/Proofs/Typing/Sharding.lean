import FrontEnd.Proofs.Typing.Identity
import FrontEnd.Proofs.Typing.Pool
import FrontEnd.Typing.Shards

/-!
Two pools that identify types by their numbers: the one that is a single table, and the one that is
spread over shards, whatever the hash. In the latter the slots and the forms of each shard answer
each other, the primitive types are found without a look at any shard, and every other form is in
the shard of its hash only.
-/

namespace FrontEnd

/-! ### One table -/

namespace TypePool

/-- What a pool of one table answers. It always has room. -/
def table : TypeTable TypePool where
  form? := form?
  split := split
  intern pool form := some (pool.intern form)
  qualified pool ty quals := some (pool.qualified ty quals)

theorem table_lawful : table.Lawful Sound where
  distinct sound there there' :=
    Option.some.inj (((sound.exact _ _).2 there).symm.trans ((sound.exact _ _).2 there'))
  split ty sound := split_eq sound.honest ty
  known sound there := congrArg some (intern_of_form? sound.exact there)
  stays {_ _ form _} sound made := by
    have stays := sound_intern sound form
    rwa [Option.some.inj made] at stays
  found {_ _ form _} sound made := by
    have there := form?_intern sound form
    rwa [Option.some.inj made] at there
  kept {before _ form _ _ _} sound made there := by
    have kept := kept_intern before form
    rw [Option.some.inj made] at kept
    exact form?_kept kept there
  only {before _ form _ other stored} sound made there := by
    have made := Option.some.inj made
    cases known : before.ids[form]? with
    | some ty =>
      rw [intern_of_some known] at made
      cases made
      exact .inl there
    | none =>
      rw [intern_of_none known] at made
      cases made
      have added : (before.push form).form? other = some stored := there
      rw [form?_push] at added
      split at added
      · exact .inr (Option.some.inj added).symm
      · exact .inl added
  qualified {now ty quals} _ := apply_ite some (((now.split ty).2.union quals).isEmpty = true) ..

end TypePool

/-! ### Numbers of shards and slots -/

namespace TypeId

variable {ty : TypeId} {shard slot : Nat}

theorem ofShard_shard_slot (ty : TypeId) : ofShard ty.shard ty.slot = ty :=
  congrArg TypeId.mk (Nat.div_add_mod' ty.index shardSize)

theorem shard_ofShard (below : slot < shardSize) : (ofShard shard slot).shard = shard := by
  simp only [TypeId.shard, ofShard, shardSize] at *
  omega

theorem slot_ofShard (below : slot < shardSize) : (ofShard shard slot).slot = slot := by
  simp only [TypeId.slot, ofShard, shardSize] at *
  omega

theorem shard_eq_zero (below : ty.index < shardSize) : ty.shard = 0 := Nat.div_eq_of_lt below

theorem slot_eq_index (first : ty.shard = 0) : ty.slot = ty.index := by
  have whole := congrArg TypeId.index (ofShard_shard_slot ty)
  simpa [ofShard, first] using whole

theorem eq_ofShard_iff (below : slot < shardSize) :
    ty = ofShard shard slot ↔ ty.shard = shard ∧ ty.slot = slot := by
  constructor
  · rintro rfl
    exact ⟨shard_ofShard below, slot_ofShard below⟩
  · rintro ⟨rfl, rfl⟩
    exact (ofShard_shard_slot ty).symm

end TypeId

theorem TypeForm.primitive?_getElem : ∀ index : Fin TypeForm.primitives.length,
    TypeForm.primitives[index].primitive? = some ⟨index⟩ := by decide

/-- The primitive types are listed in the order of their fixed numbers. -/
theorem TypeForm.primitive?_eq_some {form : TypeForm} {ty : TypeId} :
    form.primitive? = some ty ↔ TypeForm.primitives[ty.index]? = some form := by
  constructor
  · intro fixed
    unfold TypeForm.primitive? at fixed
    split at fixed <;> cases fixed <;> rfl
  · intro listed
    obtain ⟨below, rfl⟩ := List.getElem?_eq_some_iff.1 listed
    exact primitive?_getElem ⟨ty.index, below⟩

/-! ### One shard -/

namespace TypeShard

variable {shard : TypeShard} {form other : TypeForm} {slot : Nat} {flags : TypeFlags}

/-- The form in a slot. -/
def form? (shard : TypeShard) (slot : Nat) : Option TypeForm := (shard.entries[slot]?).map Prod.fst

/-- What holds of every shard: slots and forms answer each other, only qualified types are flagged
as such, and the slots can be told apart by their numbers. -/
structure Sound (shard : TypeShard) : Prop where
  exact : ∀ form slot, shard.slots[form]? = some slot ↔ shard.form? slot = some form
  honest : ∀ (slot : Nat) entry, shard.entries[slot]? = some entry →
    entry.2.isQualified = (TypeFlags.ofOutermost entry.1).isQualified
  small : shard.entries.size ≤ TypeId.shardSize

theorem lt_size_of_form? (there : shard.form? slot = some form) : slot < shard.entries.size := by
  obtain ⟨entry, stored, -⟩ := Option.map_eq_some_iff.1 there
  exact (Array.getElem?_eq_some_iff.1 stored).1

theorem form?_push (slot : Nat) : (shard.push form flags).form? slot =
    if slot = shard.entries.size then some form else shard.form? slot := by
  simp only [form?, push, Array.getElem?_push]
  split <;> rfl

theorem slots_push (other : TypeForm) : (shard.push form flags).slots[other]? =
    if form = other then some shard.entries.size else shard.slots[other]? := by
  simp only [push, Std.HashMap.getElem?_insert, beq_iff_eq]

theorem Sound.empty : Sound {} where
  exact form slot := by simp [form?]
  honest slot entry stored := by simp at stored
  small := Nat.zero_le _

/-- A form that was not there may be added as long as there is room. -/
theorem Sound.push (sound : shard.Sound) (absent : shard.slots[form]? = none)
    (room : shard.entries.size < TypeId.shardSize)
    (flagged : flags.isQualified = (TypeFlags.ofOutermost form).isQualified) :
    (shard.push form flags).Sound where
  exact other slot := by
    rw [form?_push, slots_push]
    by_cases same : form = other <;> by_cases last : slot = shard.entries.size
    · simp [same, last]
    · have unknown : shard.form? slot ≠ some other := by
        rw [Ne, ← sound.exact, ← same, absent]
        simp
      simp [same, last, unknown, eq_comm]
    · have unknown : shard.slots[other]? ≠ some slot := by
        rw [Ne, sound.exact]
        exact fun there => absurd (lt_size_of_form? there) (by omega)
      rw [if_neg same, if_pos last]
      simp [same, unknown]
    · simp [same, last, sound.exact other slot]
  honest slot entry stored := by
    simp only [TypeShard.push, Array.getElem?_push] at stored
    split at stored
    · cases stored
      exact flagged
    · exact sound.honest slot entry stored
  small := by
    simp only [TypeShard.push, Array.size_push]
    omega

theorem forms_foldl_push (forms : List TypeForm) (shard : TypeShard) :
    (forms.foldl (fun shard form => shard.push form (.ofForm form [])) shard).entries.toList.map
        Prod.fst =
      shard.entries.toList.map Prod.fst ++ forms := by
  induction forms generalizing shard with
  | nil => simp
  | cons form rest ih =>
    rw [List.foldl_cons, ih]
    simp [push]

theorem Sound.foldl_push (forms : List TypeForm) (sound : shard.Sound) (distinct : forms.Nodup)
    (absent : ∀ form ∈ forms, shard.slots[form]? = none)
    (room : shard.entries.size + forms.length ≤ TypeId.shardSize) :
    (forms.foldl (fun shard form => shard.push form (.ofForm form [])) shard).Sound := by
  induction forms generalizing shard with
  | nil => exact sound
  | cons form rest ih =>
    obtain ⟨unseen, distinct⟩ := List.nodup_cons.1 distinct
    rw [List.length_cons] at room
    refine ih (sound.push (absent form (by simp)) (by omega) rfl) distinct (fun other member => ?_) ?_
    · have different : form ≠ other := fun same => unseen (same ▸ member)
      rw [slots_push, if_neg different]
      exact absent other (by simp [member])
    · simp only [TypeShard.push, Array.size_push]
      omega

theorem sound_primitives : primitives.Sound :=
  Sound.empty.foldl_push _ (by decide) (by simp) (by decide)

theorem form?_primitives (slot : Nat) : primitives.form? slot = TypeForm.primitives[slot]? := by
  rw [form?, ← Array.getElem?_toList, ← List.getElem?_map, primitives, forms_foldl_push]
  simp

end TypeShard

/-! ### Sixteen shards -/

namespace ShardedPool

variable {hash : TypeForm → Nat} {pool after : ShardedPool} {form other : TypeForm} {ty : TypeId}
  {index : Fin 16} {err : TypeInternError}

/-- What holds of every pool that starts as the new one and only ever interns. -/
structure Sound (hash : TypeForm → Nat) (pool : ShardedPool) : Prop where
  shards : ∀ index : Fin 16, (pool.shard index).Sound
  first : ∀ slot, (pool.shard 0).form? slot = TypeForm.primitives[slot]?
  home : ∀ (index : Fin 16) form slot, index ≠ 0 → (pool.shard index).form? slot = some form →
    form.primitive? = none ∧ shardOf hash form = index

/-- The type of a form that the pool holds. -/
def find (hash : TypeForm → Nat) (pool : ShardedPool) (form : TypeForm) : Option TypeId :=
  match form.primitive? with
  | some ty => some ty
  | none => (pool.shard (shardOf hash form)).slots[form]?.map (.ofShard (shardOf hash form))

theorem getElem?_shards (index : Fin 16) : pool.shards[index.val]? = some (pool.shard index) :=
  Vector.getElem?_eq_getElem index.isLt

theorem content?_eq (ty : TypeId) (index : Fin 16) (same : ty.shard = index) :
    pool.content? ty = (pool.shard index).entries[ty.slot]? := by
  rw [content?, same, getElem?_shards, Option.bind_some]

theorem form?_eq (ty : TypeId) (index : Fin 16) (same : ty.shard = index) :
    pool.form? ty = (pool.shard index).form? ty.slot := by
  rw [form?, content?_eq ty index same, TypeShard.form?]

/-- A type of the pool is in one of its shards. -/
theorem exists_shard (there : pool.form? ty = some form) :
    ∃ index : Fin 16, ty.shard = index ∧ (pool.shard index).form? ty.slot = some form := by
  by_cases below : ty.shard < 16
  · exact ⟨⟨ty.shard, below⟩, rfl, (form?_eq ty ⟨_, below⟩ rfl).symm.trans there⟩
  · rw [form?, content?, Vector.getElem?_eq_none (by omega)] at there
    cases there

/-- A form is found exactly if it is there. -/
theorem find_eq_some (sound : pool.Sound hash) :
    pool.find hash form = some ty ↔ pool.form? ty = some form := by
  constructor
  · intro found
    unfold find at found
    split at found
    · rename_i fixed
      cases found
      have listed := TypeForm.primitive?_eq_some.1 fixed
      have few : ty.index < 13 := (List.getElem?_eq_some_iff.1 listed).1
      have first : ty.shard = 0 := TypeId.shard_eq_zero (Nat.lt_trans few (by decide))
      rwa [form?_eq ty 0 first, sound.first, TypeId.slot_eq_index first]
    · obtain ⟨slot, stored, rfl⟩ := Option.map_eq_some_iff.1 found
      have there := ((sound.shards _).exact form slot).1 stored
      have below := Nat.lt_of_lt_of_le (TypeShard.lt_size_of_form? there) (sound.shards _).small
      rwa [form?_eq _ _ (TypeId.shard_ofShard below), TypeId.slot_ofShard below]
  · intro there
    obtain ⟨index, same, there⟩ := exists_shard there
    by_cases first : index = 0
    · subst first
      rw [sound.first, TypeId.slot_eq_index same] at there
      simp only [find, TypeForm.primitive?_eq_some.2 there]
    · obtain ⟨derived, rfl⟩ := sound.home index form _ first there
      have stored := ((sound.shards _).exact form ty.slot).2 there
      simp only [find, derived, stored, Option.map_some, ← same, TypeId.ofShard_shard_slot]

theorem find_eq_none : pool.find hash form = none ↔
    form.primitive? = none ∧ (pool.shard (shardOf hash form)).slots[form]? = none := by
  unfold find
  split <;> simp [*]

/-! ### Adding a form -/

theorem shard_push (place : Fin 16) : (pool.push index form).shard place =
    if place = index then
      (pool.shard index).push form (.ofForm form (form.children.map pool.flags))
    else pool.shard place := by
  have placed : (pool.push index form).shards[place.val]? = some
      (if index.val = place.val then
        (pool.shard index).push form (.ofForm form (form.children.map pool.flags))
      else pool.shard place) := by
    rw [push, Vector.getElem?_set, getElem?_shards]
    split <;> rfl
  rw [getElem?_shards] at placed
  simpa only [Fin.ext_iff, eq_comm] using Option.some.inj placed

theorem content?_push (room : (pool.shard index).entries.size < TypeId.shardSize) (ty : TypeId) :
    (pool.push index form).content? ty =
      if ty = .ofShard index (pool.shard index).entries.size then
        some (form, .ofForm form (form.children.map pool.flags))
      else pool.content? ty := by
  simp only [TypeId.eq_ofShard_iff room]
  by_cases below : ty.shard < 16
  · rw [content?_eq ty ⟨_, below⟩ rfl, content?_eq ty ⟨_, below⟩ rfl, shard_push]
    by_cases same : (⟨ty.shard, below⟩ : Fin 16) = index
    · subst same
      simp [TypeShard.push, Array.getElem?_push]
    · have elsewhere : ty.shard ≠ index := fun equal => same (Fin.ext equal)
      simp [same, elsewhere]
  · have elsewhere : ty.shard ≠ index := by omega
    rw [if_neg (fun both => elsewhere both.1), content?, content?,
      Vector.getElem?_eq_none (by omega), Vector.getElem?_eq_none (by omega)]

theorem form?_push (room : (pool.shard index).entries.size < TypeId.shardSize) (ty : TypeId) :
    (pool.push index form).form? ty =
      if ty = .ofShard index (pool.shard index).entries.size then some form else pool.form? ty := by
  rw [form?, content?_push room]
  split <;> rfl

/-- A type that is there is not the next one of a shard. -/
theorem ne_next (room : (pool.shard index).entries.size < TypeId.shardSize)
    (there : pool.form? ty = some form) : ty ≠ .ofShard index (pool.shard index).entries.size := by
  intro next
  obtain ⟨same, last⟩ := (TypeId.eq_ofShard_iff room).1 next
  rw [form?_eq ty index same] at there
  exact Nat.ne_of_lt (TypeShard.lt_size_of_form? there) last

theorem shardOf_ne_zero (hash : TypeForm → Nat) (form : TypeForm) : shardOf hash form ≠ 0 := by
  rw [Ne, Fin.ext_iff]
  simp only [shardOf, Fin.val_zero]
  omega

/-- A form that was not there may be added to its shard as long as there is room. -/
theorem Sound.push (sound : pool.Sound hash) (absent : pool.find hash form = none)
    (room : (pool.shard (shardOf hash form)).entries.size < TypeId.shardSize) :
    (pool.push (shardOf hash form) form).Sound hash := by
  obtain ⟨derived, unstored⟩ := find_eq_none.1 absent
  constructor
  case shards =>
    intro index
    rw [shard_push]
    split
    · exact (sound.shards _).push unstored room rfl
    · exact sound.shards index
  case first =>
    intro slot
    rw [shard_push, if_neg (shardOf_ne_zero hash form).symm]
    exact sound.first slot
  case home =>
    intro index other slot further there
    rw [shard_push] at there
    split at there
    · rename_i same
      rw [TypeShard.form?_push] at there
      split at there
      · cases there
        exact ⟨derived, same.symm⟩
      · exact sound.home index other slot further (same ▸ there)
    · exact sound.home index other slot further there

theorem shard_new (index : Fin 16) :
    new.shard index = if index = 0 then .primitives else {} := by
  have placed : new.shards[index.val]? = some (if index = 0 then .primitives else {}) := by
    rw [new, Vector.getElem?_ofFn, dif_pos index.isLt]
  exact Option.some.inj ((getElem?_shards index).symm.trans placed)

theorem sound_new (hash : TypeForm → Nat) : new.Sound hash where
  shards index := by
    rw [shard_new]
    split
    · exact TypeShard.sound_primitives
    · exact TypeShard.Sound.empty
  first slot := by
    rw [shard_new, if_pos rfl, TypeShard.form?_primitives]
  home index form slot further there := by
    rw [shard_new, if_neg further] at there
    simp [TypeShard.form?] at there

theorem form?_new (ty : TypeId) : new.form? ty = TypeForm.primitives[ty.index]? := by
  cases listed : TypeForm.primitives[ty.index]? with
  | some form =>
    have fixed := TypeForm.primitive?_eq_some.2 listed
    refine (find_eq_some (sound_new fun _ => 0)).1 ?_
    simp only [find, fixed]
  | none =>
    refine Option.eq_none_iff_forall_ne_some.2 fun form there => ?_
    obtain ⟨index, same, there⟩ := exists_shard there
    rw [shard_new] at there
    split at there
    · rename_i first
      rw [TypeShard.form?_primitives, TypeId.slot_eq_index (by simp [same, first]), listed] at there
      cases there
    · simp [TypeShard.form?] at there

/-! ### Interning -/

theorem intern_of_find (found : pool.find hash form = some ty) :
    pool.intern hash form = .ok (ty, pool) := by
  unfold find at found
  split at found
  · rename_i fixed
    cases found
    simp only [intern, fixed]
  · rename_i derived
    obtain ⟨slot, stored, rfl⟩ := Option.map_eq_some_iff.1 found
    simp only [intern, derived, stored]

theorem intern_of_absent (absent : pool.find hash form = none) : pool.intern hash form =
    if (pool.shard (shardOf hash form)).entries.size < TypeId.shardSize then
      .ok (.ofShard (shardOf hash form) (pool.shard (shardOf hash form)).entries.size,
        pool.push (shardOf hash form) form)
    else .error (.shardFull (shardOf hash form)) := by
  obtain ⟨derived, unstored⟩ := find_eq_none.1 absent
  simp only [intern, derived, unstored]

/-- A form is given its type, or the next one of its shard. -/
theorem intern_ok (made : pool.intern hash form = .ok (ty, after)) :
    (pool.find hash form = some ty ∧ after = pool) ∨
      (pool.find hash form = none ∧
        (pool.shard (shardOf hash form)).entries.size < TypeId.shardSize ∧
        ty = .ofShard (shardOf hash form) (pool.shard (shardOf hash form)).entries.size ∧
        after = pool.push (shardOf hash form) form) := by
  cases found : pool.find hash form with
  | some other =>
    rw [intern_of_find found] at made
    cases made
    exact .inl ⟨rfl, rfl⟩
  | none =>
    rw [intern_of_absent found] at made
    split at made
    · rename_i room
      cases made
      exact .inr ⟨rfl, room, rfl, rfl⟩
    · cases made

/-- Only a form that is not there is refused, and only if its shard is full. -/
theorem intern_error_iff (sound : pool.Sound hash) : pool.intern hash form = .error err ↔
    (∀ ty, pool.form? ty ≠ some form) ∧
      (pool.shard (shardOf hash form)).entries.size = TypeId.shardSize ∧
      err = .shardFull (shardOf hash form) := by
  have small := (sound.shards (shardOf hash form)).small
  cases found : pool.find hash form with
  | some ty =>
    have there := (find_eq_some sound).1 found
    simp only [intern_of_find found, reduceCtorEq, false_iff]
    exact fun refused => refused.1 ty there
  | none =>
    have absent : ∀ ty, pool.form? ty ≠ some form := by
      intro ty there
      rw [(find_eq_some sound).2 there] at found
      cases found
    rw [intern_of_absent found]
    split
    · rename_i room
      simp only [reduceCtorEq, false_iff]
      exact fun refused => Nat.ne_of_lt room refused.2.1
    · rename_i full
      have full : (pool.shard (shardOf hash form)).entries.size = TypeId.shardSize := by omega
      simp only [absent, full, Except.error.injEq, eq_comm, ne_eq, not_false_eq_true, implies_true,
        true_and]

/-- What is known of a type is found in the shard. -/
theorem split_eq (sound : pool.Sound hash) (ty : TypeId) : pool.split ty =
    match pool.form? ty with
    | some (.qualified base quals) => (base, quals)
    | _ => (ty, .empty) := by
  unfold split flags form?
  cases stored : pool.content? ty with
  | none => rfl
  | some entry =>
    obtain ⟨form, flags⟩ := entry
    have there : pool.form? ty = some form := by rw [form?, stored, Option.map_some]
    obtain ⟨index, same, -⟩ := exists_shard there
    rw [content?_eq ty index same] at stored
    have flag : flags.isQualified = (TypeFlags.ofOutermost form).isQualified :=
      (sound.shards index).honest ty.slot _ stored
    simp only [Option.map_some, Option.getD_some, flag]
    cases form <;> rfl

/-- What a pool of shards answers. There is no room in a shard that is full. -/
def table (hash : TypeForm → Nat) : TypeTable ShardedPool where
  form? := form?
  split := split
  intern pool form := (pool.intern hash form).toOption
  qualified pool ty quals := (pool.qualified hash ty quals).toOption

theorem intern_of_made (made : (table hash).intern pool form = some (ty, after)) :
    pool.intern hash form = .ok (ty, after) := by
  simp only [table] at made
  cases interned : pool.intern hash form with
  | ok pair => rw [interned] at made; cases made; rfl
  | error err => rw [interned] at made; cases made

theorem table_lawful (hash : TypeForm → Nat) : (table hash).Lawful (Sound hash) where
  distinct sound there there' :=
    Option.some.inj (((find_eq_some sound).2 there).symm.trans ((find_eq_some sound).2 there'))
  split ty sound := split_eq sound ty
  known sound there := congrArg Except.toOption (intern_of_find ((find_eq_some sound).2 there))
  stays sound made := by
    rcases intern_ok (intern_of_made made) with ⟨-, rfl⟩ | ⟨absent, room, -, rfl⟩
    · exact sound
    · exact sound.push absent room
  found sound made := by
    rcases intern_ok (intern_of_made made) with ⟨found, rfl⟩ | ⟨-, room, rfl, rfl⟩
    · exact (find_eq_some sound).1 found
    · exact (form?_push room _).trans (if_pos rfl)
  kept {before _ _ _ other stored} sound made there := by
    rcases intern_ok (intern_of_made made) with ⟨-, rfl⟩ | ⟨absent, room, -, rfl⟩
    · exact there
    · exact (form?_push room other).trans ((if_neg (ne_next room there)).trans there)
  only sound made there := by
    rcases intern_ok (intern_of_made made) with ⟨-, rfl⟩ | ⟨absent, room, -, rfl⟩
    · exact .inl there
    · have added := (form?_push room _).symm.trans there
      split at added
      · exact .inr (Option.some.inj added).symm
      · exact .inl added
  qualified {now ty quals} _ :=
    apply_ite Except.toOption (((now.split ty).2.union quals).isEmpty = true) ..

/-- A type is refused further qualifiers only where a shard is full. -/
theorem qualified_error (sound : pool.Sound hash) {quals : Qualifiers}
    (refused : pool.qualified hash ty quals = .error err) :
    ∃ index, (pool.shard index).entries.size = TypeId.shardSize ∧ err = .shardFull index := by
  simp only [qualified] at refused
  split at refused
  · cases refused
  · exact ⟨_, ((intern_error_iff sound).1 refused).2⟩

theorem sound_of_leads (leads : (table hash).Leads new pool) : pool.Sound hash :=
  (leads.good (table_lawful hash) (.of_primitives (sound_new hash) form?_new)).2.valid

end ShardedPool

/-- In both pools types are identified by their numbers and qualified in one way only, in every
state that the pool comes to. The pool of one table takes every form; the other refuses one only
if it is new and its shard is full, whatever the hash that picks the shard. -/
theorem TypeTable.numbers_identify (hash : TypeForm → Nat) :
    TypePool.table.Canonical .new ∧ (ShardedPool.table hash).Canonical .new ∧
      ∀ pool, (ShardedPool.table hash).Leads .new pool →
        (∀ form err, pool.intern hash form = .error err ↔ (∀ ty, pool.form? ty ≠ some form) ∧
          (pool.shard (ShardedPool.shardOf hash form)).entries.size = TypeId.shardSize ∧
          err = .shardFull (ShardedPool.shardOf hash form)) ∧
        (∀ ty quals err, pool.qualified hash ty quals = .error err →
          ∃ index : Fin 16, (pool.shard index).entries.size = TypeId.shardSize ∧
            err = .shardFull index) := by
  refine ⟨TypePool.table_lawful.canonical TypePool.sound_new TypePool.form?_new_eq,
    (ShardedPool.table_lawful hash).canonical (ShardedPool.sound_new hash) ShardedPool.form?_new,
    fun pool leads => ?_⟩
  have sound := ShardedPool.sound_of_leads leads
  exact ⟨fun _ _ => ShardedPool.intern_error_iff sound,
    fun _ _ _ => ShardedPool.qualified_error sound⟩

/-- Qualifiers come together over one base, in the order of their sets and not of the steps. -/
example : let pools := ShardedPool.table fun _ => 0
    (pools.qualified .new .i32 .volatile >>= fun (ty, pool) =>
      pools.qualified pool ty .const >>= fun (ty, pool) => some (ty, pool.split ty)) =
        some (.ofShard 1 1, .i32, { isConst := true, isVolatile := true }) := by
  cbv

end FrontEnd
