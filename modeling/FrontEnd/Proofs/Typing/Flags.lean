import FrontEnd.Proofs.Typing.Sharding

/-!
What the flags of a type tell. They are found once, when the type is interned, from the flags that
the types it is built from have at that moment, and nobody looks at the type again. Still they are
right in every state that a table of types comes to: what a type inherits is there exactly if it can
be reached through the types that it is built from, and the rest describes its outermost form.
-/

namespace FrontEnd

open Relation

/-! ### One form -/

namespace TypeForm

/-- The types that a form is built from: what a pointer points to, the elements of an array or a
slice, the parameters and the result of a function, and what is qualified. -/
inductive Part : TypeForm → TypeId → Prop where
  | target {ty : TypeId} : Part (.pointer ty) ty
  | element {ty : TypeId} {length : Nat} : Part (.array ty length) ty
  | item {ty : TypeId} : Part (.slice ty) ty
  | parameter {parameters : List TypeId} {ty result : TypeId} {variadic : Bool}
      (listed : ty ∈ parameters) : Part (.function parameters result variadic) ty
  | result {parameters : List TypeId} {ty : TypeId} {variadic : Bool} :
      Part (.function parameters ty variadic) ty
  | base {ty : TypeId} {quals : Qualifiers} : Part (.qualified ty quals) ty

theorem part_iff {form : TypeForm} {ty : TypeId} : form.Part ty ↔ ty ∈ form.children := by
  constructor
  · intro part
    cases part <;> simp_all [children]
  · intro listed
    cases form with
    | pointer target => cases List.mem_singleton.1 listed; exact .target
    | array element length => cases List.mem_singleton.1 listed; exact .element
    | slice element => cases List.mem_singleton.1 listed; exact .item
    | qualified base quals => cases List.mem_singleton.1 listed; exact .base
    | function parameters result variadic =>
      rcases List.mem_cons.1 listed with rfl | listed
      · exact .result
      · exact .parameter listed
    | _ => exact absurd listed List.not_mem_nil

/-- The form of a template parameter. -/
def IsParam (form : TypeForm) : Prop := ∃ template index, form = .param template index

/-- The form of the error type. -/
def IsError (form : TypeForm) : Prop := form = .error

end TypeForm

namespace TypeFlags

/-- The flags of a category are set for the forms of the category and for no others. -/
structure Describe (flags : TypeFlags) (form : TypeForm) : Prop where
  primitive : flags.isPrimitive = true ↔ form = .void ∨ form = .bool ∨
    (∃ bits signed, form = .int bits signed) ∨ ∃ bits, form = .float bits
  integer : flags.isInteger = true ↔ ∃ bits signed, form = .int bits signed
  float : flags.isFloat = true ↔ ∃ bits, form = .float bits
  nominal : flags.isNominal = true ↔ ∃ kind id, form = .nominal kind id
  qualified : flags.isQualified = true ↔ ∃ base quals, form = .qualified base quals
  function : flags.isFunction = true ↔
    ∃ parameters result variadic, form = .function parameters result variadic
  indirect : flags.isIndirect = true ↔ (∃ target, form = .pointer target) ∨
    (∃ element length, form = .array element length) ∨ ∃ element, form = .slice element

theorem describe_ofForm (form : TypeForm) (parts : List TypeFlags) :
    (ofForm form parts).Describe form := by
  cases form <;> constructor <;> simp [ofForm, ofOutermost]

/-- A flag is set for forms of its own, and for those built from a type for which it is set. -/
def Spreads (flag : TypeFlags → Bool) (own : TypeForm → Prop) : Prop :=
  ∀ form parts, flag (.ofForm form parts) = true ↔ own form ∨ ∃ part ∈ parts, flag part = true

theorem spreads_param : Spreads hasParam TypeForm.IsParam := by
  intro form parts
  cases form <;> simp [ofForm, ofOutermost, TypeForm.IsParam]

theorem spreads_error : Spreads hasError TypeForm.IsError := by
  intro form parts
  cases form <;> simp [ofForm, ofOutermost, TypeForm.IsError]

end TypeFlags

/-! ### Tables with flags -/

namespace TypeTable

variable {σ : Type} (table : TypeTable σ) (flags : σ → TypeId → TypeFlags)

/-- One type is built from the other. -/
def Below (now : σ) (ty part : TypeId) : Prop :=
  ∃ form, table.form? now ty = some form ∧ form.Part part

/-- A form of a sort can be reached from a type, from part to part, unless it is the type's own. -/
def Reaches (now : σ) (sort : TypeForm → Prop) (ty : TypeId) : Prop :=
  ∃ last form, ReflTransGen (table.Below now) ty last ∧ table.form? now last = some form ∧ sort form

/-- The table interns a form that is built from types that it holds, whatever it is, or qualifies a
type that it holds. -/
inductive Grows : σ → σ → Prop where
  | interned {before after : σ} {form : TypeForm} {ty : TypeId}
      (held : ∀ part, form.Part part → table.Holds before part)
      (made : table.intern before form = some (ty, after)) : Grows before after
  | qualified {before after : σ} {ty result : TypeId} {quals : Qualifiers}
      (held : table.Holds before ty)
      (made : table.qualified before ty quals = some (result, after)) : Grows before after

/-- The table comes from one state to another by interning and qualifying. -/
def Built : σ → σ → Prop := ReflTransGen table.Grows

/-- The flags tell the truth in every state that the table comes to from a start. -/
structure Truthful (start : σ) : Prop where
  param : ∀ {now ty}, table.Built start now → table.Holds now ty →
    ((flags now ty).hasParam = true ↔ table.Reaches now TypeForm.IsParam ty)
  error : ∀ {now ty}, table.Built start now → table.Holds now ty →
    ((flags now ty).hasError = true ↔ table.Reaches now TypeForm.IsError ty)
  category : ∀ {now ty form}, table.Built start now → table.form? now ty = some form →
    (flags now ty).Describe form
  /-- No qualified type is missed where it is split. -/
  split : ∀ {now ty base quals}, table.Built start now →
    table.form? now ty = some (.qualified base quals) → table.split now ty = (base, quals)
  /-- A type that is not qualified is not split. -/
  plain : ∀ {now ty form}, table.Built start now → table.form? now ty = some form →
    (∀ base quals, form ≠ .qualified base quals) → table.split now ty = (ty, .empty)

/-- How a table has to keep flags: those of a new type are found from those of its parts, and those
of the types that are there stay. -/
structure Flags (valid : σ → Prop) : Prop where
  fresh : ∀ {before after form ty}, valid before → table.intern before form = some (ty, after) →
    (∀ other, table.form? before other ≠ some form) →
      flags after ty = .ofForm form (form.children.map (flags before))
  kept : ∀ {before after form ty other}, valid before →
    table.intern before form = some (ty, after) → table.Holds before other →
      flags after other = flags before other

/-- The parts of each type are there, its flags are those that its form has over their flags, and
what a flag says was inherited can be reached. -/
structure Consistent (now : σ) : Prop where
  closed : ∀ ty form, table.form? now ty = some form → ∀ part ∈ form.children, table.Holds now part
  flagged : ∀ ty form, table.form? now ty = some form →
    flags now ty = .ofForm form (form.children.map (flags now))
  reached : ∀ {flag sort}, TypeFlags.Spreads flag sort → ∀ ty, table.Holds now ty →
    flag (flags now ty) = true → table.Reaches now sort ty

variable {table flags} {valid : σ → Prop} {before after now start : σ} {form : TypeForm}
  {ty result : TypeId} {quals : Qualifiers} {sort : TypeForm → Prop}

theorem Reaches.kept (kept : table.Kept before after) (reaches : table.Reaches before sort ty) :
    table.Reaches after sort ty := by
  obtain ⟨last, form, path, found, mine⟩ := reaches
  have below : ∀ ty part, table.Below before ty part → table.Below after ty part :=
    fun ty part ⟨form, found, part_of⟩ => ⟨form, kept ty form found, part_of⟩
  exact ⟨last, form, ReflTransGen.mono below _ _ path, kept last form found, mine⟩

/-- What is reached from a part is reached from the type. -/
theorem Reaches.through {part : TypeId} (reaches : table.Reaches now sort part)
    (below : table.Below now ty part) : table.Reaches now sort ty := by
  obtain ⟨last, form, path, found, mine⟩ := reaches
  exact ⟨last, form, .head below path, found, mine⟩

/-- A flag that spreads is set all the way up from where it comes from. -/
theorem Consistent.set (consistent : table.Consistent flags now) {flag : TypeFlags → Bool}
    (spreads : TypeFlags.Spreads flag sort) (reaches : table.Reaches now sort ty) :
    flag (flags now ty) = true := by
  obtain ⟨last, form, path, found, mine⟩ := reaches
  induction path using ReflTransGen.head_induction_on with
  | refl =>
    rw [consistent.flagged last form found]
    exact (spreads ..).2 (.inl mine)
  | head below _ ih =>
    obtain ⟨own, found', part⟩ := below
    rw [consistent.flagged _ own found']
    exact (spreads ..).2 (.inr ⟨_, List.mem_map_of_mem (TypeForm.part_iff.1 part), ih⟩)

theorem Consistent.spread_iff (consistent : table.Consistent flags now) {flag : TypeFlags → Bool}
    (spreads : TypeFlags.Spreads flag sort) (held : table.Holds now ty) :
    flag (flags now ty) = true ↔ table.Reaches now sort ty :=
  ⟨consistent.reached spreads ty held, consistent.set spreads⟩

/-- Interning a form that is built from types that are there keeps the flags right. -/
theorem Consistent.interned (lawful : table.Lawful valid) (kept_flags : table.Flags flags valid)
    (good : valid before) (consistent : table.Consistent flags before)
    (held : ∀ part ∈ form.children, table.Holds before part)
    (made : table.intern before form = some (ty, after)) : table.Consistent flags after := by
  by_cases known : ∃ other, table.form? before other = some form
  · obtain ⟨other, there⟩ := known
    cases (lawful.known good there).symm.trans made
    exact consistent
  have absent : ∀ other, table.form? before other ≠ some form := fun other there =>
    known ⟨other, there⟩
  have kept : table.Kept before after := fun _ _ => lawful.kept good made
  have found : table.form? after ty = some form := lawful.found good made
  -- what the table holds now is older than the form, or is the form's own type
  have cases_of : ∀ other stored, table.form? after other = some stored →
      table.form? before other = some stored ∨ other = ty ∧ stored = form := by
    intro other stored there
    rcases lawful.only good made there with earlier | rfl
    · exact .inl earlier
    · exact .inr ⟨lawful.distinct (lawful.stays good made) there found, rfl⟩
  have same : ∀ parts : List TypeId, (∀ part ∈ parts, table.Holds before part) →
      parts.map (flags before) = parts.map (flags after) := fun parts there =>
    List.map_congr_left fun part listed => (kept_flags.kept good made (there part listed)).symm
  refine ⟨fun other stored there part listed => ?_, fun other stored there => ?_,
    fun {flag sort} spreads other there set => ?_⟩
  · rcases cases_of other stored there with earlier | ⟨rfl, rfl⟩
    · exact (consistent.closed other stored earlier part listed).kept kept
    · exact (held part listed).kept kept
  · rcases cases_of other stored there with earlier | ⟨rfl, rfl⟩
    · rw [kept_flags.kept good made ⟨_, earlier⟩, consistent.flagged other stored earlier,
        same _ (consistent.closed other stored earlier)]
    · rw [kept_flags.fresh good made absent, same _ held]
  · obtain ⟨stored, there⟩ := there
    rcases cases_of other stored there with earlier | ⟨rfl, rfl⟩
    · rw [kept_flags.kept good made ⟨_, earlier⟩] at set
      exact (consistent.reached spreads other ⟨_, earlier⟩ set).kept kept
    · rw [kept_flags.fresh good made absent] at set
      rcases (spreads ..).1 set with own | ⟨_, listed, set⟩
      · exact ⟨other, stored, .refl, there, own⟩
      · obtain ⟨part, part_of, rfl⟩ := List.mem_map.1 listed
        have reaches := consistent.reached spreads part (held part part_of) set
        exact (reaches.kept kept).through ⟨stored, there, TypeForm.part_iff.2 part_of⟩

/-- The base of a type that is there is there. -/
theorem Consistent.holds_base (lawful : table.Lawful valid) (good : valid now)
    (consistent : table.Consistent flags now) (held : table.Holds now ty) :
    table.Holds now (table.split now ty).1 := by
  rw [lawful.split ty good]
  split
  · rename_i base quals found
    exact consistent.closed ty _ found base List.mem_cons_self
  · exact held

theorem Consistent.grows (lawful : table.Lawful valid) (kept_flags : table.Flags flags valid)
    (good : valid before) (consistent : table.Consistent flags before)
    (grows : table.Grows before after) : valid after ∧ table.Consistent flags after := by
  cases grows with
  | interned held made =>
    exact ⟨lawful.stays good made, consistent.interned lawful kept_flags good
      (fun part listed => held part (TypeForm.part_iff.2 listed)) made⟩
  | qualified held made =>
    have base := consistent.holds_base lawful good held
    rw [lawful.qualified good] at made
    split at made
    · cases made
      exact ⟨good, consistent⟩
    · refine ⟨lawful.stays good made, consistent.interned lawful kept_flags good
        (fun part listed => ?_) made⟩
      cases List.mem_singleton.1 listed
      exact base

/-- A state of primitive types only, with the flags of their forms, is consistent. -/
theorem Consistent.of_primitives
    (primitives : ∀ ty : TypeId, table.form? start ty = TypeForm.primitives[ty.index]?)
    (flagged : ∀ ty form, table.form? start ty = some form → flags start ty = .ofForm form []) :
    table.Consistent flags start := by
  have childless : ∀ form ∈ TypeForm.primitives, form.children = [] := by decide
  have bare : ∀ ty form, table.form? start ty = some form → form.children = [] := by
    intro ty form found
    rw [primitives] at found
    exact childless form (List.mem_of_getElem? found)
  refine ⟨fun ty form found part listed => ?_, fun ty form found => ?_,
    fun spreads ty ⟨form, found⟩ set => ?_⟩
  · rw [bare ty form found] at listed
    cases listed
  · rw [flagged ty form found, bare ty form found, List.map_nil]
  · rw [flagged ty form found] at set
    rcases (spreads ..).1 set with own | ⟨_, listed, -⟩
    · exact ⟨ty, form, .refl, found, own⟩
    · cases listed

/-- The flags of a lawful table tell the truth from a start on where they do. -/
theorem Consistent.truthful (lawful : table.Lawful valid) (kept_flags : table.Flags flags valid)
    (good : valid start) (consistent : table.Consistent flags start) :
    table.Truthful flags start := by
  have always : ∀ {now}, table.Built start now → valid now ∧ table.Consistent flags now := by
    intro now built
    induction built with
    | refl => exact ⟨good, consistent⟩
    | tail _ grows ih => exact ih.2.grows lawful kept_flags ih.1 grows
  constructor
  case param => exact fun built => (always built).2.spread_iff TypeFlags.spreads_param
  case error => exact fun built => (always built).2.spread_iff TypeFlags.spreads_error
  case category =>
    intro now ty form built found
    rw [(always built).2.flagged ty form found]
    exact TypeFlags.describe_ofForm form _
  case split =>
    intro now ty base quals built found
    rw [lawful.split ty (always built).1, found]
  case plain =>
    intro now ty form built found plain
    rw [lawful.split ty (always built).1, found]
    split
    · rename_i base quals same
      exact absurd (Option.some.inj same) (plain base quals)
    · rfl

end TypeTable

/-! ### The two pools -/

namespace TypePool

theorem flags_of_stored {pool : TypePool} {ty : TypeId} {entry : TypeForm × TypeFlags}
    (stored : pool.entries[ty.index]? = some entry) : pool.flags ty = entry.2 := by
  simp [flags, stored]

theorem table_flags : table.Flags flags Sound where
  fresh {before after form ty} sound made absent := by
    have unknown : before.ids[form]? = none :=
      Option.eq_none_iff_forall_ne_some.2 fun other known =>
        absent other ((sound.exact form other).1 known)
    have made : before.intern form = (ty, after) := Option.some.inj made
    rw [intern_of_none unknown] at made
    cases made
    exact flags_of_stored ((entries_push _).trans (if_pos rfl))
  kept {before after form ty other} _ made held := by
    have kept := kept_intern before form
    rw [Option.some.inj made] at kept
    obtain ⟨stored, there⟩ := held
    exact flags_kept kept (lt_size_of_form? there)

theorem entries_foldl_push (forms : List TypeForm) (pool : TypePool)
    (childless : ∀ form ∈ forms, form.children = []) :
    (forms.foldl push pool).entries.toList =
      pool.entries.toList ++ forms.map fun form => (form, .ofForm form []) := by
  induction forms generalizing pool with
  | nil => simp
  | cons form rest ih =>
    obtain ⟨bare, others⟩ := List.forall_mem_cons.1 childless
    simp [ih _ others, push, bare]

theorem consistent_new : table.Consistent flags new := by
  refine .of_primitives form?_new_eq fun ty form found => ?_
  obtain ⟨entry, stored, rfl⟩ := Option.map_eq_some_iff.1 found
  have listed := entries_foldl_push TypeForm.primitives {} (by decide)
  have same : entry.2 = .ofForm entry.1 [] := by
    have member : entry ∈ new.entries.toList := Array.mem_toList_iff.2 (Array.mem_of_getElem? stored)
    rw [new, listed] at member
    obtain ⟨form, -, rfl⟩ := List.mem_map.1 (by simpa using member)
    rfl
  rw [flags_of_stored stored, same]

end TypePool

namespace ShardedPool

variable {pool : ShardedPool}

theorem flags_of_content {ty : TypeId} {entry : TypeForm × TypeFlags}
    (stored : pool.content? ty = some entry) : pool.flags ty = entry.2 := by
  simp [flags, stored]

theorem table_flags (hash : TypeForm → Nat) : (table hash).Flags flags (Sound hash) where
  fresh {before after form ty} sound made absent := by
    rcases intern_ok (intern_of_made made) with ⟨known, -⟩ | ⟨-, room, rfl, rfl⟩
    · exact absurd ((find_eq_some sound).1 known) (absent ty)
    · exact flags_of_content ((content?_push room _).trans (if_pos rfl))
  kept {before after form ty other} sound made held := by
    rcases intern_ok (intern_of_made made) with ⟨-, rfl⟩ | ⟨-, room, rfl, rfl⟩
    · rfl
    · obtain ⟨stored, there⟩ := held
      rw [flags, content?_push room, if_neg (ne_next room there), flags]

theorem consistent_new (hash : TypeForm → Nat) : (table hash).Consistent flags new := by
  refine .of_primitives form?_new fun ty form found => ?_
  obtain ⟨index, same, -⟩ := exists_shard found
  obtain ⟨entry, stored, rfl⟩ := Option.map_eq_some_iff.1 found
  rw [flags_of_content stored]
  rw [content?_eq ty index same, shard_new] at stored
  split at stored
  · have member : entry ∈ TypeShard.primitives.entries.toList :=
      Array.mem_toList_iff.2 (Array.mem_of_getElem? stored)
    have honest : ∀ entry ∈ TypeShard.primitives.entries.toList, entry.2 = .ofForm entry.1 [] := by
      decide
    exact honest entry member
  · simp at stored

end ShardedPool

/-- In both pools, the one of a single table and the one of shards, whatever the hash, the flags of
a type tell the truth in every state that the pool comes to, in whatever order its types were made:
a type has a parameter or an error if and only if one can be reached from it, the other flags
describe exactly its outermost form, and a type is split exactly if it is qualified. -/
theorem TypeTable.flags_tell (hash : TypeForm → Nat) :
    TypePool.table.Truthful TypePool.flags .new ∧
      (ShardedPool.table hash).Truthful ShardedPool.flags .new :=
  ⟨TypePool.consistent_new.truthful TypePool.table_lawful TypePool.table_flags TypePool.sound_new,
    (ShardedPool.consistent_new hash).truthful (ShardedPool.table_lawful hash)
      (ShardedPool.table_flags hash) (ShardedPool.sound_new hash)⟩

/-- A pointer to a template parameter has a parameter, but is not one itself. -/
example : let pools := ShardedPool.table fun _ => 0
    (pools.intern .new (.param ⟨0⟩ 0) >>= fun (param, pool) =>
      pools.intern pool (.pointer param) >>= fun (ty, pool) => some (pool.flags ty)) =
        some { hasParam := true, isIndirect := true } := by
  cbv

end FrontEnd
