import FrontEnd.Typing.Pool
import Mathlib.Logic.Relation

/-!
Why the number of a type is its identity. A table of types interns forms and qualifies types, one
after the other, however it stores them. If it keeps what it holds, never holds a form twice and
finds the forms that it holds, then two types are the same exactly if their forms are, and to
qualify a type is to unite sets over one unqualified base. This is so in every state that the table
can come to.
-/

namespace FrontEnd

open Relation

/-! ### Sets of qualifiers -/

namespace Qualifiers

variable {quals : Qualifiers}

theorem isEmpty_iff : quals.isEmpty = true ↔ quals = .empty := beq_iff_eq

@[simp] theorem union_empty (quals : Qualifiers) : quals.union .empty = quals := by
  simp [union, empty]

theorem union_assoc (first second third : Qualifiers) :
    (first.union second).union third = first.union (second.union third) := by
  simp [union, Bool.or_assoc]

end Qualifiers

/-! ### Tables of types -/

/-- What a table of types answers, and how it grows. There may be no room for a form. -/
structure TypeTable (σ : Type) where
  form? : σ → TypeId → Option TypeForm
  split : σ → TypeId → TypeId × Qualifiers
  intern : σ → TypeForm → Option (TypeId × σ)
  qualified : σ → TypeId → Qualifiers → Option (TypeId × σ)

namespace TypeTable

variable {σ : Type} (table : TypeTable σ)

/-- The table holds a type. -/
def Holds (now : σ) (ty : TypeId) : Prop := ∃ form, table.form? now ty = some form

/-- The table holds a type that has no qualifiers. -/
def HoldsPlain (now : σ) (ty : TypeId) : Prop :=
  ∃ form, table.form? now ty = some form ∧ (TypeFlags.ofOutermost form).isQualified = false

/-- A form fits a table if it is built from types that are there and, being that of a qualified
type, has at least one qualifier over a base that has none. -/
structure Fits (now : σ) (form : TypeForm) : Prop where
  children : ∀ child ∈ form.children, table.Holds now child
  canonical : ∀ base quals, form = .qualified base quals →
    quals ≠ .empty ∧ table.HoldsPlain now base

/-- The table does one thing: it interns a form that fits it, or qualifies a type that it holds. -/
inductive Step : σ → σ → Prop where
  | interned {before after form ty} (fits : table.Fits before form)
      (made : table.intern before form = some (ty, after)) : Step before after
  | qualified {before after ty quals result} (held : table.Holds before ty)
      (made : table.qualified before ty quals = some (result, after)) : Step before after

/-- The table comes from one state to another. -/
def Leads : σ → σ → Prop := ReflTransGen table.Step

/-- On the way between two states a form was interned as a type. -/
def Interned (start now : σ) (form : TypeForm) (ty : TypeId) : Prop :=
  ∃ before after, table.Leads start before ∧ table.Fits before form ∧
    table.intern before form = some (ty, after) ∧ table.Leads after now

/-- On the way between two states the qualification of a type gave a type. -/
def Qualified (start now : σ) (ty : TypeId) (quals : Qualifiers) (result : TypeId) : Prop :=
  ∃ before after, table.Leads start before ∧ table.Holds before ty ∧
    table.qualified before ty quals = some (result, after) ∧ table.Leads after now

/-- Types are identified by their numbers, and qualified in one way only, in every state that the
table comes to from a start. What was asked on the way there may have been asked in any order. -/
structure Canonical (start : σ) : Prop where
  /-- A form is found under the type that interning gave, and from then on. -/
  lookup : ∀ {now form ty}, table.Interned start now form ty → table.form? now ty = some form
  /-- Two forms were given the same type exactly if they are the same. -/
  identity : ∀ {now first second ty other}, table.Interned start now first ty →
    table.Interned start now second other → (ty = other ↔ first = second)
  /-- No two types have the same form, however they were made. -/
  distinct : ∀ {now form ty other}, table.Leads start now → table.form? now ty = some form →
    table.form? now other = some form → ty = other
  /-- What a type means does not change. -/
  stable : ∀ {before now form ty}, table.Leads start before → table.Leads before now →
    table.form? before ty = some form → table.form? now ty = some form
  /-- The primitive types have their fixed numbers, and interning them changes nothing. -/
  primitive : ∀ {now form} {ty : TypeId}, table.Leads start now →
    TypeForm.primitives[ty.index]? = some form →
      table.form? now ty = some form ∧ table.intern now form = some (ty, now)
  /-- Everything in the table fits it: no qualified type is without qualifiers or has a base that
  is qualified itself. -/
  stored : ∀ {now form ty}, table.Leads start now → table.form? now ty = some form →
    table.Fits now form
  /-- A type is split into what its form says. -/
  parts : ∀ {now} (ty : TypeId), table.Leads start now → table.split now ty =
    match table.form? now ty with
    | some (.qualified base quals) => (base, quals)
    | _ => (ty, .empty)
  /-- A qualified type has the base of the type that was qualified, and the qualifiers of both. -/
  united : ∀ {now ty quals result}, table.Qualified start now ty quals result →
    table.split now result = ((table.split now ty).1, (table.split now ty).2.union quals)
  /-- Asked again, the table gives the same type and adds nothing. -/
  again : ∀ {now ty quals result}, table.Qualified start now ty quals result →
    table.qualified now ty quals = some (result, now)
  /-- To qualify in two steps is to qualify by the union. -/
  twice : ∀ {now ty quals once further result}, table.Qualified start now ty quals once →
    table.Qualified start now once further result →
      table.qualified now ty (quals.union further) = some (result, now)
  /-- To qualify by the union is to qualify in two steps. -/
  union : ∀ {now ty quals once further result}, table.Qualified start now ty quals once →
    table.Qualified start now ty (quals.union further) result →
      table.qualified now once further = some (result, now)
  /-- To qualify by nothing changes nothing. -/
  empty : ∀ {now ty}, table.Leads start now → table.Holds now ty →
    table.qualified now ty .empty = some (ty, now)
  /-- Two qualifications give the same type exactly if the bases and the united sets agree. -/
  equal : ∀ {now ty other quals further result result'},
    table.Qualified start now ty quals result → table.Qualified start now other further result' →
      (result = result' ↔ (table.split now ty).1 = (table.split now other).1 ∧
        (table.split now ty).2.union quals = (table.split now other).2.union further)

/-- What a table has to do so that its types are identified by their numbers. The states in which
it does so are those that are valid. -/
structure Lawful (valid : σ → Prop) : Prop where
  distinct : ∀ {now form ty other}, valid now → table.form? now ty = some form →
    table.form? now other = some form → ty = other
  split : ∀ {now} (ty : TypeId), valid now → table.split now ty =
    match table.form? now ty with
    | some (.qualified base quals) => (base, quals)
    | _ => (ty, .empty)
  /-- A form that is there is given its type, and nothing is added. -/
  known : ∀ {now form ty}, valid now → table.form? now ty = some form →
    table.intern now form = some (ty, now)
  stays : ∀ {before after form ty}, valid before → table.intern before form = some (ty, after) →
    valid after
  found : ∀ {before after form ty}, valid before → table.intern before form = some (ty, after) →
    table.form? after ty = some form
  kept : ∀ {before after form ty other stored}, valid before →
    table.intern before form = some (ty, after) → table.form? before other = some stored →
      table.form? after other = some stored
  only : ∀ {before after form ty other stored}, valid before →
    table.intern before form = some (ty, after) → table.form? after other = some stored →
      table.form? before other = some stored ∨ stored = form
  /-- Qualifiers are united over the base, and a type with no qualifiers is its base. -/
  qualified : ∀ {now ty quals}, valid now → table.qualified now ty quals =
    if ((table.split now ty).2.union quals).isEmpty then some ((table.split now ty).1, now)
    else table.intern now
      (.qualified (table.split now ty).1 ((table.split now ty).2.union quals))

variable {table} {valid : σ → Prop} {start before after now : σ} {form : TypeForm}
  {ty other base result : TypeId} {quals further : Qualifiers}

/-! ### What a step keeps -/

/-- Every type of one state has the same form in another. -/
def Kept (table : TypeTable σ) (before after : σ) : Prop :=
  ∀ ty form, table.form? before ty = some form → table.form? after ty = some form

/-- The state is valid, and everything in it fits it. -/
structure Good (table : TypeTable σ) (valid : σ → Prop) (now : σ) : Prop where
  valid : valid now
  stored : ∀ ty form, table.form? now ty = some form → table.Fits now form

theorem Holds.kept (kept : table.Kept before after) (held : table.Holds before ty) :
    table.Holds after ty := held.imp fun _ => kept _ _

theorem HoldsPlain.kept (kept : table.Kept before after) (plain : table.HoldsPlain before ty) :
    table.HoldsPlain after ty := plain.imp fun _ => .imp_left (kept _ _)

theorem HoldsPlain.holds (plain : table.HoldsPlain now ty) : table.Holds now ty :=
  plain.imp fun _ => And.left

theorem Fits.kept (kept : table.Kept before after) (fits : table.Fits before form) :
    table.Fits after form where
  children child member := (fits.children child member).kept kept
  canonical base quals same := (fits.canonical base quals same).imp_right (.kept kept)

/-- Interning a form that fits leaves a good state good, and the form is there. -/
theorem Lawful.interned (lawful : table.Lawful valid) (good : table.Good valid before)
    (fits : table.Fits before form) (made : table.intern before form = some (ty, after)) :
    table.Kept before after ∧ table.Good valid after ∧ table.form? after ty = some form := by
  have kept : table.Kept before after := fun _ _ => lawful.kept good.valid made
  refine ⟨kept, ⟨lawful.stays good.valid made, fun other stored held => ?_⟩,
    lawful.found good.valid made⟩
  rcases lawful.only good.valid made held with there | rfl
  · exact (good.stored other stored there).kept kept
  · exact fits.kept kept

theorem split_kept (lawful : table.Lawful valid) (good : valid before) (good' : valid after)
    (kept : table.Kept before after) (held : table.Holds before ty) :
    table.split after ty = table.split before ty := by
  obtain ⟨form, there⟩ := held
  rw [lawful.split ty good, lawful.split ty good', there, kept _ _ there]

/-! ### What a type is split into -/

/-- A type without qualifiers is its own base. -/
theorem split_plain (lawful : table.Lawful valid) (good : valid now)
    (plain : table.HoldsPlain now ty) : table.split now ty = (ty, .empty) := by
  obtain ⟨form, there, plain⟩ := plain
  rw [lawful.split ty good, there]
  cases form <;> first | rfl | cases plain

theorem split_qualified (lawful : table.Lawful valid) (good : valid now)
    (there : table.form? now ty = some (.qualified base quals)) :
    table.split now ty = (base, quals) := by
  rw [lawful.split ty good, there]

/-- A type is qualified or has no qualifiers. -/
theorem Holds.cases (held : table.Holds now ty) :
    table.HoldsPlain now ty ∨
      ∃ base quals, table.form? now ty = some (.qualified base quals) := by
  obtain ⟨form, there⟩ := held
  cases form with
  | qualified base quals => exact .inr ⟨base, quals, there⟩
  | _ => exact .inl ⟨_, there, rfl⟩

/-- The base of a type has no qualifiers. -/
theorem plain_base (lawful : table.Lawful valid) (good : table.Good valid now)
    (held : table.Holds now ty) : table.HoldsPlain now (table.split now ty).1 := by
  rcases held.cases with plain | ⟨base, quals, there⟩
  · rwa [split_plain lawful good.valid plain]
  · rw [split_qualified lawful good.valid there]
    exact ((good.stored _ _ there).canonical base quals rfl).2

/-- A type is known by its base and its qualifiers. -/
theorem eq_of_split (lawful : table.Lawful valid) (good : table.Good valid now)
    (held : table.Holds now ty) (held' : table.Holds now other)
    (same : table.split now ty = table.split now other) : ty = other := by
  rcases held.cases with plain | ⟨base, quals, there⟩ <;>
    rcases held'.cases with plain' | ⟨base', quals', there'⟩
  · rw [split_plain lawful good.valid plain, split_plain lawful good.valid plain'] at same
    exact congrArg Prod.fst same
  · rw [split_plain lawful good.valid plain, split_qualified lawful good.valid there'] at same
    have filled := ((good.stored _ _ there').canonical base' quals' rfl).1
    exact absurd (congrArg Prod.snd same).symm filled
  · rw [split_qualified lawful good.valid there, split_plain lawful good.valid plain'] at same
    have filled := ((good.stored _ _ there).canonical base quals rfl).1
    exact absurd (congrArg Prod.snd same) filled
  · rw [split_qualified lawful good.valid there, split_qualified lawful good.valid there'] at same
    cases same
    exact lawful.distinct good.valid there there'

/-- A type with qualifiers is the one that is made of its base and them. -/
theorem form?_of_split (lawful : table.Lawful valid) (good : valid now)
    (held : table.Holds now ty) (split : table.split now ty = (base, quals))
    (filled : quals ≠ .empty) : table.form? now ty = some (.qualified base quals) := by
  rcases held.cases with plain | ⟨base', quals', there⟩
  · rw [split_plain lawful good plain] at split
    cases split
    exact absurd rfl filled
  · rw [split_qualified lawful good there] at split
    cases split
    exact there

/-! ### Qualification -/

/-- What a qualified type is made of. -/
def Unites (table : TypeTable σ) (now : σ) (ty : TypeId) (quals : Qualifiers) (result : TypeId) :
    Prop :=
  table.split now result = ((table.split now ty).1, (table.split now ty).2.union quals)

/-- Qualifying a type gives its base, or interns a form that fits. -/
theorem Lawful.qualified_cases (lawful : table.Lawful valid) (good : table.Good valid before)
    (held : table.Holds before ty) (made : table.qualified before ty quals = some (result, after)) :
    ((table.split before ty).2.union quals = .empty ∧ result = (table.split before ty).1 ∧
        after = before) ∨
      (table.Fits before
          (.qualified (table.split before ty).1 ((table.split before ty).2.union quals)) ∧
        table.intern before (.qualified (table.split before ty).1
          ((table.split before ty).2.union quals)) = some (result, after)) := by
  have plain := plain_base lawful good held
  rw [lawful.qualified good.valid] at made
  split at made
  · rename_i none
    cases made
    exact .inl ⟨Qualifiers.isEmpty_iff.1 none, rfl, rfl⟩
  · rename_i filled
    refine .inr ⟨⟨fun child member => ?_, fun base quals same => ?_⟩, made⟩
    · cases List.mem_singleton.1 member
      exact plain.holds
    · cases same
      exact ⟨fun none => filled (Qualifiers.isEmpty_iff.2 none), plain⟩

/-- Qualifying a type leaves a good state good, and gives a type with the qualifiers of both. -/
theorem Lawful.qualify (lawful : table.Lawful valid) (good : table.Good valid before)
    (held : table.Holds before ty) (made : table.qualified before ty quals = some (result, after)) :
    table.Kept before after ∧ table.Good valid after ∧ table.Holds after result ∧
      table.Unites after ty quals result := by
  rcases lawful.qualified_cases good held made with ⟨none, rfl, rfl⟩ | ⟨fits, made⟩
  · have plain := plain_base lawful good held
    refine ⟨fun _ _ there => there, good, plain.holds, ?_⟩
    rw [Unites, split_plain lawful good.valid plain, none]
  · obtain ⟨kept, good', there⟩ := lawful.interned good fits made
    refine ⟨kept, good', ⟨_, there⟩, ?_⟩
    rw [Unites, split_qualified lawful good'.valid there,
      split_kept lawful good.valid good'.valid kept held]

/-- Where the type is that qualification has to give, it is given, and nothing is added. -/
theorem Lawful.qualified_eq (lawful : table.Lawful valid) (good : table.Good valid now)
    (held : table.Holds now ty) (held' : table.Holds now result)
    (unites : table.Unites now ty quals result) :
    table.qualified now ty quals = some (result, now) := by
  rw [lawful.qualified good.valid]
  split
  · rename_i none
    have plain := plain_base lawful good held
    have base : (table.split now ty).1 = result := by
      refine eq_of_split lawful good plain.holds held' ?_
      rw [unites, split_plain lawful good.valid plain, Qualifiers.isEmpty_iff.1 none]
    rw [base]
  · rename_i filled
    have there := form?_of_split lawful good.valid held' unites
      fun none => filled (Qualifiers.isEmpty_iff.2 none)
    exact lawful.known good.valid there

/-! ### Every state -/

theorem Step.good (lawful : table.Lawful valid) (good : table.Good valid before)
    (step : table.Step before after) : table.Kept before after ∧ table.Good valid after := by
  cases step with
  | interned fits made =>
    obtain ⟨kept, good', -⟩ := lawful.interned good fits made
    exact ⟨kept, good'⟩
  | qualified held made =>
    obtain ⟨kept, good', -⟩ := lawful.qualify good held made
    exact ⟨kept, good'⟩

theorem Leads.good (lawful : table.Lawful valid) (good : table.Good valid start)
    (leads : table.Leads start now) : table.Kept start now ∧ table.Good valid now := by
  induction leads with
  | refl => exact ⟨fun _ _ there => there, good⟩
  | tail _ step ih =>
    obtain ⟨kept, good'⟩ := ih
    obtain ⟨kept', good''⟩ := step.good lawful good'
    exact ⟨fun ty form there => kept' ty form (kept ty form there), good''⟩

/-- A form that was interned is there from then on. -/
theorem Interned.form? (lawful : table.Lawful valid) (good : table.Good valid start)
    (interned : table.Interned start now form ty) :
    table.form? now ty = some form ∧ table.Good valid now := by
  obtain ⟨before, after, first, fits, made, later⟩ := interned
  obtain ⟨-, good'⟩ := first.good lawful good
  obtain ⟨-, good'', there⟩ := lawful.interned good' fits made
  obtain ⟨kept, last⟩ := later.good lawful good''
  exact ⟨kept _ _ there, last⟩

/-- What the qualification of a type gave keeps its base and its qualifiers from then on. -/
theorem Qualified.unites (lawful : table.Lawful valid) (good : table.Good valid start)
    (qualified : table.Qualified start now ty quals result) : table.Good valid now ∧
      table.Holds now ty ∧ table.Holds now result ∧ table.Unites now ty quals result := by
  obtain ⟨before, after, first, held, made, later⟩ := qualified
  obtain ⟨-, good'⟩ := first.good lawful good
  obtain ⟨kept, good'', held', unites⟩ := lawful.qualify good' held made
  obtain ⟨kept', last⟩ := later.good lawful good''
  have held := held.kept kept
  refine ⟨last, held.kept kept', held'.kept kept', ?_⟩
  rw [Unites, split_kept lawful good''.valid last.valid kept' held',
    split_kept lawful good''.valid last.valid kept' held]
  exact unites

/-- A state of primitive types only is good. -/
theorem Good.of_primitives (start_valid : valid start)
    (primitives : ∀ ty : TypeId, table.form? start ty = TypeForm.primitives[ty.index]?) :
    table.Good valid start where
  valid := start_valid
  stored ty form there := by
    rw [primitives] at there
    have primitive : form ∈ TypeForm.primitives := List.mem_of_getElem? there
    simp only [TypeForm.primitives, List.mem_cons, List.not_mem_nil, or_false] at primitive
    rcases primitive with
      rfl | rfl | rfl | rfl | rfl | rfl | rfl | rfl | rfl | rfl | rfl | rfl | rfl
    all_goals exact ⟨fun _ member => (List.not_mem_nil member).elim, fun _ _ same => by cases same⟩

/-- A lawful table that starts with the primitive types identifies types by their numbers. -/
theorem Lawful.canonical (lawful : table.Lawful valid) (start_valid : valid start)
    (primitives : ∀ ty : TypeId, table.form? start ty = TypeForm.primitives[ty.index]?) :
    table.Canonical start := by
  have good : table.Good valid start := .of_primitives start_valid primitives
  constructor
  case lookup =>
    intro now form ty interned
    exact (interned.form? lawful good).1
  case identity =>
    intro now first second ty other interned interned'
    obtain ⟨there, last⟩ := interned.form? lawful good
    obtain ⟨there', -⟩ := interned'.form? lawful good
    constructor
    · rintro rfl
      exact Option.some.inj (there.symm.trans there')
    · rintro rfl
      exact lawful.distinct last.valid there there'
  case distinct =>
    intro now form ty other leads there there'
    exact lawful.distinct (leads.good lawful good).2.valid there there'
  case stable =>
    intro before now form ty first later there
    exact (later.good lawful (first.good lawful good).2).1 _ _ there
  case primitive =>
    intro now form ty leads listed
    obtain ⟨kept, last⟩ := leads.good lawful good
    have there := kept ty form ((primitives ty).trans listed)
    exact ⟨there, lawful.known last.valid there⟩
  case stored =>
    intro now form ty leads there
    exact (leads.good lawful good).2.stored ty form there
  case parts =>
    intro now ty leads
    exact lawful.split ty (leads.good lawful good).2.valid
  case united =>
    intro now ty quals result qualified
    exact (qualified.unites lawful good).2.2.2
  case again =>
    intro now ty quals result qualified
    obtain ⟨last, held, held', unites⟩ := qualified.unites lawful good
    exact lawful.qualified_eq last held held' unites
  case twice =>
    intro now ty quals once further result qualified qualified'
    obtain ⟨last, held, -, unites⟩ := qualified.unites lawful good
    obtain ⟨-, -, held', unites'⟩ := qualified'.unites lawful good
    refine lawful.qualified_eq last held held' ?_
    rw [Unites, unites', unites, Qualifiers.union_assoc]
  case union =>
    intro now ty quals once further result qualified qualified'
    obtain ⟨last, -, held, unites⟩ := qualified.unites lawful good
    obtain ⟨-, -, held', unites'⟩ := qualified'.unites lawful good
    refine lawful.qualified_eq last held held' ?_
    rw [Unites, unites', unites, Qualifiers.union_assoc]
  case empty =>
    intro now ty leads held
    refine lawful.qualified_eq (leads.good lawful good).2 held held ?_
    rw [Unites, Qualifiers.union_empty]
  case equal =>
    intro now ty other quals further result result' qualified qualified'
    obtain ⟨last, -, held, unites⟩ := qualified.unites lawful good
    obtain ⟨-, -, held', unites'⟩ := qualified'.unites lawful good
    constructor
    · rintro rfl
      exact Prod.mk.inj (unites.symm.trans unites')
    · rintro ⟨base, set⟩
      refine eq_of_split lawful last held held' ?_
      rw [unites, unites', base, set]

end TypeTable

end FrontEnd
