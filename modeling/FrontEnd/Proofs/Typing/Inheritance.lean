import FrontEnd.Proofs.Renaming.History
import FrontEnd.Proofs.Specialization.Cache
import FrontEnd.Proofs.Typing.DepthFirst
import FrontEnd.Proofs.Typing.Identity
import FrontEnd.Typing.Inheritance
import Mathlib.Data.Finset.Card
import Mathlib.Data.Finset.Range

/-!
The search for what a type inherits from. Definitions may inherit in a circle and along several
ways; the search still ends, since each of its levels finds a type of the pool that was not found
before. It lists depth first exactly what a type inherits from, so that being a subtype is to be
led to by inheritance, and qualifiers make no difference to it. What the tables tell of types, they
refuse to tell for no other reason than that a type is met that is not from the pool.
-/

namespace FrontEnd

open Relation

namespace TypeContext

variable {ctx : TypeContext} {ty other target : TypeId} {found listed starts : List TypeId}
  {depth : Nat} {quals : Qualifiers}

/-- A type names another, with whatever qualifiers, as its base class or as an interface. -/
def Inherits (ctx : TypeContext) (ty other : TypeId) : Prop :=
  ∃ body, ctx.bodyOf ty = .ok (some body) ∧
    ∃ named ∈ body.supertypes, ctx.pool.unqualified named = other

/-- All that a type inherits from, itself included, is in the pool. -/
def Rooted (ctx : TypeContext) (ty : TypeId) : Prop :=
  ∀ other, ReflTransGen ctx.Inherits (ctx.pool.unqualified ty) other → other.index < ctx.pool.size

variable {body : DefBody}

/-- The body of a type is that of the live definition behind it. -/
theorem bodyOf_eq_some : ctx.bodyOf ty = .ok (some body) ↔
    ∃ kind id, ctx.pool.form? (ctx.pool.unqualified ty) = some (.nominal kind id) ∧
      (ctx.registry.get? id).bind TypeDef.body = some body := by
  unfold bodyOf defOf TypePool.form
  cases ctx.pool.form? (ctx.pool.unqualified ty) with
  | none => simp [Bind.bind, Except.bind]
  | some form => cases form <;> simp [Bind.bind, Except.bind, pure, Except.pure]

theorem supertypes_of_bodyOf (behind : ctx.bodyOf ty = .ok (some body)) :
    ctx.supertypes ty = body.supertypes.map ctx.pool.unqualified := by rw [supertypes, behind]

theorem supertypes_of_undefined (undefined : ¬ ∃ body, ctx.bodyOf ty = .ok (some body)) :
    ctx.supertypes ty = [] := by
  unfold supertypes
  split
  · rename_i body behind
    exact absurd ⟨body, behind⟩ undefined
  · rfl

theorem mem_supertypes : other ∈ ctx.supertypes ty ↔ ctx.Inherits ty other := by
  by_cases defined : ∃ body, ctx.bodyOf ty = .ok (some body)
  · obtain ⟨body, behind⟩ := defined
    simp [supertypes_of_bodyOf behind, Inherits, behind]
  · rw [supertypes_of_undefined defined]
    exact ⟨fun among => absurd among List.not_mem_nil,
      fun ⟨body, behind, _⟩ => absurd ⟨body, behind⟩ defined⟩

/-! ### Types outside the pool -/

theorem unqualified_foreign (foreign : ¬ ty.index < ctx.pool.size) :
    ctx.pool.unqualified ty = ty := by
  have absent : ctx.pool.entries[ty.index]? = none :=
    Array.getElem?_eq_none (Nat.le_of_not_lt foreign)
  simp [TypePool.unqualified, TypePool.split, TypePool.flags, absent]

theorem form?_foreign (foreign : ¬ ty.index < ctx.pool.size) : ctx.pool.form? ty = none :=
  Option.eq_none_iff_forall_ne_some.2 fun _ found =>
    foreign (TypePool.lt_size_of_form? found)

/-- A type outside the pool inherits from nothing. -/
theorem supertypes_foreign (foreign : ¬ ty.index < ctx.pool.size) : ctx.supertypes ty = [] := by
  refine supertypes_of_undefined fun ⟨body, behind⟩ => ?_
  obtain ⟨kind, id, form, -⟩ := bodyOf_eq_some.1 behind
  rw [unqualified_foreign foreign] at form
  exact foreign (TypePool.lt_size_of_form? form)

/-! ### What the tables refuse to tell -/

/-- There is no answer only if a type is met that is not one of the pool's. -/
def OnlyForeign (result : Except TypeError α) : Prop :=
  ∀ err, result = .error err → ∃ foreign, err = .foreignType foreign

theorem onlyForeign_ok (value : α) : OnlyForeign (.ok value) := fun _ refused => by cases refused

theorem OnlyForeign.bind {first : Except TypeError α} {next : α → Except TypeError β}
    (foreign : OnlyForeign first) (foreign' : ∀ value, OnlyForeign (next value)) :
    OnlyForeign (first >>= next) := by
  intro err refused
  cases given : first with
  | error cause =>
    rw [given] at refused
    cases refused
    exact foreign err given
  | ok value =>
    rw [given] at refused
    exact foreign' value err refused

theorem onlyForeign_form (pool : TypePool) (ty : TypeId) : OnlyForeign (pool.form ty) := by
  intro err refused
  unfold TypePool.form at refused
  split at refused <;> cases refused
  exact ⟨ty, rfl⟩

theorem onlyForeign_defOf (ctx : TypeContext) (ty : TypeId) : OnlyForeign (ctx.defOf ty) := by
  refine (onlyForeign_form _ _).bind fun form => ?_
  split <;> exact onlyForeign_ok _

theorem onlyForeign_bodyOf (ctx : TypeContext) (ty : TypeId) : OnlyForeign (ctx.bodyOf ty) :=
  (onlyForeign_defOf ctx ty).bind fun _ => onlyForeign_ok _

theorem onlyForeign_knownOrder (ctx : TypeContext) (ty : TypeId) :
    OnlyForeign (ctx.knownOrder ty) := by
  intro err refused
  unfold knownOrder at refused
  dsimp only at refused
  split at refused <;> cases refused
  exact ⟨_, rfl⟩

theorem onlyForeign_mapM {steps : α → Except TypeError β} (each : ∀ value, OnlyForeign (steps value))
    (values : List α) : OnlyForeign (values.mapM steps) := by
  induction values with
  | nil => exact onlyForeign_ok _
  | cons value rest ih =>
    rw [List.mapM_cons]
    exact (each value).bind fun _ => ih.bind fun _ => onlyForeign_ok _

theorem onlyForeign_bodiesInOrder (ctx : TypeContext) (ty : TypeId) :
    OnlyForeign (ctx.bodiesInOrder ty) := by
  refine (onlyForeign_knownOrder ctx ty).bind fun order => OnlyForeign.bind ?_ fun _ => onlyForeign_ok _
  exact onlyForeign_mapM (fun owner => (onlyForeign_bodyOf ctx owner).bind fun _ => onlyForeign_ok _) order

/-! ### The search -/

/-- The types of the pool that were not found yet. -/
def unfound (ctx : TypeContext) (found : List TypeId) : Finset Nat :=
  (Finset.range ctx.pool.size).filter fun index => ⟨index⟩ ∉ found

theorem unfound_subset (ctx : TypeContext) (found listed : List TypeId) :
    ctx.unfound (found ++ listed) ⊆ ctx.unfound found := by
  intro index
  simp +contextual [unfound]

/-- Finding a type of the pool leaves fewer to find. -/
theorem unfound_ssubset (known : ty.index < ctx.pool.size) (fresh : ty ∉ found) :
    ctx.unfound (found ++ [ty]) ⊂ ctx.unfound found :=
  (Finset.ssubset_iff_of_subset (ctx.unfound_subset found [ty])).2
    ⟨ty.index, by simp [unfound, known, fresh], by simp [unfound]⟩

/-- The search lists depth first what was not found before, unless its depth is too small for the
types that are left. -/
theorem searchFrom_listed (ty : TypeId) (room : (ctx.unfound found).card < depth) :
    ∃ listed, ctx.searchFrom depth found ty = found ++ listed ∧
      DepthFirst ctx.supertypes found [ty] listed := by
  induction depth generalizing found ty with
  | zero => exact absurd room (Nat.not_lt_zero _)
  | succ depth ih =>
    have siblings : ∀ starts found, (ctx.unfound found).card < depth →
        ∃ listed, starts.foldl (ctx.searchFrom depth) found = found ++ listed ∧
          DepthFirst ctx.supertypes found starts listed := by
      intro starts
      induction starts with
      | nil => exact fun found _ => ⟨[], by simp, .done⟩
      | cons start rest ih' =>
        intro found room
        obtain ⟨first, here, head⟩ := ih start room
        obtain ⟨others, there, tail⟩ :=
          ih' (found ++ first)
            (Nat.lt_of_le_of_lt (Finset.card_le_card (ctx.unfound_subset _ _)) room)
        exact ⟨first ++ others, by rw [List.foldl_cons, here, there, List.append_assoc],
          head.cons tail⟩
    unfold searchFrom
    split
    · rename_i seen
      exact ⟨[], by simp, .known seen .done⟩
    · rename_i unseen
      by_cases known : ty.index < ctx.pool.size
      · have less := Finset.card_lt_card (unfound_ssubset known unseen)
        obtain ⟨inner, here, beyond⟩ := siblings (ctx.supertypes ty) (found ++ [ty]) (by omega)
        exact ⟨ty :: inner ++ [], by simp [here], .fresh unseen beyond .done⟩
      · rw [supertypes_foreign known]
        refine ⟨[ty] ++ [], rfl, .fresh unseen ?_ .done⟩
        rw [supertypes_foreign known]
        exact .done

/-- However much deeper the search may go, it lists the same. -/
theorem searchFrom_depth (ctx : TypeContext) (ty : TypeId) (more : Nat) :
    DepthFirst ctx.supertypes [] [ctx.pool.unqualified ty]
      (ctx.searchFrom (ctx.pool.size + 2 + more) [] (ctx.pool.unqualified ty)) := by
  have room : (ctx.unfound []).card < ctx.pool.size + 2 + more := by
    have few : (ctx.unfound []).card ≤ ctx.pool.size :=
      (Finset.card_filter_le _ _).trans_eq (Finset.card_range _)
    omega
  obtain ⟨listed, here, order⟩ := searchFrom_listed (ctx.pool.unqualified ty) room
  rwa [here]

theorem searchOrder_depthFirst (ctx : TypeContext) (ty : TypeId) :
    DepthFirst ctx.supertypes [] [ctx.pool.unqualified ty] (ctx.searchOrder ty) :=
  searchFrom_depth ctx ty 0

/-- A type inherits from what comes beyond it in the search. -/
theorem leadsAround_iff : LeadsAround ctx.supertypes found ty other ↔
    ReflTransGen (fun ty other => ctx.Inherits ty other ∧ other ∉ found) ty other := by
  simp only [LeadsAround, mem_supertypes]

theorem mem_searchOrder : other ∈ ctx.searchOrder ty ↔
    ReflTransGen ctx.Inherits (ctx.pool.unqualified ty) other := by
  simp [(searchOrder_depthFirst ctx ty).mem_iff, leadsAround_iff]

/-! ### Subtypes -/

theorem rooted_iff : ctx.Rooted ty ↔ ∀ other ∈ ctx.searchOrder ty, other.index < ctx.pool.size := by
  simp only [mem_searchOrder, Rooted]

theorem knownOrder_of_rooted (rooted : ctx.Rooted ty) :
    ctx.knownOrder ty = .ok (ctx.searchOrder ty) := by
  have none : (ctx.searchOrder ty).find? (fun found => (ctx.pool.form? found).isNone) = none := by
    refine List.find?_eq_none.2 fun other listed absent => ?_
    obtain ⟨form, there⟩ := TypePool.exists_form? (rooted_iff.1 rooted other listed)
    simp [there] at absent
  simp only [knownOrder, none]

theorem rooted_of_knownOrder {order : List TypeId} (known : ctx.knownOrder ty = .ok order) :
    ctx.Rooted ty := by
  refine rooted_iff.2 fun other listed => ?_
  unfold knownOrder at known
  simp only at known
  split at known
  · cases known
  · rename_i none
    have there := List.find?_eq_none.1 none other listed
    by_contra foreign
    simp [form?_foreign foreign] at there

theorem isSubtype_of_rooted (rooted : ctx.Rooted ty) (target : TypeId) :
    ctx.isSubtype ty target =
      .ok ((ctx.searchOrder ty).contains (ctx.pool.unqualified target)) := by
  rw [isSubtype, knownOrder_of_rooted rooted]
  rfl

theorem rooted_of_isSubtype {answer : Bool} (answered : ctx.isSubtype ty target = .ok answer) :
    ctx.Rooted ty := by
  unfold isSubtype at answered
  cases known : ctx.knownOrder ty with
  | error err => rw [known] at answered; cases answered
  | ok order => exact rooted_of_knownOrder known

theorem isSubtype_iff : ctx.isSubtype ty target = .ok true ↔
    ctx.Rooted ty ∧ ReflTransGen ctx.Inherits (ctx.pool.unqualified ty)
      (ctx.pool.unqualified target) := by
  refine ⟨fun answered => ?_, fun ⟨rooted, leads⟩ => ?_⟩
  · have rooted := rooted_of_isSubtype answered
    rw [isSubtype_of_rooted rooted, Except.ok.injEq, List.contains_iff_mem, mem_searchOrder]
      at answered
    exact ⟨rooted, answered⟩
  · rw [isSubtype_of_rooted rooted, Except.ok.injEq, List.contains_iff_mem, mem_searchOrder]
    exact leads

/-! ### Qualifiers -/

/-- A qualified type has the base of the type that was qualified. Where no qualifier is added, this
takes that the base is its own base. -/
theorem unqualified_qualified (sound : ctx.pool.Sound)
    (further : quals ≠ .empty ∨
      ctx.pool.unqualified (ctx.pool.unqualified ty) = ctx.pool.unqualified ty) :
    (ctx.qualified ty quals).2.pool.unqualified (ctx.qualified ty quals).1 =
      ctx.pool.unqualified ty := by
  change (ctx.pool.qualified ty quals).2.unqualified (ctx.pool.qualified ty quals).1 = _
  by_cases plain : ((ctx.pool.split ty).2.union quals).isEmpty
  · have same : ctx.pool.qualified ty quals = (ctx.pool.unqualified ty, ctx.pool) := by
      simp [TypePool.qualified, plain, TypePool.unqualified]
    rw [same]
    refine further.resolve_left fun filled => filled ?_
    have none := Qualifiers.isEmpty_iff.1 plain
    simp only [Qualifiers.union, Qualifiers.empty, Qualifiers.mk.injEq, Bool.or_eq_false_iff]
      at none
    cases quals
    simp_all [Qualifiers.empty]
  · have interned : ctx.pool.qualified ty quals =
        ctx.pool.intern (.qualified (ctx.pool.split ty).1 ((ctx.pool.split ty).2.union quals)) := by
      simp [TypePool.qualified, plain]
    rw [interned, TypePool.unqualified, TypePool.split_eq (TypePool.sound_intern sound _).honest,
      TypePool.form?_intern sound]
    rfl

/-- Qualifying a type adds no nominal type. -/
theorem form?_qualified {kind : DefKind} {id : DefId} :
    (ctx.qualified ty quals).2.pool.form? other = some (.nominal kind id) ↔
      ctx.pool.form? other = some (.nominal kind id) := by
  change (ctx.pool.qualified ty quals).2.form? other = _ ↔ _
  refine ⟨fun found => ?_, TypePool.form?_kept (TypePool.kept_qualified ctx.pool ty quals)⟩
  rcases TypePool.qualified_cases ctx.pool ty quals with same | interned
  · rwa [same] at found
  · cases known : ctx.pool.ids[TypeForm.qualified (ctx.pool.split ty).1
        ((ctx.pool.split ty).2.union quals)]? with
    | some stored => rwa [interned, TypePool.intern_of_some known] at found
    | none =>
      rw [interned, TypePool.intern_of_none known, TypePool.form?_push] at found
      split at found
      · cases found
      · exact found

/-- Qualifying a type changes the body of no type that was there. -/
theorem bodyOf_qualified (known : other.index < ctx.pool.size) :
    (ctx.qualified ty quals).2.bodyOf other = .ok (some body) ↔
      ctx.bodyOf other = .ok (some body) := by
  have base : (ctx.qualified ty quals).2.pool.unqualified other = ctx.pool.unqualified other :=
    congrArg Prod.fst (TypePool.split_kept (TypePool.kept_qualified ctx.pool ty quals) known)
  simp only [bodyOf_eq_some, base, form?_qualified]
  rfl

/-- It changes nothing of what they inherit from either, if that is in the pool. -/
theorem supertypes_qualified (known : other.index < ctx.pool.size)
    (inside : ∀ named ∈ ctx.supertypes other, named.index < ctx.pool.size) :
    (ctx.qualified ty quals).2.supertypes other = ctx.supertypes other := by
  by_cases defined : ∃ body, ctx.bodyOf other = .ok (some body)
  · obtain ⟨body, behind⟩ := defined
    have own := supertypes_of_bodyOf behind
    rw [own, supertypes_of_bodyOf ((bodyOf_qualified known).2 behind)]
    refine List.map_congr_left fun named listed => ?_
    refine congrArg Prod.fst (TypePool.split_kept (TypePool.kept_qualified ctx.pool ty quals) ?_)
    by_contra foreign
    have bare := unqualified_foreign foreign
    exact foreign (inside named (own ▸ List.mem_map.2 ⟨named, listed, bare⟩))
  · rw [supertypes_of_undefined defined, supertypes_of_undefined]
    rintro ⟨body, behind⟩
    exact defined ⟨body, (bodyOf_qualified known).1 behind⟩

/-- Types with one base have one order of search, also once some type was qualified. -/
theorem searchOrder_qualified {result : TypeId} (rooted : ctx.Rooted other)
    (base : (ctx.qualified ty quals).2.pool.unqualified result = ctx.pool.unqualified other) :
    (ctx.qualified ty quals).2.searchOrder result = ctx.searchOrder other := by
  have order := searchOrder_depthFirst ctx other
  refine (searchOrder_depthFirst _ result).unique (base ▸ order.congr fun found listed => ?_)
  refine (supertypes_qualified (rooted_iff.1 rooted found listed) fun named among => ?_).symm
  exact rooted_iff.1 rooted named ((order.closed listed among).resolve_left List.not_mem_nil)

theorem rooted_qualified {result : TypeId} (rooted : ctx.Rooted other)
    (base : (ctx.qualified ty quals).2.pool.unqualified result = ctx.pool.unqualified other) :
    (ctx.qualified ty quals).2.Rooted result := by
  rw [rooted_iff, searchOrder_qualified rooted base]
  exact fun found listed => Nat.lt_of_lt_of_le (rooted_iff.1 rooted found listed)
    (TypePool.size_kept (TypePool.kept_qualified ctx.pool ty quals))

/-- Types with one base are subtypes of the same types, and have the same subtypes. -/
theorem isSubtype_qualified {result under : TypeId} (rooted : ctx.Rooted other)
    (base : (ctx.qualified ty quals).2.pool.unqualified result = ctx.pool.unqualified other)
    (base' : (ctx.qualified ty quals).2.pool.unqualified under = ctx.pool.unqualified target) :
    (ctx.qualified ty quals).2.isSubtype result under = ctx.isSubtype other target := by
  rw [isSubtype_of_rooted rooted, isSubtype_of_rooted (rooted_qualified rooted base),
    searchOrder_qualified rooted base, base']

/-! ### Tables whose sources name only what they were given -/

/-- If definitions mention only types of the pool, all that a type of the pool inherits from is in
the pool. -/
theorem rooted_of_twin (twin : Twin .id ctx ctx) (known : ty.index < ctx.pool.size) :
    ctx.Rooted ty := by
  intro other leads
  have start : Known ctx.extent ty := known_type.2 known
  suffices inside : Known ctx.extent other from known_type.1 inside
  induction leads with
  | refl => exact (twin.pool.unqualified start).2
  | tail _ step ih =>
    obtain ⟨body, behind, named, listed, rfl⟩ := step
    have parts := (twin.bodyOf ih).2
    rw [behind, known_ok, known_some, known_body] at parts
    refine (twin.pool.unqualified ?_).2
    rcases List.mem_append.1 listed with base | interface
    · rw [Option.mem_toList.1 base] at parts
      exact known_some.1 parts.2.2.2.1
    · exact known_list.1 parts.2.2.2.2.1 named interface

/-! ### The whole search -/

/-- How tables search for what a type inherits from, and what they answer of subtypes. -/
structure SearchesInheritance (ctx : TypeContext) : Prop where
  /-- It is never the depth of the search that ends it. -/
  ends : ∀ ty more, ctx.searchFrom (ctx.pool.size + 2 + more) [] (ctx.pool.unqualified ty) =
    ctx.searchOrder ty
  first : ∀ ty, (ctx.searchOrder ty).head? = some (ctx.pool.unqualified ty)
  once : ∀ ty, (ctx.searchOrder ty).Nodup
  complete : ∀ ty other, other ∈ ctx.searchOrder ty ↔
    ReflTransGen ctx.Inherits (ctx.pool.unqualified ty) other
  /-- The base class of a body comes before its interfaces, and these come as they were declared. -/
  siblings : ∀ ty body, ctx.bodyOf ty = .ok (some body) →
    ctx.supertypes ty = (body.base.toList ++ body.interfaces).map ctx.pool.unqualified
  preorder : ∀ ty, DepthFirst ctx.supertypes [] [ctx.pool.unqualified ty] (ctx.searchOrder ty)
  /-- What a type brings to the search follows it at once, depth first: all that it inherits from
  on ways around what came before it. -/
  block : ∀ ty front found back, ctx.searchOrder ty = front ++ found :: back →
    ∃ inner others, back = inner ++ others ∧
      DepthFirst ctx.supertypes front [found] (found :: inner) ∧
      ∀ other, other ∈ found :: inner ↔
        ReflTransGen (fun ty next => ctx.Inherits ty next ∧ next ∉ front) found other
  /-- There is an answer unless the search leaves the pool. -/
  answers : ∀ ty target, (∃ answer, ctx.isSubtype ty target = .ok answer) ↔ ctx.Rooted ty
  subtype : ∀ ty target, ctx.isSubtype ty target = .ok true ↔ ctx.Rooted ty ∧
    ReflTransGen ctx.Inherits (ctx.pool.unqualified ty) (ctx.pool.unqualified target)
  reflexive : ∀ ty, ctx.Rooted ty → ctx.isSubtype ty ty = .ok true
  transitive : ∀ ty middle target, ctx.isSubtype ty middle = .ok true →
    ctx.isSubtype middle target = .ok true → ctx.isSubtype ty target = .ok true
  /-- Types that differ only in qualifiers are subtypes of the same types, and have the same
  subtypes. -/
  alike : ∀ ty other target, ctx.pool.unqualified ty = ctx.pool.unqualified other →
    ctx.isSubtype ty target = ctx.isSubtype other target ∧
      ctx.isSubtype target ty = ctx.isSubtype target other
  /-- Further qualifiers on either side change no answer. -/
  qualified : ∀ ty target quals,
    quals ≠ .empty ∨ ctx.pool.unqualified (ctx.pool.unqualified ty) = ctx.pool.unqualified ty →
    ctx.Rooted ty → ctx.Rooted target →
    ty.index < ctx.pool.size → target.index < ctx.pool.size →
    let (qualified, next) := ctx.qualified ty quals
    next.isSubtype qualified target = ctx.isSubtype ty target ∧
      next.isSubtype target qualified = ctx.isSubtype target ty

theorem searchesInheritance (sound : ctx.pool.Sound) : ctx.SearchesInheritance where
  ends ty more := (searchFrom_depth ctx ty more).unique (searchOrder_depthFirst ctx ty)
  first ty := by
    obtain ⟨inner, order, -⟩ := (searchOrder_depthFirst ctx ty).head List.not_mem_nil
    rw [order, List.head?_cons]
  once ty := (searchOrder_depthFirst ctx ty).once.1
  complete ty other := mem_searchOrder
  siblings ty body behind := supertypes_of_bodyOf behind
  preorder := searchOrder_depthFirst ctx
  block ty front found back place := by
    have order := searchOrder_depthFirst ctx ty
    obtain ⟨inner, others, parts, block⟩ := order.block place
    have fresh : found ∉ front := by
      have once := place ▸ order.once.1
      exact fun early => (List.nodup_append'.1 once).2.2 early List.mem_cons_self
    refine ⟨inner, others, parts, block, fun other => ?_⟩
    simp [block.mem_iff, leadsAround_iff, fresh]
  answers ty target := ⟨fun ⟨_, answered⟩ => rooted_of_isSubtype answered,
    fun rooted => ⟨_, isSubtype_of_rooted rooted target⟩⟩
  subtype ty target := isSubtype_iff
  reflexive ty rooted := isSubtype_iff.2 ⟨rooted, .refl⟩
  transitive ty middle target lower upper := by
    obtain ⟨rooted, leads⟩ := isSubtype_iff.1 lower
    exact isSubtype_iff.2 ⟨rooted, leads.trans (isSubtype_iff.1 upper).2⟩
  alike ty other target same := by
    simp only [isSubtype, knownOrder, searchOrder, same, and_self]
  qualified ty target quals further rooted rooted' known known' := by
    have base := unqualified_qualified sound further
    have stays : (ctx.qualified ty quals).2.pool.unqualified target = ctx.pool.unqualified target :=
      congrArg Prod.fst (TypePool.split_kept (TypePool.kept_qualified ctx.pool ty quals) known')
    exact ⟨isSubtype_qualified rooted base stays, isSubtype_qualified rooted' stays base⟩

/-- Whatever is asked of new tables, they search for what a type inherits from in this way, through
cycles, diamonds and qualified bases. If the requests mention only types that were given out before,
the search has an answer for each type of the pool. -/
theorem inheritance_search (config : TypeConfig) (history : List TableRequest) :
    let now := ({ config } : TypeContext).after history
    now.SearchesInheritance ∧
      (({ config } : TypeContext).Scoped history →
        ∀ ty : TypeId, ty.index < now.pool.size → now.Rooted ty) := by
  intro now
  have sound : CacheSound now := (after_sound (cacheSound_initial config) history).1
  refine ⟨searchesInheritance sound.indexed.pool, fun inside ty known => ?_⟩
  obtain ⟨_, -, twin, -⟩ := (twin_initial config).run inside
  exact rooted_of_twin twin.self known

/-- Two interfaces that inherit from each other, one of them through a qualified name. -/
example : (({} : TypeContext).after [.declare none .interface none, .declare none .interface none,
    .qualify ⟨13⟩ .const, .define ⟨13⟩ { interfaces := [⟨14⟩] },
    .define ⟨14⟩ { interfaces := [⟨15⟩] }]).searchOrder ⟨15⟩ = [⟨13⟩, ⟨14⟩] := by
  cbv

end TypeContext

end FrontEnd
