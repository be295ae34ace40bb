import FrontEnd.Proofs.Outcome
import FrontEnd.Proofs.Typing.Inheritance
import FrontEnd.Proofs.Typing.Sharding
import FrontEnd.Typing.Conversion
import Mathlib

/-!
What implicit conversions keep. A value becomes one of another type only if that type has room for
it: no qualifier is dropped, integers only widen, and no two types convert to each other unless
inheritance or the representation of enumerations goes in a circle.
-/

namespace FrontEnd

open Relation

namespace Qualifiers

variable {own wider : Qualifiers}

/-- Each qualifier of the first set is one of the second. -/
structure Within (own wider : Qualifiers) : Prop where
  const : own.isConst → wider.isConst
  volatile : own.isVolatile → wider.isVolatile
  safe : own.isSafe → wider.isSafe
  mutable : own.isMutable → wider.isMutable

theorem contains_iff : wider.contains own = true ↔ own.Within wider := by
  obtain ⟨const, volatile, safe, mutable⟩ := own
  obtain ⟨const', volatile', safe', mutable'⟩ := wider
  simp only [contains, union, beq_iff_eq, mk.injEq, Bool.or_eq_left_iff_imp]
  constructor <;>
  · rintro ⟨const, volatile, safe, mutable⟩
    exact ⟨const, volatile, safe, mutable⟩

theorem Within.refl (own : Qualifiers) : own.Within own := ⟨id, id, id, id⟩

theorem Within.trans {widest : Qualifiers} (first : own.Within wider) (second : wider.Within widest) :
    own.Within widest :=
  ⟨second.const ∘ first.const, second.volatile ∘ first.volatile, second.safe ∘ first.safe,
    second.mutable ∘ first.mutable⟩

theorem Within.antisymm (there : own.Within wider) (back : wider.Within own) : own = wider := by
  obtain ⟨const, volatile, safe, mutable⟩ := own
  obtain ⟨const', volatile', safe', mutable'⟩ := wider
  rw [mk.injEq]
  exact ⟨Bool.eq_iff_iff.2 ⟨there.const, back.const⟩,
    Bool.eq_iff_iff.2 ⟨there.volatile, back.volatile⟩, Bool.eq_iff_iff.2 ⟨there.safe, back.safe⟩,
    Bool.eq_iff_iff.2 ⟨there.mutable, back.mutable⟩⟩

end Qualifiers

namespace TypeContext

variable {ctx : TypeContext} {source target inner toInner ty other : TypeId} {form toForm : TypeForm}

/-- A value of one type is taken where the other is expected. -/
def ConvertsTo (ctx : TypeContext) (source target : TypeId) : Prop :=
  ∃ rank, ctx.conversion source target = .ok (some rank)

/-- An enumeration has the type of the numbers that represent it, whose qualifiers do not count. -/
def RepresentedBy (ctx : TypeContext) (ty other : TypeId) : Prop :=
  ∃ id body index, ctx.pool.form? ty = some (.nominal .enumeration id) ∧
    ctx.bodyOf ty = .ok (some body) ∧ body.indexType = some index ∧
    ctx.pool.unqualified index = other

/-- A pointer to one type may become a pointer to another. -/
structure PointsTo (ctx : TypeContext) (inner toInner : TypeId) : Prop where
  qualifiers : (ctx.pool.qualifiers inner).Within (ctx.pool.qualifiers toInner)
  base : ctx.pool.unqualified inner = ctx.pool.unqualified toInner ∨
    ctx.isRecord (ctx.pool.unqualified inner) = .ok true ∧
      ctx.isSubtype (ctx.pool.unqualified inner) (ctx.pool.unqualified toInner) = .ok true

/-- Values of one unqualified type become values of another, by one of six rules. -/
inductive Becomes (ctx : TypeContext) (source target : TypeId) : Prop where
  | wider {bits toBits : Nat} {signed toSigned : Bool}
      (here : ctx.pool.form? source = some (.int bits signed))
      (there : ctx.pool.form? target = some (.int toBits toSigned)) (more : bits < toBits)
      (sign : signed = toSigned ∨ signed = false)
  | floating {bits toBits : Nat} {signed : Bool}
      (here : ctx.pool.form? source = some (.int bits signed))
      (there : ctx.pool.form? target = some (.float toBits))
  | widerFloat {bits toBits : Nat} (here : ctx.pool.form? source = some (.float bits))
      (there : ctx.pool.form? target = some (.float toBits)) (more : bits < toBits)
  | represented (known : target.index < ctx.pool.size) (by_ : ctx.RepresentedBy source target)
  | pointed {inner toInner : TypeId} (here : ctx.pool.form? source = some (.pointer inner))
      (there : ctx.pool.form? target = some (.pointer toInner))
      (points : ctx.PointsTo inner toInner)
  | sliced {element toElement : TypeId} {length : Nat}
      (here : ctx.pool.form? source = some (.array element length))
      (there : ctx.pool.form? target = some (.slice toElement))
      (base : ctx.pool.unqualified element = ctx.pool.unqualified toElement)
      (qualifiers : (ctx.pool.qualifiers element).Within (ctx.pool.qualifiers toElement))

/-! ### The rules -/

theorem form_eq_ok_iff : ctx.pool.form ty = .ok form ↔ ctx.pool.form? ty = some form := by
  unfold TypePool.form
  split <;> simp [*]

theorem targetConverts_iff :
    ctx.targetConverts inner toInner = .ok true ↔ ctx.PointsTo inner toInner := by
  have split : ctx.PointsTo inner toInner ↔
      (ctx.pool.split toInner).2.contains (ctx.pool.split inner).2 = true ∧
        ((ctx.pool.split inner).1 = (ctx.pool.split toInner).1 ∨
          ctx.isRecord (ctx.pool.split inner).1 = .ok true ∧
            ctx.isSubtype (ctx.pool.split inner).1 (ctx.pool.split toInner).1 = .ok true) := by
    rw [Qualifiers.contains_iff]
    exact ⟨fun ⟨qualifiers, base⟩ => ⟨qualifiers, base⟩, fun ⟨qualifiers, base⟩ => ⟨qualifiers, base⟩⟩
  rw [split]
  unfold targetConverts
  by_cases wider : (ctx.pool.split toInner).2.contains (ctx.pool.split inner).2 = true
  · by_cases same : (ctx.pool.split inner).1 = (ctx.pool.split toInner).1
    · simp [wider, same, pure, Except.pure]
    · simp only [wider, same, Bool.not_true, Bool.false_eq_true, ↓reduceIte, bind_eq_ok_iff, true_and,
        false_or]
      constructor
      · rintro ⟨_ | _, record, subtype⟩
        · cases subtype
        · exact ⟨record, subtype⟩
      · rintro ⟨record, subtype⟩
        exact ⟨true, record, subtype⟩
  · simp [wider, pure, Except.pure]

theorem converts_iff : ctx.converts source target = .ok true ↔ ctx.Becomes source target := by
  constructor
  · intro converts
    obtain ⟨form, here, converts⟩ := bind_eq_ok converts
    obtain ⟨toForm, there, converts⟩ := bind_eq_ok converts
    rw [form_eq_ok_iff] at here there
    split at converts
    · have widens := Except.ok.inj converts
      simp only [widensInt, Bool.and_eq_true, decide_eq_true_eq, Bool.or_eq_true, beq_iff_eq,
        Bool.not_eq_true'] at widens
      exact .wider here there widens.1 widens.2
    · exact .floating here there
    · exact .widerFloat here there (of_decide_eq_true (Except.ok.inj converts))
    · obtain ⟨body, behind, converts⟩ := bind_eq_ok converts
      split at converts
      · rename_i index stated
        obtain ⟨body, rfl, stated⟩ := Option.bind_eq_some_iff.1 stated
        exact .represented (TypePool.lt_size_of_form? there)
          ⟨_, body, index, here, behind, stated, beq_iff_eq.1 (Except.ok.inj converts)⟩
      · cases converts
    · exact .pointed here there (targetConverts_iff.1 converts)
    · have parts := Except.ok.inj converts
      rw [Bool.and_eq_true, beq_iff_eq, Qualifiers.contains_iff] at parts
      exact .sliced here there parts.1 parts.2
    · cases converts
  · intro becomes
    have known {form toForm : TypeForm} (here : ctx.pool.form? source = some form)
        (there : ctx.pool.form? target = some toForm) :
        ctx.pool.form source = .ok form ∧ ctx.pool.form target = .ok toForm :=
      ⟨form_eq_ok_iff.2 here, form_eq_ok_iff.2 there⟩
    unfold converts
    cases becomes with
    | wider here there more sign =>
      simp [known here there, Bind.bind, Except.bind, pure, Except.pure, widensInt, more, sign]
    | floating here there =>
      simp [known here there, Bind.bind, Except.bind, pure, Except.pure]
    | widerFloat here there more =>
      simp [known here there, Bind.bind, Except.bind, pure, Except.pure, more]
    | represented inside by_ =>
      obtain ⟨id, body, index, here, behind, stated, same⟩ := by_
      obtain ⟨toForm, there⟩ := TypePool.exists_form? inside
      simp [known here there, Bind.bind, Except.bind, pure, Except.pure, behind, stated, same]
    | pointed here there points =>
      simpa [known here there, Bind.bind, Except.bind] using targetConverts_iff.2 points
    | sliced here there base qualifiers =>
      have split : (ctx.pool.split _).1 = (ctx.pool.split _).1 := base
      have within := Qualifiers.contains_iff.2 qualifiers
      simp_all [Bind.bind, Except.bind, pure, Except.pure, TypePool.qualifiers]

/-- Two types are the same, or the second has room for the qualifiers and the values of the first. -/
theorem convertsTo_iff : ctx.ConvertsTo source target ↔ source = target ∨
    (ctx.pool.qualifiers source).Within (ctx.pool.qualifiers target) ∧
      (ctx.pool.unqualified source = ctx.pool.unqualified target ∨
        ctx.Becomes (ctx.pool.unqualified source) (ctx.pool.unqualified target)) := by
  rw [← Qualifiers.contains_iff, ← converts_iff]
  unfold ConvertsTo conversion TypePool.qualifiers TypePool.unqualified
  by_cases equal : source = target
  · simp [equal, pure, Except.pure]
  by_cases wider : (ctx.pool.split target).2.contains (ctx.pool.split source).2 = true
  · by_cases same : (ctx.pool.split source).1 = (ctx.pool.split target).1
    · simp [equal, wider, same, pure, Except.pure]
    · simp only [equal, wider, same, ↓reduceIte, Bool.not_true, Bool.false_eq_true, bind_eq_ok_iff,
        false_or, true_and]
      constructor
      · rintro ⟨rank, _ | _, converts, given⟩
        · cases given
        · exact converts
      · exact fun converts => ⟨.conversion, true, converts, rfl⟩
  · simp [equal, wider, pure, Except.pure]

/-- A conversion that is needed is ranked as one. -/
theorem conversion_of_ne {rank : Rank} (different : source ≠ target)
    (converts : ctx.conversion source target = .ok (some rank)) : rank = .conversion := by
  unfold conversion at converts
  rw [if_neg different] at converts
  dsimp only at converts
  split at converts
  · cases converts
  split at converts
  · cases converts
    rfl
  · obtain ⟨answer, -, converts⟩ := bind_eq_ok converts
    cases answer <;> cases converts
    rfl

theorem conversion_exact_iff : ctx.conversion source target = .ok (some .exact) ↔ source = target := by
  constructor
  · intro exact
    by_contra different
    cases conversion_of_ne different exact
  · rintro rfl
    simp [conversion, pure, Except.pure]

/-! ### Qualifiers -/

theorem ConvertsTo.value (converts : ctx.ConvertsTo source target) :
    (ctx.pool.qualifiers source).Within (ctx.pool.qualifiers target) := by
  rcases convertsTo_iff.1 converts with rfl | ⟨within, -⟩
  · exact .refl _
  · exact within

theorem ConvertsTo.pointee (converts : ctx.ConvertsTo source target)
    (here : ctx.pool.form? (ctx.pool.unqualified source) = some (.pointer inner))
    (there : ctx.pool.form? (ctx.pool.unqualified target) = some (.pointer toInner)) :
    (ctx.pool.qualifiers inner).Within (ctx.pool.qualifiers toInner) := by
  rcases convertsTo_iff.1 converts with rfl | ⟨-, same | becomes⟩
  · cases here.symm.trans there
    exact .refl _
  · cases (same ▸ here).symm.trans there
    exact .refl _
  cases becomes with
  | pointed here' there' points =>
    cases here.symm.trans here'
    cases there.symm.trans there'
    exact points.qualifiers
  | represented _ by_ =>
    obtain ⟨id, body, index, here', -⟩ := by_
    cases here.symm.trans here'
  | wider here' _ _ _ | floating here' _ | widerFloat here' _ _ | sliced here' _ _ _ =>
    cases here.symm.trans here'

theorem ConvertsTo.element {element toElement : TypeId} {length : Nat}
    (converts : ctx.ConvertsTo source target)
    (here : ctx.pool.form? (ctx.pool.unqualified source) = some (.array element length))
    (there : ctx.pool.form? (ctx.pool.unqualified target) = some (.slice toElement)) :
    (ctx.pool.qualifiers element).Within (ctx.pool.qualifiers toElement) := by
  rcases convertsTo_iff.1 converts with rfl | ⟨-, same | becomes⟩
  · cases here.symm.trans there
  · cases (same ▸ here).symm.trans there
  cases becomes with
  | sliced here' there' base qualifiers =>
    cases here.symm.trans here'
    cases there.symm.trans there'
    exact qualifiers
  | represented _ by_ =>
    obtain ⟨id, body, index, here', -⟩ := by_
    cases here.symm.trans here'
  | wider here' _ _ _ | floating here' _ | widerFloat here' _ _ | pointed here' _ _ =>
    cases here.symm.trans here'

/-! ### Numbers -/

/-- The numbers of an integer type. Half of those of a type with a sign are negative. -/
def IsInteger (bits : Nat) (signed : Bool) (value : Int) : Prop :=
  if signed then -(2 ^ (bits - 1) : Nat) ≤ value ∧ value < (2 ^ (bits - 1) : Nat)
  else 0 ≤ value ∧ value < (2 ^ bits : Nat)

/-- An integer type is the same or strictly wider, and has a sign if the other has one, exactly if
it has all numbers of the other. -/
theorem wider_iff {bits toBits : Nat} {signed toSigned : Bool} (some_ : 0 < bits)
    (some' : 0 < toBits) :
    (bits = toBits ∧ signed = toSigned ∨ bits < toBits ∧ (signed = toSigned ∨ signed = false)) ↔
      ∀ value, IsInteger bits signed value → IsInteger toBits toSigned value := by
  have powers (small large : Nat) : 2 ^ small ≤ 2 ^ large ↔ small ≤ large :=
    Nat.pow_le_pow_iff_right Nat.one_lt_two
  have half := Nat.two_pow_pos (bits - 1)
  have half' := Nat.two_pow_pos (toBits - 1)
  have whole := Nat.two_pow_pos bits
  cases signed <;> cases toSigned <;>
    simp only [IsInteger, Bool.false_eq_true, Bool.true_eq_false, ↓reduceIte, or_true, true_or,
      false_or, or_self, and_true, and_false, false_iff]
  · show _ ↔ Set.Ico (0 : Int) _ ⊆ Set.Ico 0 _
    have powers := powers bits toBits
    rw [Set.Ico_subset_Ico_iff (by omega)]
    omega
  · show _ ↔ Set.Ico (0 : Int) _ ⊆ Set.Ico _ _
    have powers := powers bits (toBits - 1)
    rw [Set.Ico_subset_Ico_iff (by omega)]
    omega
  · show ¬ Set.Ico (_ : Int) _ ⊆ Set.Ico 0 _
    rw [Set.Ico_subset_Ico_iff (by omega)]
    omega
  · show _ ↔ Set.Ico (_ : Int) _ ⊆ Set.Ico _ _
    have powers := powers (bits - 1) (toBits - 1)
    rw [Set.Ico_subset_Ico_iff (by omega)]
    omega

/-- The form is that of an integer or floating point type. -/
def IsNumber : TypeForm → Prop
  | .int .. | .float _ => True
  | _ => False

/-- Numbers of the first form become numbers of the second, which is another one. -/
def WidensTo : TypeForm → TypeForm → Prop
  | .int bits signed, .int toBits toSigned =>
    bits < toBits ∧ (signed = toSigned ∨ signed = false)
  | .int .., .float _ => True
  | .float bits, .float toBits => bits < toBits
  | _, _ => False

theorem WidensTo.trans {last : TypeForm} (first : WidensTo form toForm)
    (second : WidensTo toForm last) : WidensTo form last := by
  cases form <;> cases toForm <;> cases last <;> simp only [WidensTo] at first second ⊢
  · refine ⟨Nat.lt_trans first.1 second.1, ?_⟩
    grind
  · exact Nat.lt_trans first second

theorem WidensTo.asymm (there : WidensTo form toForm) : ¬ WidensTo toForm form := by
  intro back
  cases form <;> cases toForm <;> simp only [WidensTo] at there back
  · exact Nat.lt_asymm there.1 back.1
  · exact Nat.lt_asymm there back

theorem becomes_number (here : ctx.pool.form? source = some form)
    (there : ctx.pool.form? target = some toForm) (number : IsNumber form) :
    ctx.Becomes source target ↔ WidensTo form toForm := by
  constructor
  · intro becomes
    cases becomes with
    | wider here' there' more sign =>
      cases here.symm.trans here'
      cases there.symm.trans there'
      exact ⟨more, sign⟩
    | floating here' there' =>
      cases here.symm.trans here'
      cases there.symm.trans there'
      trivial
    | widerFloat here' there' more =>
      cases here.symm.trans here'
      cases there.symm.trans there'
      exact more
    | represented _ by_ =>
      obtain ⟨id, body, index, here', -⟩ := by_
      cases here.symm.trans here'
      cases number
    | pointed here' _ _ | sliced here' _ _ _ =>
      cases here.symm.trans here'
      cases number
  · intro widens
    cases form <;> cases toForm <;> simp only [WidensTo] at widens
    · exact .wider here there widens.1 widens.2
    · exact .floating here there
    · exact .widerFloat here there widens

/-! ### Both ways -/

section Canonical

variable (good : TypePool.table.Good TypePool.Sound ctx.pool)

include good

/-- What is left of a type of the pool without its qualifiers has none. -/
theorem unqualified_plain (known : ty.index < ctx.pool.size) :
    (ctx.pool.unqualified ty).index < ctx.pool.size ∧
      ctx.pool.unqualified (ctx.pool.unqualified ty) = ctx.pool.unqualified ty := by
  have plain := TypeTable.plain_base TypePool.table_lawful good (TypePool.exists_form? known)
  have split : ctx.pool.split (ctx.pool.unqualified ty) = (ctx.pool.unqualified ty, .empty) :=
    TypeTable.split_plain TypePool.table_lawful good.valid plain
  obtain ⟨form, found⟩ := plain.holds
  exact ⟨TypePool.lt_size_of_form? found, (congrArg Prod.fst split :)⟩

/-- A type of the pool is known by what is left of it and its qualifiers. -/
theorem eq_of_parts (known : ty.index < ctx.pool.size) (known' : other.index < ctx.pool.size)
    (base : ctx.pool.unqualified ty = ctx.pool.unqualified other)
    (qualifiers : ctx.pool.qualifiers ty = ctx.pool.qualifiers other) : ty = other :=
  TypeTable.eq_of_split TypePool.table_lawful good (TypePool.exists_form? known)
    (TypePool.exists_form? known') (Prod.ext base qualifiers)

theorem part_known (found : ctx.pool.form? ty = some form) (part : other ∈ form.children) :
    other.index < ctx.pool.size := by
  obtain ⟨stored, there⟩ := (good.stored ty form found).children other part
  exact TypePool.lt_size_of_form? there

/-- Two types that pointers lead between both ways are the same, unless inheritance has a cycle. -/
theorem PointsTo.antisymm (acyclic : ∀ ty, ¬ TransGen ctx.Inherits ty ty)
    (known : inner.index < ctx.pool.size) (known' : toInner.index < ctx.pool.size)
    (there : ctx.PointsTo inner toInner) (back : ctx.PointsTo toInner inner) : inner = toInner := by
  refine eq_of_parts good known known' ?_ (there.qualifiers.antisymm back.qualifiers)
  -- Two different bases would each inherit from the other.
  by_contra different
  have above := (isSubtype_iff.1 (there.base.resolve_left different).2).2
  have below := (isSubtype_iff.1 (back.base.resolve_left (Ne.symm different)).2).2
  simp only [(unqualified_plain good known).2, (unqualified_plain good known').2] at above below
  have climbs := (reflTransGen_iff_eq_or_transGen.1 above).resolve_left (Ne.symm different)
  exact acyclic _ (climbs.trans_left below)

/-- No two types become each other, unless inheritance or the representation of enumerations has a
cycle. -/
theorem Becomes.antisymm (inheritance : ∀ ty, ¬ TransGen ctx.Inherits ty ty)
    (representation : ∀ ty, ¬ TransGen ctx.RepresentedBy ty ty) (there : ctx.Becomes source target)
    (back : ctx.Becomes target source) : source = target := by
  -- The forms of the two types leave only the same rule for the way back.
  cases there with
  | wider here there more sign =>
    have widens := (becomes_number here there trivial).1 (.wider here there more sign)
    exact absurd ((becomes_number there here trivial).1 back) widens.asymm
  | floating here there => exact absurd ((becomes_number there here trivial).1 back) id
  | widerFloat here there more =>
    have widens := (becomes_number here there trivial).1 (.widerFloat here there more)
    exact absurd ((becomes_number there here trivial).1 back) widens.asymm
  | represented _ by_ =>
    cases back with
    | represented _ by' => exact absurd (.tail (.single by_) by') (representation source)
    | wider _ here' _ _ | floating _ here' | widerFloat _ here' _ | pointed _ here' _
    | sliced _ here' _ _ =>
      obtain ⟨id, body, index, here, -⟩ := by_
      cases here.symm.trans here'
  | pointed here there points =>
    cases back with
    | pointed there' here' back =>
      cases here.symm.trans here'
      cases there.symm.trans there'
      have same := points.antisymm good inheritance (part_known good here List.mem_cons_self)
        (part_known good there List.mem_cons_self) back
      exact TypePool.table_lawful.distinct good.valid here (same ▸ there)
    | represented _ by' =>
      obtain ⟨id, body, index, there', -⟩ := by'
      cases there.symm.trans there'
    | wider there' _ _ _ | floating there' _ | widerFloat there' _ _ | sliced there' _ _ _ =>
      cases there.symm.trans there'
  | sliced here there base qualifiers =>
    cases back with
    | represented _ by' =>
      obtain ⟨id, body, index, there', -⟩ := by'
      cases there.symm.trans there'
    | wider there' _ _ _ | floating there' _ | widerFloat there' _ _ | pointed there' _ _
    | sliced there' _ _ _ => cases there.symm.trans there'

end Canonical

/-! ### Answers -/

/-- A question about conversion is one about what is left of the types without qualifiers. -/
theorem conversion_answers (answers : ∃ answer,
    ctx.converts (ctx.pool.unqualified source) (ctx.pool.unqualified target) = .ok answer) :
    ∃ answer, ctx.conversion source target = .ok answer := by
  obtain ⟨answer, converts⟩ := answers
  have converts : ctx.converts (ctx.pool.split source).1 (ctx.pool.split target).1 = .ok answer :=
    converts
  unfold conversion
  split
  · exact ⟨_, rfl⟩
  dsimp only
  split
  · exact ⟨_, rfl⟩
  split
  · exact ⟨_, rfl⟩
  rw [converts]
  cases answer <;> exact ⟨_, rfl⟩

theorem converts_number (here : ctx.pool.form? source = some form)
    (there : ctx.pool.form? target = some toForm) (number : IsNumber form) :
    ∃ answer, ctx.converts source target = .ok answer := by
  unfold converts
  rw [form_eq_ok_iff.2 here, form_eq_ok_iff.2 there]
  cases form <;> try cases number
  all_goals cases toForm <;> exact ⟨_, rfl⟩

section Known

variable (twin : Twin .id ctx ctx)

include twin

theorem known_unqualified (known : ty.index < ctx.pool.size) :
    (ctx.pool.unqualified ty).index < ctx.pool.size :=
  known_type.1 (twin.pool.unqualified (known_type.2 known)).2

theorem bodyOf_answers (known : ty.index < ctx.pool.size) :
    (∃ entry, ctx.defOf ty = .ok entry) ∧ ∃ body, ctx.bodyOf ty = .ok body := by
  obtain ⟨form, found⟩ := TypePool.exists_form? (known_unqualified twin known)
  have behind : ∃ entry, ctx.defOf ty = .ok entry := by
    unfold defOf
    rw [form_eq_ok_iff.2 found]
    cases form <;> exact ⟨_, rfl⟩
  refine ⟨behind, ?_⟩
  obtain ⟨entry, behind⟩ := behind
  unfold bodyOf
  rw [behind]
  exact ⟨_, rfl⟩

theorem targetConverts_answers (known : inner.index < ctx.pool.size) :
    ∃ answer, ctx.targetConverts inner toInner = .ok answer := by
  have known := known_unqualified twin known
  have record : ∃ answer, ctx.isRecord (ctx.pool.split inner).1 = .ok answer := by
    obtain ⟨⟨entry, behind⟩, -⟩ := bodyOf_answers twin known
    have behind : ctx.defOf (ctx.pool.split inner).1 = .ok entry := behind
    unfold isRecord
    rw [behind]
    cases entry <;> exact ⟨_, rfl⟩
  obtain ⟨answer, record⟩ := record
  unfold targetConverts
  dsimp only
  split
  · exact ⟨_, rfl⟩
  split
  · exact ⟨_, rfl⟩
  rw [record]
  cases answer with
  | false => exact ⟨_, rfl⟩
  | true => exact ⟨_, isSubtype_of_rooted (rooted_of_twin twin known) _⟩

/-- Where all tables mention only types of the pool, it is always known whether types of the pool
convert. -/
theorem conversion_known (known : source.index < ctx.pool.size)
    (known' : target.index < ctx.pool.size) :
    ∃ answer, ctx.conversion source target = .ok answer := by
  have known := known_unqualified twin known
  have known' := known_unqualified twin known'
  refine conversion_answers ?_
  obtain ⟨form, here⟩ := TypePool.exists_form? known
  obtain ⟨toForm, there⟩ := TypePool.exists_form? known'
  unfold converts
  rw [form_eq_ok_iff.2 here, form_eq_ok_iff.2 there]
  dsimp only [Bind.bind, Except.bind]
  split
  · exact ⟨_, rfl⟩
  · exact ⟨_, rfl⟩
  · exact ⟨_, rfl⟩
  · obtain ⟨-, body, behind⟩ := bodyOf_answers twin known
    rw [behind]
    dsimp only
    split <;> exact ⟨_, rfl⟩
  · exact targetConverts_answers twin
      (known_type.1 (known_pointer.1 (twin.pool.form _ _ here).1))
  · exact ⟨_, rfl⟩
  · exact ⟨_, rfl⟩

end Known

/-! ### Soundness -/

/-- A type of integers or floating point numbers, with whatever qualifiers. -/
def Numeric (ctx : TypeContext) (ty : TypeId) : Prop :=
  ∃ form, ctx.pool.form? (ctx.pool.unqualified ty) = some form ∧ IsNumber form

/-- What is left of types of numbers without their qualifiers widens, or is the same. -/
theorem convertsTo_number (here : ctx.pool.form? (ctx.pool.unqualified source) = some form)
    (there : ctx.pool.form? (ctx.pool.unqualified target) = some toForm) (number : IsNumber form) :
    ctx.ConvertsTo source target ↔ source = target ∨
      (ctx.pool.qualifiers source).Within (ctx.pool.qualifiers target) ∧
        (ctx.pool.unqualified source = ctx.pool.unqualified target ∨ WidensTo form toForm) := by
  rw [convertsTo_iff, becomes_number here there number]

theorem convertsTo_refl (ctx : TypeContext) (ty : TypeId) : ctx.ConvertsTo ty ty :=
  ⟨.exact, conversion_exact_iff.2 rfl⟩

/-- Among types of numbers, one step of conversion is as good as two. -/
theorem Numeric.convertsTo_trans {middle : TypeId} (number : ctx.Numeric source)
    (number' : ctx.Numeric middle) (number'' : ctx.Numeric target)
    (first : ctx.ConvertsTo source middle) (second : ctx.ConvertsTo middle target) :
    ctx.ConvertsTo source target := by
  obtain ⟨form, here, number⟩ := number
  obtain ⟨between, middle, number'⟩ := number'
  obtain ⟨toForm, there, -⟩ := number''
  rw [convertsTo_number here middle number] at first
  rw [convertsTo_number middle there number'] at second
  rw [convertsTo_number here there number]
  rcases first with rfl | ⟨within, first⟩
  · cases here.symm.trans middle
    exact second
  rcases second with rfl | ⟨within', second⟩
  · cases there.symm.trans middle
    exact .inr ⟨within, first⟩
  refine .inr ⟨within.trans within', ?_⟩
  rcases first with same | first
  · rw [same]
    cases here.symm.trans (same ▸ middle)
    exact second
  rcases second with same | second
  · rw [← same]
    cases there.symm.trans (same ▸ middle)
    exact .inr first
  · exact .inr (first.trans second)

/-- Integers convert, as far as their qualifiers allow it, exactly to types that have all of them. -/
theorem convertsTo_integer {bits toBits : Nat} {signed toSigned : Bool}
    (good : TypePool.table.Good TypePool.Sound ctx.pool) (some_ : 0 < bits) (some' : 0 < toBits)
    (here : ctx.pool.form? (ctx.pool.unqualified source) = some (.int bits signed))
    (there : ctx.pool.form? (ctx.pool.unqualified target) = some (.int toBits toSigned)) :
    ctx.ConvertsTo source target ↔
      (ctx.pool.qualifiers source).Within (ctx.pool.qualifiers target) ∧
        ∀ value, IsInteger bits signed value → IsInteger toBits toSigned value := by
  rw [convertsTo_number here there trivial, ← wider_iff some_ some']
  constructor
  · rintro (rfl | ⟨within, same | widens⟩)
    · cases here.symm.trans there
      exact ⟨.refl _, .inl ⟨rfl, rfl⟩⟩
    · cases (same ▸ here).symm.trans there
      exact ⟨within, .inl ⟨rfl, rfl⟩⟩
    · exact ⟨within, .inr widens⟩
  · rintro ⟨within, ⟨rfl, rfl⟩ | widens⟩
    · exact .inr ⟨within, .inl (TypePool.table_lawful.distinct good.valid here there)⟩
    · exact .inr ⟨within, .inr widens⟩

theorem Numeric.known (number : ctx.Numeric ty) : ty.index < ctx.pool.size := by
  obtain ⟨form, found, -⟩ := number
  by_contra foreign
  rw [unqualified_foreign foreign, form?_foreign foreign] at found
  cases found

/-- What implicit conversions keep. -/
structure ConvertsSoundly (ctx : TypeContext) : Prop where
  /-- A conversion is exact where none is needed, and only there. -/
  exact : ∀ source target, ctx.conversion source target = .ok (some .exact) ↔ source = target
  /-- No qualifier of the value is dropped, none of what a pointer leads to, and none of the elements
  of an array that becomes a slice. -/
  value : ∀ source target, ctx.ConvertsTo source target →
    (ctx.pool.qualifiers source).Within (ctx.pool.qualifiers target)
  pointee : ∀ source target inner toInner, ctx.ConvertsTo source target →
    ctx.pool.form? (ctx.pool.unqualified source) = some (.pointer inner) →
    ctx.pool.form? (ctx.pool.unqualified target) = some (.pointer toInner) →
    (ctx.pool.qualifiers inner).Within (ctx.pool.qualifiers toInner)
  element : ∀ source target element length toElement, ctx.ConvertsTo source target →
    ctx.pool.form? (ctx.pool.unqualified source) = some (.array element length) →
    ctx.pool.form? (ctx.pool.unqualified target) = some (.slice toElement) →
    (ctx.pool.qualifiers element).Within (ctx.pool.qualifiers toElement)
  /-- Integers convert, as far as their qualifiers allow it, exactly to types that have all of them. -/
  integers : ∀ source target bits signed toBits toSigned, 0 < bits → 0 < toBits →
    ctx.pool.form? (ctx.pool.unqualified source) = some (.int bits signed) →
    ctx.pool.form? (ctx.pool.unqualified target) = some (.int toBits toSigned) →
    (ctx.ConvertsTo source target ↔
      (ctx.pool.qualifiers source).Within (ctx.pool.qualifiers target) ∧
        ∀ value, IsInteger bits signed value → IsInteger toBits toSigned value)
  /-- On types of numbers there is always an answer, and conversion is a partial order. -/
  answers : ∀ source target, ctx.Numeric source → ctx.Numeric target →
    ∃ answer, ctx.conversion source target = .ok answer
  reflexive : ∀ ty, ctx.ConvertsTo ty ty
  antisymmetric : ∀ source target, ctx.Numeric source → ctx.Numeric target →
    ctx.ConvertsTo source target → ctx.ConvertsTo target source → source = target
  transitive : ∀ source middle target, ctx.Numeric source → ctx.Numeric middle →
    ctx.Numeric target → ctx.ConvertsTo source middle → ctx.ConvertsTo middle target →
    ctx.ConvertsTo source target
  /-- Where neither inheritance nor the representation of enumerations has a cycle, no two types of
  the pool convert to each other. -/
  oneWay : (∀ ty, ¬ TransGen ctx.Inherits ty ty) → (∀ ty, ¬ TransGen ctx.RepresentedBy ty ty) →
    ∀ source target, source.index < ctx.pool.size → target.index < ctx.pool.size →
    ctx.ConvertsTo source target → ctx.ConvertsTo target source → source = target

/-- In a pool that was built from types that were there, implicit conversions are sound, whatever the
definitions behind its nominal types. -/
theorem conversion_sound (built : TypePool.table.Leads .new ctx.pool) : ctx.ConvertsSoundly := by
  have good : TypePool.table.Good TypePool.Sound ctx.pool :=
    (built.good TypePool.table_lawful (.of_primitives TypePool.sound_new TypePool.form?_new_eq)).2
  refine {
    exact := fun _ _ => conversion_exact_iff
    value := fun _ _ => ConvertsTo.value
    pointee := fun _ _ _ _ => ConvertsTo.pointee
    element := fun _ _ _ _ _ => ConvertsTo.element
    integers := fun _ _ _ _ _ _ => convertsTo_integer good
    answers := ?answers
    reflexive := convertsTo_refl ctx
    antisymmetric := ?antisymmetric
    transitive := fun _ _ _ => Numeric.convertsTo_trans
    oneWay := ?oneWay }
  case answers =>
    rintro source target ⟨form, here, number⟩ ⟨toForm, there, -⟩
    exact conversion_answers (converts_number here there number)
  case antisymmetric =>
    intro source target number number' there back
    refine eq_of_parts good number.known number'.known ?_ (there.value.antisymm back.value)
    obtain ⟨form, here, widening⟩ := number
    obtain ⟨toForm, here', widening'⟩ := number'
    rcases (convertsTo_number here here' widening).1 there with rfl | ⟨-, same | widens⟩
    · rfl
    · exact same
    rcases (convertsTo_number here' here widening').1 back with rfl | ⟨-, same | widens'⟩
    · rfl
    · exact same.symm
    · exact absurd widens' widens.asymm
  case oneWay =>
    intro inheritance representation source target known known' there back
    refine eq_of_parts good known known' ?_ (there.value.antisymm back.value)
    rcases convertsTo_iff.1 there with rfl | ⟨-, same | becomes⟩
    · rfl
    · exact same
    rcases convertsTo_iff.1 back with rfl | ⟨-, same | becomes'⟩
    · rfl
    · exact same.symm
    · exact becomes.antisymm good inheritance representation becomes'

theorem leads_intern {start pool : TypePool} {form : TypeForm}
    (leads : TypePool.table.Leads start pool) (fits : TypePool.table.Fits pool form) :
    TypePool.table.Leads start (pool.intern form).2 :=
  leads.tail (.interned fits rfl)

/-- A class, the class that it inherits from, and pointers to both. -/
def derivedPointers : TypeContext where
  pool := ((((TypePool.new.intern (.nominal .classType ⟨0⟩)).2.intern
    (.nominal .classType ⟨1⟩)).2.intern (.pointer ⟨13⟩)).2.intern (.pointer ⟨14⟩)).2
  registry := ⟨#[some ⟨⟨0⟩, none, .classType, ⟨13⟩, none, none, some { base := some ⟨14⟩ }⟩,
    some ⟨⟨1⟩, none, .classType, ⟨14⟩, none, none, some {}⟩], {}⟩

/-- A pointer to the class becomes one to its base, and therefore not the other way round. -/
theorem conversion_sound_upwards : derivedPointers.conversion ⟨15⟩ ⟨16⟩ = .ok (some .conversion) ∧
    ¬ derivedPointers.ConvertsTo ⟨16⟩ ⟨15⟩ := by
  have upwards : derivedPointers.conversion ⟨15⟩ ⟨16⟩ = .ok (some .conversion) := by cbv
  have built : TypePool.table.Leads .new derivedPointers.pool := by
    have nominal (pool : TypePool) (id : DefId) : TypePool.table.Fits pool (.nominal .classType id) :=
      ⟨fun _ part => absurd part List.not_mem_nil, fun _ _ same => by cases same⟩
    have pointer (pool : TypePool) (ty : TypeId) (known : ty.index < pool.size) :
        TypePool.table.Fits pool (.pointer ty) :=
      ⟨fun _ part => List.mem_singleton.1 part ▸ TypePool.exists_form? known,
        fun _ _ same => by cases same⟩
    have classes := leads_intern (leads_intern .refl (nominal .new ⟨0⟩)) (nominal _ ⟨1⟩)
    have derived := leads_intern classes (pointer _ ⟨13⟩ (by cbv))
    exact leads_intern derived (pointer _ ⟨14⟩ (by cbv))
  have bodies (id : DefId) (body : DefBody)
      (live : (derivedPointers.registry.get? id).bind TypeDef.body = some body) :
      body = { base := some ⟨14⟩ } ∨ body = {} := by
    obtain ⟨_ | _ | index⟩ := id
    · exact .inl (Option.some.inj live).symm
    · exact .inr (Option.some.inj live).symm
    · simp [derivedPointers, TypeRegistry.get?] at live
  refine ⟨upwards, fun back => ?_⟩
  have same := (conversion_sound built).oneWay ?inheritance ?representation ⟨15⟩ ⟨16⟩ (by cbv) (by cbv)
    ⟨_, upwards⟩ back
  · cases same
  case inheritance =>
    have above (ty other : TypeId) (inherits : derivedPointers.Inherits ty other) :
        other = ⟨14⟩ ∧ ty ≠ ⟨14⟩ := by
      obtain ⟨body, behind, named, listed, rfl⟩ := inherits
      obtain ⟨kind, id, -, live⟩ := bodyOf_eq_some.1 behind
      rcases bodies id body live with rfl | rfl
      · cases List.mem_singleton.1 listed
        refine ⟨by cbv, ?_⟩
        rintro rfl
        have bare : derivedPointers.bodyOf ⟨14⟩ = .ok (some {}) := by cbv
        rw [bare] at behind
        cases behind
      · cases listed
    intro ty cycle
    obtain ⟨_, first, -⟩ := TransGen.head'_iff.1 cycle
    obtain ⟨_, -, last⟩ := TransGen.tail'_iff.1 cycle
    exact (above _ _ first).2 (above _ _ last).1
  case representation =>
    intro ty cycle
    obtain ⟨_, ⟨id, body, index, -, behind, stated, -⟩, -⟩ := TransGen.head'_iff.1 cycle
    obtain ⟨kind, id, -, live⟩ := bodyOf_eq_some.1 behind
    rcases bodies id body live with rfl | rfl <;> cases stated

end TypeContext

end FrontEnd
