import FrontEnd.Proofs.Layout.Measure
import FrontEnd.Proofs.Layout.Memory
import Mathlib

/-!
Layouts in 64 bits are exact. Where pointers are aligned to a power of two, so is everything, and
rounding by a mask is rounding to the next multiple. As long as every size fits, the layout of a type
is its measure, and the members of a record lie where they would lie without bounds.
-/

namespace FrontEnd

open Relation

/-! ### Arithmetic of sizes -/

theorem toNat_sizeAdd (first second : UInt64) :
    (sizeAdd first second).toNat = min (first.toNat + second.toNat) (UInt64.size - 1) := by
  refine UInt64.toNat_ofNat_of_lt ?_
  simp only [UInt64.size]
  omega

theorem toNat_sizeMul (size : UInt64) (count : Nat) :
    (sizeMul size count).toNat = min (size.toNat * count) (UInt64.size - 1) := by
  refine UInt64.toNat_ofNat_of_lt ?_
  simp only [UInt64.size]
  omega

theorem toNat_max (first second : UInt64) :
    (max first second).toNat = max first.toNat second.toNat := by
  show (if first ≤ second then second else first).toNat = _
  rw [Nat.max_def]
  simp only [UInt64.le_iff_toNat_le]
  split <;> rfl

/-- A power of two divides the number of sizes that there are. -/
theorem dvd_size {align : Nat} (power : align.isPowerOfTwo) (few : align < UInt64.size) :
    align ∣ UInt64.size := by
  obtain ⟨bits, rfl⟩ := power
  have small : bits < 64 := (Nat.pow_lt_pow_iff_right (by decide : 1 < 2)).1 few
  exact Nat.pow_dvd_pow 2 (Nat.le_of_lt small)

/-- Clearing the low bits of a number rounds it down to a multiple of a power of two. -/
theorem and_high_bits {number align : Nat} (power : align.isPowerOfTwo)
    (fits : number < UInt64.size) (few : align < UInt64.size) :
    number &&& (UInt64.size - 1 - (align - 1)) = number / align * align := by
  obtain ⟨bits, rfl⟩ := power
  have fits : number < 2 ^ 64 := fits
  have low : 2 ^ bits - 1 < 2 ^ 64 := Nat.lt_of_le_of_lt (Nat.sub_le _ _) few
  have mask : UInt64.size - 1 - (2 ^ bits - 1) = 2 ^ 64 - (2 ^ bits - 1 + 1) :=
    (Nat.sub_sub ..).trans (congrArg (2 ^ 64 - ·) (Nat.add_comm 1 _))
  refine Nat.eq_of_testBit_eq fun place => ?_
  rw [Nat.testBit_and, Nat.testBit_mul_two_pow, Nat.testBit_div_two_pow, mask,
    Nat.testBit_two_pow_sub_succ low, Nat.testBit_two_pow_sub_one]
  by_cases inside : bits ≤ place
  · rw [Nat.sub_add_cancel inside]
    by_cases upper : place < 64
    · simp [inside, upper]
    · have clear : number.testBit place = false :=
        Nat.testBit_lt_two_pow
          (Nat.lt_of_lt_of_le fits (Nat.pow_le_pow_right (by decide) (by omega)))
      simp [clear]
  · simp [inside, Nat.lt_of_not_le inside]

/-- Rounding by a mask adds what is missing to the next multiple, stops where sizes do, and rounds
down from there. -/
theorem toNat_alignTo_clamped (offset : UInt64) {align : UInt64}
    (power : align.toNat.isPowerOfTwo) : (alignTo offset align).toNat =
      min (offset.toNat + (align.toNat - 1)) (UInt64.size - 1) / align.toNat * align.toNat := by
  have below : (align - 1).toNat = align.toNat - 1 :=
    UInt64.toNat_sub_of_le _ _ (UInt64.le_iff_toNat_le.2 (Nat.pos_of_isPowerOfTwo power))
  have room : min (offset.toNat + (align.toNat - 1)) (UInt64.size - 1) < UInt64.size :=
    Nat.lt_of_le_of_lt (Nat.min_le_right _ _) (by decide)
  rw [alignTo, UInt64.toNat_and, UInt64.toNat_not, toNat_sizeAdd, below,
    and_high_bits power room align.toNat_lt]

/-- Rounding by a mask is rounding to the next multiple if the multiple fits. -/
theorem toNat_alignTo {offset align : UInt64} (power : align.toNat.isPowerOfTwo)
    (fits : roundUp offset.toNat align.toNat < UInt64.size) :
    (alignTo offset align).toNat = roundUp offset.toNat align.toNat := by
  have positive : 0 < align.toNat := Nat.pos_of_isPowerOfTwo power
  -- the next multiple fits, so there is a whole multiple between it and the end of the range
  have next := le_roundUp offset.toNat positive
  have last : roundUp offset.toNat align.toNat + align.toNat ≤ UInt64.size :=
    Nat.le_of_lt_add_of_dvd (Nat.add_lt_add_right fits _)
      (Nat.dvd_add (dvd_roundUp _ _) (Nat.dvd_refl _)) (dvd_size power align.toNat_lt)
  have room : offset.toNat + (align.toNat - 1) < UInt64.size := by omega
  rw [toNat_alignTo_clamped offset power, Nat.min_eq_left (Nat.le_sub_one_of_lt room), roundUp,
    Nat.add_sub_assoc positive]

/-! ### Layouts that are measures -/

/-- A layout in 64 bits is a measure, and aligned to a power of two. -/
structure TypeLayout.Is (layout : TypeLayout) (measure : Measure) : Prop where
  size : layout.size.toNat = measure.size
  align : layout.align.toNat = measure.align
  power : measure.align.isPowerOfTwo

theorem TypeLayout.empty_is : TypeLayout.empty.Is .empty := ⟨rfl, rfl, 0, rfl⟩

section Parts

variable {layouts : List TypeLayout} {measures : List Measure}
  (each : List.Forall₂ TypeLayout.Is layouts measures)

include each

theorem headD_is : (layouts.headD .empty).Is (measures.headD .empty) := by
  cases each with
  | nil => exact TypeLayout.empty_is
  | cons first _ => exact first

theorem tail_is : List.Forall₂ TypeLayout.Is layouts.tail measures.tail := by
  cases each with
  | nil => exact .nil
  | cons _ rest => exact rest

theorem align_pos : ∀ measure ∈ measures, 0 < measure.align := by
  induction each with
  | nil => simp
  | cons first _ ih => exact List.forall_mem_cons.2 ⟨Nat.pos_of_isPowerOfTwo first.power, ih⟩

theorem largestSize_exact (size : UInt64) :
    (layouts.foldl (fun size part => max size part.size) size).toNat =
      Measure.largestSize size.toNat measures := by
  induction each generalizing size with
  | nil => rfl
  | cons first _ ih =>
    rw [List.foldl_cons, ih, toNat_max, first.size]
    rfl

theorem largestAlign_exact (align : UInt64) :
    (layouts.foldl (fun align part => max align part.align) align).toNat =
      Measure.largestAlign align.toNat measures := by
  induction each generalizing align with
  | nil => rfl
  | cons first _ ih =>
    rw [List.foldl_cons, ih, toNat_max, first.align]
    rfl

theorem largestAlign_power (align : Nat) (power : align.isPowerOfTwo) :
    (Measure.largestAlign align measures).isPowerOfTwo := by
  induction each generalizing align with
  | nil => exact power
  | @cons _ measure _ _ first _ ih =>
    refine ih (max align measure.align) ?_
    rw [Nat.max_def]
    split
    · exact first.power
    · exact power

/-- Members of a union are laid out exactly. -/
theorem overlay_is (fits : (Measure.union measures).size < UInt64.size) :
    (TypeLayout.overlay layouts).Is (.union measures) := by
  have size := largestSize_exact each 0
  have align := largestAlign_exact each 1
  have power := largestAlign_power each 1 ⟨0, rfl⟩
  refine ⟨?_, align, power⟩
  refine (toNat_alignTo ?_ ?_).trans ?_ <;> rw [align]
  · exact power
  · rw [size]
    exact fits
  · rw [size]
    rfl

/-- Members of a record are laid out exactly, from an offset and an alignment on. -/
theorem place_is (offset align : UInt64) (power : align.toNat.isPowerOfTwo)
    (fits : roundUp (Measure.endFrom offset.toNat measures)
      (Measure.largestAlign align.toNat measures) < UInt64.size) :
    (RecordLayout.place offset align layouts).layout.Is
        (.record ⟨offset.toNat, align.toNat⟩ measures) ∧
      (RecordLayout.place offset align layouts).offsets.map UInt64.toNat =
        Measure.offsetsFrom offset.toNat measures := by
  induction each generalizing offset align with
  | nil => exact ⟨⟨toNat_alignTo power fits, rfl, power⟩, rfl⟩
  | @cons part measure _ rest first others ih =>
    -- whatever is placed later, the end of this member lies before the end of the whole
    have later := Measure.le_endFrom (roundUp offset.toNat measure.align + measure.size)
      (align_pos others)
    have last := le_roundUp
      (Measure.endFrom (roundUp offset.toNat measure.align + measure.size) rest)
      (Nat.pos_of_isPowerOfTwo (largestAlign_power (.cons first others) align.toNat power))
    simp only [Measure.endFrom] at fits
    have start : (alignTo offset part.align).toNat = roundUp offset.toNat measure.align := by
      rw [toNat_alignTo (first.align ▸ first.power), first.align]
      rw [first.align]
      omega
    have behind : (sizeAdd (alignTo offset part.align) part.size).toNat =
        roundUp offset.toNat measure.align + measure.size := by
      rw [toNat_sizeAdd, start, first.size]
      omega
    have larger : (max align part.align).toNat = max align.toNat measure.align := by
      rw [toNat_max, first.align]
    have power' : (max align part.align).toNat.isPowerOfTwo := by
      rw [larger, Nat.max_def]
      split
      · exact first.power
      · exact power
    obtain ⟨whole, offsets⟩ := ih _ _ power' (by rw [behind, larger]; exact fits)
    rw [behind] at offsets
    rw [behind, larger] at whole
    refine ⟨whole, ?_⟩
    simp only [RecordLayout.place, List.map_cons, start, offsets, Measure.offsetsFrom]

/-- What a rule makes of exact layouts is exact. -/
theorem combine_is {pointer : UInt64} (power : pointer.toNat.isPowerOfTwo) (rule : LayoutRule)
    (scalar : ∀ bytes, rule = .scalar bytes → bytes.isPowerOfTwo)
    (fits : (rule.measure pointer.toNat measures).size < UInt64.size) :
    (rule.combine pointer layouts).Is (rule.measure pointer.toNat measures) := by
  cases rule with
  | nothing => exact TypeLayout.empty_is
  | scalar bytes =>
    have small : bytes < UInt64.size := fits
    have kept : (UInt64.ofNat bytes).toNat = bytes := by
      rw [UInt64.toNat_ofNat', Nat.mod_eq_of_lt small]
    exact ⟨kept, kept, scalar bytes rfl⟩
  | pointer => exact ⟨rfl, rfl, power⟩
  | pair =>
    refine ⟨?_, rfl, power⟩
    exact (UInt64.toNat_mul _ _).trans (Nat.mod_eq_of_lt fits)
  | array length =>
    have element := headD_is each
    refine ⟨?_, element.align, element.power⟩
    refine (toNat_sizeMul _ _).trans ?_
    rw [element.size]
    exact Nat.min_eq_left (Nat.le_sub_one_of_lt fits)
  | same => exact headD_is each
  | record based =>
    cases based with
    | false => exact (place_is each 0 1 ⟨0, rfl⟩ fits).1
    | true =>
      have base := headD_is each
      have placed := place_is (tail_is each) (layouts.headD .empty).size (layouts.headD .empty).align
        (base.align ▸ base.power)
      rw [base.size, base.align] at placed
      exact (placed fits).1
  | union => exact overlay_is each fits

end Parts

namespace TypeContext

variable {ctx : TypeContext} {ty part : TypeId} {layout : TypeLayout}

/-- Numbers take a power of two of bytes. -/
theorem layoutPlan_scalar {plan : LayoutPlan} {bytes : Nat} (planned : ctx.layoutPlan ty = .ok plan)
    (scalar : plan.rule = .scalar bytes) : bytes.isPowerOfTwo ∧ bytes < UInt64.size := by
  have widths : ∀ bits ∈ numberWidths, (bits / 8).isPowerOfTwo ∧ bits / 8 < UInt64.size := by
    simp only [numberWidths, List.forall_mem_cons]
    exact ⟨⟨⟨0, rfl⟩, by decide⟩, ⟨⟨1, rfl⟩, by decide⟩, ⟨⟨2, rfl⟩, by decide⟩,
      ⟨⟨3, rfl⟩, by decide⟩, ⟨⟨4, rfl⟩, by decide⟩, by simp⟩
  unfold layoutPlan at planned
  cases found : ctx.pool.form? ty with
  | none => simp [found] at planned
  | some form =>
    simp only [found] at planned
    cases form with
    | int bits _ | float bits =>
      dsimp only at planned
      split at planned <;> cases planned
      rename_i supported
      cases scalar
      exact widths bits supported
    | bool =>
      cases planned
      cases scalar
      exact ⟨⟨0, rfl⟩, by decide⟩
    | nominal kind id =>
      dsimp only at planned
      split at planned <;> cases planned
      cases kind <;> cases scalar
    | _ => cases planned <;> cases scalar

/-- The layout of a type is its measure if nothing inside of it is too large. -/
theorem Lays.is (power : ctx.config.pointerSize.toNat.isPowerOfTwo) (lays : ctx.Lays ty layout)
    {measure : Measure} (measures : ctx.Measures ty measure)
    (fits : ∀ part measure, ReflTransGen ctx.Contains ty part → ctx.Measures part measure →
      measure.size < UInt64.size) : layout.Is measure := by
  induction lays generalizing measure with
  | made value planned each ih =>
    have whole := fits _ _ .refl measures
    obtain ⟨value', planned', each'⟩ := measures
    cases planned.symm.trans planned'
    refine combine_is ?_ power _ (fun bytes same => (layoutPlan_scalar planned same).1) whole
    rw [List.forall₂_map_left_iff, List.forall₂_map_right_iff, List.forall₂_same]
    exact fun part listed => ih part listed (each' part listed) fun inner measure inside =>
      fits inner measure (inside.head (contains_iff.2 ⟨_, planned, listed⟩))

end TypeContext

/-! ### Records -/

namespace RecordLayout

/-- From where to where the base and the members of a record lie. -/
def ranges (record : RecordLayout) (base : TypeLayout) (parts : List TypeLayout) :
    List (Nat × Nat) :=
  (0, base.size.toNat) :: List.zipWith
    (fun start part => (start.toNat, start.toNat + part.size.toNat)) record.offsets parts

/-- Each member of a record is aligned, the base and the members lie one behind the other in their
order without an overlap and end where the record ends or before, and the size of the record is a
multiple of its alignment. -/
structure Orderly (record : RecordLayout) (base : TypeLayout) (parts : List TypeLayout) : Prop where
  aligned : List.Forall₂ (fun part start => part.align.toNat ∣ start.toNat) parts record.offsets
  ordered : (record.ranges base parts).Pairwise fun first second => first.2 ≤ second.1
  inside : ∀ range ∈ record.ranges base parts, range.2 ≤ record.layout.size.toNat
  rounded : record.layout.align.toNat ∣ record.layout.size.toNat

variable {base : TypeLayout} {measure : Measure} {layouts : List TypeLayout}
  {measures : List Measure}

theorem ranges_exact (each : List.Forall₂ TypeLayout.Is layouts measures)
    (offsets : List UInt64) :
    List.zipWith (fun start part => (start.toNat, start.toNat + part.size.toNat)) offsets layouts =
      Measure.ranges (offsets.map UInt64.toNat) measures := by
  induction each generalizing offsets with
  | nil => simp [Measure.ranges]
  | cons first _ ih =>
    cases offsets with
    | nil => rfl
    | cons start offsets =>
      have rest := ih offsets
      simp only [Measure.ranges] at rest ⊢
      simp only [List.zipWith_cons_cons, List.map_cons, rest, first.size]

theorem aligned_exact (each : List.Forall₂ TypeLayout.Is layouts measures)
    {offsets : List UInt64}
    (aligned : List.Forall₂ (fun part start => part.align ∣ start) measures
      (offsets.map UInt64.toNat)) :
    List.Forall₂ (fun part start => part.align.toNat ∣ start.toNat) layouts offsets := by
  rw [List.forall₂_map_right_iff] at aligned
  induction each generalizing offsets with
  | nil =>
    cases aligned
    exact .nil
  | cons first _ ih =>
    cases aligned with
    | cons divides rest => exact .cons (first.align ▸ divides) (ih rest)

/-- A record whose size fits is orderly. -/
theorem place_orderly (first : base.Is measure)
    (each : List.Forall₂ TypeLayout.Is layouts measures)
    (fits : (Measure.record measure measures).size < UInt64.size) :
    (place base.size base.align layouts).Orderly base layouts := by
  obtain ⟨whole, offsets⟩ := place_is each base.size base.align (first.align ▸ first.power)
    (by rw [first.size, first.align]; exact fits)
  rw [first.size, first.align] at whole
  rw [first.size] at offsets
  have positive := align_pos each
  obtain ⟨inside, ordered⟩ := Measure.ranges_ordered measure.size positive
  have last : Measure.endFrom measure.size measures ≤ (Measure.record measure measures).size :=
    le_roundUp _ (Nat.pos_of_isPowerOfTwo whole.power)
  have behind := Measure.le_endFrom measure.size positive
  have ranges : (place base.size base.align layouts).ranges base layouts =
      (0, measure.size) :: Measure.ranges (Measure.offsetsFrom measure.size measures) measures := by
    rw [RecordLayout.ranges, ranges_exact each, offsets, first.size]
  refine ⟨aligned_exact each ?_, ?_, ?_, ?_⟩
  · rw [offsets]
    exact Measure.offsetsFrom_aligned _ _
  · rw [ranges]
    exact List.pairwise_cons.2 ⟨fun range listed => (inside range listed).1, ordered⟩
  · rw [ranges, whole.size]
    refine List.forall_mem_cons.2 ⟨Nat.le_trans behind last, fun range listed => ?_⟩
    exact Nat.le_trans (inside range listed).2 last
  · rw [whole.size, whole.align]
    exact dvd_roundUp _ _

/-- The record of exact layouts is orderly if its size fits. -/
theorem ofParts_orderly {based : Bool} {pointer : Nat}
    (each : List.Forall₂ TypeLayout.Is layouts measures)
    (fits : ((LayoutRule.record based).measure pointer measures).size < UInt64.size) :
    (ofParts based layouts).Orderly (baseOf based layouts) (membersOf based layouts) := by
  cases based with
  | false => exact place_orderly TypeLayout.empty_is each fits
  | true => exact place_orderly (headD_is each) (tail_is each) fits

end RecordLayout

namespace TypeContext

variable {ctx : TypeContext} {ty : TypeId} {layout : TypeLayout}

/-- A type and the type without its qualifiers have the same layout. -/
theorem Lays.unqualified (honest : ctx.pool.Honest) (lays : ctx.Lays ty layout) :
    ReflTransGen ctx.Contains ty (ctx.pool.unqualified ty) ∧
      ctx.Lays (ctx.pool.unqualified ty) layout := by
  rw [TypePool.unqualified, TypePool.split_eq honest]
  split
  · rename_i base quals found
    obtain ⟨plan, parts, planned, each, rfl⟩ := Derives.parts lays
    have shape : ctx.layoutPlan ty = .ok ⟨.same, [base]⟩ := by simp only [layoutPlan, found]
    cases planned.symm.trans shape
    cases each with
    | cons first rest =>
      cases rest
      exact ⟨.single (.unqualified found), first⟩
  · exact ⟨.refl, lays⟩

section Definition

variable {id : DefId} {entry : TypeDef} {body : DefBody} (indexed : ctx.Indexed)
  (live : ctx.registry.get? id = some entry)
  (kind : entry.kind = .struct ∨ entry.kind = .classType) (whole : entry.body = some body)

include indexed live kind whole

theorem layoutPlan_record : ctx.layoutPlan entry.type =
    .ok ⟨.record body.base.isSome, body.base.toList ++ body.members.map (·.type)⟩ := by
  obtain ⟨-, form⟩ := indexed.defs id entry live
  rw [layoutPlan_nominal form live whole]
  rcases kind with kind | kind <;> rw [kind] <;> rfl

/-- The question for the members of a structure or class with a layout is answered. -/
theorem recordLayoutOf_record (right : ctx.Remembered ctx.layouts)
    (plain : ctx.pool.unqualified ty = entry.type) (lays : ctx.Lays entry.type layout) :
    ∃ parts, List.Forall₂ ctx.Lays (body.base.toList ++ body.members.map (·.type)) parts ∧
      (ctx.recordLayoutOf ty).1 = .ok (.ofParts body.base.isSome parts) ∧
      layout = (RecordLayout.ofParts body.base.isSome parts).layout := by
  obtain ⟨-, form⟩ := indexed.defs id entry live
  have planned : ctx.recordPlan ty = .ok ⟨[entry.type],
      body.base.toList ++ body.members.map (·.type), .ofParts body.base.isSome⟩ := by
    have behind : ctx.defOf ty = .ok (some entry) := by
      simp only [defOf, plain, TypePool.form, form]
      exact congrArg Except.ok live
    rw [recordPlan, behind]
    rcases kind with kind | kind <;> simp only [whole, kind, recordPlanOf, plain]
  have shape := layoutPlan_record indexed live kind whole
  obtain ⟨-, answers⟩ := recordSearch_finds ctx ty ctx.layouts right
  rw [recordLayoutOf_eq, runLayout_eq]
  cases answer : (outcome (ctx.recordSearch ty) ctx.layouts).1 with
  | error err =>
    rw [answer] at answers
    rcases answers with refused | ⟨plan, part, planned', listed, blames⟩
    · cases planned.symm.trans refused
    · cases planned.symm.trans planned'
      exact absurd (blames.of_part (contains_iff.2 ⟨_, shape, listed⟩)) (lays.blameless err)
  | ok record =>
    rw [answer] at answers
    obtain ⟨plan, parts, planned', each, rfl⟩ := answers
    cases planned.symm.trans planned'
    exact ⟨parts, each, rfl, Derives.unique lays (Derives.ofParts shape each)⟩

end Definition

/-- The layouts of the parts of a record are those of its base, if any, and of its members. -/
theorem base_and_members {body : DefBody} {parts : List TypeLayout}
    {relates : TypeId → TypeLayout → Prop}
    (each : List.Forall₂ relates (body.base.toList ++ body.members.map (·.type)) parts) :
    (body.base = none → RecordLayout.baseOf body.base.isSome parts = .empty) ∧
      (∀ inherited, body.base = some inherited →
        relates inherited (RecordLayout.baseOf body.base.isSome parts)) ∧
      List.Forall₂ (fun member part => relates member.type part) body.members
        (RecordLayout.membersOf body.base.isSome parts) := by
  cases derived : body.base with
  | none =>
    rw [derived] at each
    exact ⟨fun _ => rfl, nofun, List.forall₂_map_left_iff.1 each⟩
  | some inherited =>
    rw [derived] at each
    cases each with
    | cons first others =>
      refine ⟨nofun, fun other same => ?_, List.forall₂_map_left_iff.1 others⟩
      cases same
      exact first

/-- The layouts of types are their measures if nothing inside of them is too large. -/
theorem is_of_lays (power : ctx.config.pointerSize.toNat.isPowerOfTwo) {types : List TypeId}
    {layouts : List TypeLayout} {measures : List Measure}
    (each : List.Forall₂ ctx.Lays types layouts)
    (each' : List.Forall₂ ctx.Measures types measures)
    (fits : ∀ ty ∈ types, ∀ part measure, ReflTransGen ctx.Contains ty part →
      ctx.Measures part measure → measure.size < UInt64.size) :
    List.Forall₂ TypeLayout.Is layouts measures := by
  induction each generalizing measures with
  | nil =>
    cases each'
    exact .nil
  | cons first _ ih =>
    cases each' with
    | cons first' rest =>
      exact .cons (first.is power first' (fits _ (by simp)))
        (ih rest fun ty listed => fits ty (by simp [listed]))

/-- Layouts are exact. Where pointers are aligned to a power of two, a type with a layout has one
measure, and if the measures of the type and of all that lies inside of it fit in 64 bits, the
layout is the measure. The question for the members of a structure or class is then answered with
the same layout and one offset for each member: the members are aligned, and the base and the
members lie in their order without an overlap and end in the record. -/
theorem layoutOf_exact (config : TypeConfig) (history : List TableRequest) (ty : TypeId)
    (layout : TypeLayout) (power : config.pointerSize.toNat.isPowerOfTwo)
    (answer : ((({ config } : TypeContext).after history).layoutOf ty).1 = .ok layout)
    (fits : ∀ part measure,
      ReflTransGen (({ config } : TypeContext).after history).Contains ty part →
      (({ config } : TypeContext).after history).Measures part measure → measure.size < UInt64.size) :
    let now := ({ config } : TypeContext).after history
    (∃ measure, (∀ other, now.Measures ty other ↔ other = measure) ∧
      layout.size.toNat = measure.size ∧ layout.align.toNat = measure.align) ∧
    (∀ id entry body, now.registry.get? id = some entry →
      entry.kind = .struct ∨ entry.kind = .classType → entry.body = some body →
      now.pool.unqualified ty = entry.type →
      ∃ record base parts, (now.recordLayoutOf ty).1 = .ok record ∧ record.layout = layout ∧
        (body.base = none → base = .empty) ∧
        (∀ inherited, body.base = some inherited → (now.layoutOf inherited).1 = .ok base) ∧
        List.Forall₂ (fun member part => (now.layoutOf member.type).1 = .ok part)
          body.members parts ∧
        record.offsets.length = body.members.length ∧ record.Orderly base parts) := by
  intro now
  obtain ⟨sound, extends_⟩ := after_sound (cacheSound_initial config) history
  have power' : now.config.pointerSize.toNat.isPowerOfTwo := by
    rw [show now.config = config from extends_.config]
    exact power
  have right : now.Remembered now.layouts := remembered_after config history
  have lays : now.Lays ty layout := (layoutOf_eq_ok_iff right).1 answer
  constructor
  · obtain ⟨measure, measures⟩ := Derives.other lays (LayoutRule.measure now.config.pointerSize.toNat)
    have is := lays.is power' measures fits
    refine ⟨measure, fun other => ⟨fun also => also.unique measures, ?_⟩, is.size, is.align⟩
    rintro rfl
    exact measures
  · intro id entry body live kind whole plain
    obtain ⟨inside, lays'⟩ := lays.unqualified sound.indexed.pool.honest
    rw [plain] at inside lays'
    obtain ⟨parts, each, answered, rfl⟩ :=
      recordLayoutOf_record sound.indexed live kind whole right plain lays'
    obtain ⟨measure, measures⟩ :=
      Derives.other lays' (LayoutRule.measure now.config.pointerSize.toNat)
    have small := fits _ measure inside measures
    obtain ⟨plan, values, planned, each', rfl⟩ := Derives.parts measures
    have shape := layoutPlan_record sound.indexed live kind whole
    cases planned.symm.trans shape
    have exactly := is_of_lays power' each each' fun part listed inner measure within =>
      fits inner measure (inside.trans (within.head (contains_iff.2 ⟨_, shape, listed⟩)))
    have orderly := RecordLayout.ofParts_orderly exactly small
    obtain ⟨unbased, inherits, members⟩ := base_and_members each
    refine ⟨_, _, _, answered, rfl, unbased, fun inherited derived => ?_, ?_, ?_, orderly⟩
    · exact (layoutOf_eq_ok_iff right).2 (inherits inherited derived)
    · exact members.imp fun _ _ lays => (layoutOf_eq_ok_iff right).2 lays
    · rw [← orderly.aligned.length_eq, members.length_eq]

/-- A class with a byte, and a class derived from it with a word and a byte. -/
def derivedClass : List TableRequest :=
  [.declare none .classType none, .define ⟨13⟩ { members := [⟨.empty, ⟨6⟩⟩] },
    .declare none .classType none,
    .define ⟨14⟩ { base := some ⟨13⟩, members := [⟨.empty, ⟨9⟩⟩, ⟨.empty, ⟨6⟩⟩] }]

theorem layoutOf_derivedClass :
    ((({} : TypeContext).after derivedClass).layoutOf ⟨14⟩).1 = .ok ⟨24, 8⟩ := by cbv

/-- The base takes one byte, the word starts at eight and the byte at sixteen. -/
theorem layoutOf_exact_of_derivedClass :
    let now := ({} : TypeContext).after derivedClass
    (now.layoutOf ⟨14⟩).1 = .ok ⟨24, 8⟩ ∧
      (∃ measure, (∀ other, now.Measures ⟨14⟩ other ↔ other = measure) ∧
        24 = measure.size ∧ 8 = measure.align) ∧
      ∃ record base parts, (now.recordLayoutOf ⟨14⟩).1 = .ok record ∧ record.layout = ⟨24, 8⟩ ∧
        (now.layoutOf ⟨13⟩).1 = .ok base ∧ record.offsets.length = 2 ∧
        record.Orderly base parts := by
  have byte : (({} : TypeContext).after derivedClass).layoutPlan ⟨6⟩ = .ok ⟨.scalar 1, []⟩ := by cbv
  have word : (({} : TypeContext).after derivedClass).layoutPlan ⟨9⟩ = .ok ⟨.scalar 8, []⟩ := by cbv
  have parent : (({} : TypeContext).after derivedClass).layoutPlan ⟨13⟩ =
      .ok ⟨.record false, [⟨6⟩]⟩ := by cbv
  have child : (({} : TypeContext).after derivedClass).layoutPlan ⟨14⟩ =
      .ok ⟨.record true, [⟨13⟩, ⟨9⟩, ⟨6⟩]⟩ := by cbv
  have entry : (({} : TypeContext).after derivedClass).registry.get? ⟨1⟩ =
      some ⟨⟨1⟩, none, .classType, ⟨14⟩, none, none,
        some { base := some ⟨13⟩, members := [⟨.empty, ⟨9⟩⟩, ⟨.empty, ⟨6⟩⟩] }⟩ := by cbv
  have plain : (({} : TypeContext).after derivedClass).pool.unqualified ⟨14⟩ = ⟨14⟩ := by cbv
  have answer := layoutOf_derivedClass
  have whole := layoutOf_exact {} derivedClass ⟨14⟩ ⟨24, 8⟩ ⟨3, rfl⟩
  generalize (({} : TypeContext).after derivedClass) = now at *
  have one : now.Measures ⟨6⟩ ⟨1, 1⟩ := .ofParts byte .nil
  have eight : now.Measures ⟨9⟩ ⟨8, 8⟩ := .ofParts word .nil
  have small : now.Measures ⟨13⟩ ⟨1, 1⟩ := .ofParts parent (.cons one .nil)
  have large : now.Measures ⟨14⟩ ⟨24, 8⟩ :=
    .ofParts child (.cons small (.cons eight (.cons one .nil)))
  -- nothing else lies inside, and each of the four types has its one measure
  have inside : ∀ part, ReflTransGen now.Contains ⟨14⟩ part →
      part = ⟨14⟩ ∨ part = ⟨13⟩ ∨ part = ⟨9⟩ ∨ part = ⟨6⟩ := by
    intro part reaches
    induction reaches with
    | refl => exact .inl rfl
    | tail _ contains known =>
      obtain ⟨plan, planned, listed⟩ := contains_iff.1 contains
      rcases known with rfl | rfl | rfl | rfl
      · cases planned.symm.trans child
        simp only [List.mem_cons, List.not_mem_nil, or_false] at listed
        exact .inr listed
      · cases planned.symm.trans parent
        exact .inr (.inr (.inr (List.mem_singleton.1 listed)))
      · cases planned.symm.trans word
        simp at listed
      · cases planned.symm.trans byte
        simp at listed
  have fits : ∀ part measure, ReflTransGen now.Contains ⟨14⟩ part → now.Measures part measure →
      measure.size < UInt64.size := by
    intro part measure reaches measures
    rcases inside part reaches with rfl | rfl | rfl | rfl
    · rw [measures.unique large]; decide
    · rw [measures.unique small]; decide
    · rw [measures.unique eight]; decide
    · rw [measures.unique one]; decide
  obtain ⟨measure, records⟩ := whole answer fits
  obtain ⟨record, base, parts, answered, same, -, inherits, -, offsets, orderly⟩ :=
    records _ _ _ entry (.inr rfl) rfl plain
  exact ⟨answer, measure, record, base, parts, answered, same, inherits _ rfl, offsets, orderly⟩

end TypeContext

end FrontEnd
