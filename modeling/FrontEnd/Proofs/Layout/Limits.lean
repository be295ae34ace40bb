import FrontEnd.Proofs.Layout.Exactness

/-!
Layouts at the limits of 64 bits. Where pointers are aligned to a power of two, so is everything. But
a size that does not fit stops at the largest number, which is odd, and there is no room left behind
it: rounding then goes down to the last multiple that fits, and a member of a record starts before
the end of the one that it follows.
-/

namespace FrontEnd

open Relation

/-! ### Rounding -/

section Rounding

variable {offset align : UInt64} (power : align.toNat.isPowerOfTwo)

include power

theorem dvd_alignTo (offset : UInt64) : align.toNat ∣ (alignTo offset align).toNat := by
  rw [toNat_alignTo_clamped offset power]
  exact Nat.dvd_mul_left _ _

/-- Where the next multiple does not fit, rounding stops at the last one that does. -/
theorem toNat_alignTo_full (full : UInt64.size < offset.toNat + align.toNat) :
    (alignTo offset align).toNat = UInt64.size - align.toNat := by
  have positive : 0 < align.toNat := Nat.pos_of_isPowerOfTwo power
  obtain ⟨count, whole⟩ := dvd_size power align.toNat_lt
  have stopped : min (offset.toNat + (align.toNat - 1)) (UInt64.size - 1) = UInt64.size - 1 :=
    Nat.min_eq_right (by omega)
  have last : (UInt64.size - 1) / align.toNat = count - 1 := by
    rw [whole, Nat.mul_sub_div 0 align.toNat count (whole ▸ by decide), Nat.zero_div]
  rw [toNat_alignTo_clamped offset power, stopped, last, Nat.sub_mul, Nat.one_mul,
    Nat.mul_comm count, ← whole]

/-- Rounding does not go below the offset exactly if there is room behind it for the alignment. -/
theorem le_alignTo_iff :
    offset ≤ alignTo offset align ↔ offset.toNat + align.toNat ≤ UInt64.size := by
  have positive : 0 < align.toNat := Nat.pos_of_isPowerOfTwo power
  rw [UInt64.le_iff_toNat_le]
  by_cases room : offset.toNat + align.toNat ≤ UInt64.size
  · have stays : min (offset.toNat + (align.toNat - 1)) (UInt64.size - 1) =
        offset.toNat + align.toNat - 1 := by omega
    rw [toNat_alignTo_clamped offset power, stays]
    exact iff_of_true (le_roundUp _ positive) room
  · have few : align.toNat < UInt64.size := align.toNat_lt
    rw [toNat_alignTo_full power (Nat.lt_of_not_le room)]
    omega

end Rounding

/-! ### Layouts of all sizes -/

/-- The layout is aligned to a power of two, and its size is a multiple of the alignment or stopped at
the largest number. -/
structure TypeLayout.Regular (layout : TypeLayout) : Prop where
  power : layout.align.toNat.isPowerOfTwo
  whole : layout.align.toNat ∣ layout.size.toNat ∨ layout.size.toNat = UInt64.size - 1

namespace TypeLayout

variable {layout : TypeLayout} {parts : List TypeLayout}

theorem Regular.empty : TypeLayout.empty.Regular := ⟨⟨0, rfl⟩, .inl (Nat.one_dvd _)⟩

/-- The largest number is odd. -/
theorem Regular.dvd_iff (regular : layout.Regular) : layout.align.toNat ∣ layout.size.toNat ↔
    (layout.size.toNat = UInt64.size - 1 → layout.align.toNat = 1) := by
  constructor
  · intro divides stopped
    have odd : layout.align.toNat ∣ UInt64.size - (UInt64.size - 1) :=
      Nat.dvd_sub (dvd_size regular.power layout.align.toNat_lt) (stopped ▸ divides)
    exact Nat.dvd_one.1 odd
  · intro single
    refine regular.whole.elim id fun stopped => ?_
    rw [single stopped]
    exact Nat.one_dvd _

theorem max_power {first second : UInt64} (power : first.toNat.isPowerOfTwo)
    (power' : second.toNat.isPowerOfTwo) : (max first second).toNat.isPowerOfTwo := by
  rw [toNat_max, Nat.max_def]
  split
  · exact power'
  · exact power

theorem Regular.headD (each : ∀ part ∈ parts, part.Regular) : (parts.headD .empty).Regular := by
  cases parts with
  | nil => exact .empty
  | cons part rest => exact each part List.mem_cons_self

theorem overlay_regular (each : ∀ part ∈ parts, part.Regular) : (overlay parts).Regular := by
  have power : (overlay parts).align.toNat.isPowerOfTwo := by
    refine List.foldlRecOn (motive := fun align : UInt64 => align.toNat.isPowerOfTwo) parts _
      ⟨0, rfl⟩ fun align power part listed => ?_
    exact max_power power (each part listed).power
  exact ⟨power, .inl (dvd_alignTo power _)⟩

end TypeLayout

namespace RecordLayout

variable {parts : List TypeLayout}

theorem place_regular (each : ∀ part ∈ parts, part.Regular) (offset : UInt64) {align : UInt64}
    (power : align.toNat.isPowerOfTwo) : (place offset align parts).layout.Regular := by
  induction parts generalizing offset align with
  | nil => exact ⟨power, .inl (dvd_alignTo power _)⟩
  | cons part rest ih =>
    obtain ⟨first, others⟩ := List.forall_mem_cons.1 each
    exact ih others _ (TypeLayout.max_power power first.power)

theorem ofParts_regular (based : Bool) (each : ∀ part ∈ parts, part.Regular) :
    (ofParts based parts).layout.Regular := by
  cases based with
  | false => exact place_regular each 0 ⟨0, rfl⟩
  | true =>
    exact place_regular (fun part listed => each part (List.mem_of_mem_tail listed)) _
      (TypeLayout.Regular.headD each).power

/-- A member starts behind the end of what it follows exactly if there is room between that and the
largest number for its alignment. Ends are counted without bounds here. -/
theorem place_room (each : ∀ part ∈ parts, part.align.toNat.isPowerOfTwo) (offset align : UInt64)
    (first : Nat × Nat) (stands : offset.toNat = min first.2 (UInt64.size - 1)) (index : Nat)
    (before behind : Nat × Nat) (part : TypeLayout)
    (found : (first :: List.zipWith
      (fun start part => (start.toNat, start.toNat + part.size.toNat))
      (place offset align parts).offsets parts)[index]? = some before)
    (next : (List.zipWith (fun start part => (start.toNat, start.toNat + part.size.toNat))
      (place offset align parts).offsets parts)[index]? = some behind)
    (placed : parts[index]? = some part) :
    before.2 ≤ behind.1 ↔ before.2 + part.align.toNat ≤ UInt64.size := by
  induction parts generalizing offset align first index with
  | nil => cases placed
  | cons other rest ih =>
    obtain ⟨power, powers⟩ := List.forall_mem_cons.1 each
    cases index with
    | zero =>
      cases found
      cases next
      cases placed
      have room : offset ≤ alignTo offset part.align ↔ _ := le_alignTo_iff power
      have positive := Nat.pos_of_isPowerOfTwo power
      have small : (alignTo offset part.align).toNat < UInt64.size := UInt64.toNat_lt _
      rw [UInt64.le_iff_toNat_le] at room
      by_cases fits : before.2 < UInt64.size
      · rwa [show offset.toNat = before.2 by omega] at room
      · show before.2 ≤ (alignTo offset part.align).toNat ↔ _
        omega
    | succ index =>
      exact ih powers _ _ _ (toNat_sizeAdd _ _) index found next placed

end RecordLayout

/-! ### Rules -/

namespace LayoutRule

/-- What is asserted while layouts are put together: something is only rounded to a power of two, and
two pointers fit. -/
def Asserts (pointer : UInt64) : LayoutRule → List TypeLayout → Prop
  | .pair, _ => 2 * pointer.toNat < UInt64.size
  | .record based, parts =>
    (∀ part ∈ RecordLayout.membersOf based parts, part.align.toNat.isPowerOfTwo) ∧
      (RecordLayout.ofParts based parts).layout.align.toNat.isPowerOfTwo
  | .union, parts => (TypeLayout.overlay parts).align.toNat.isPowerOfTwo
  | _, _ => True

variable {pointer : UInt64} {parts : List TypeLayout} {rule : LayoutRule}

theorem combine_regular (power : pointer.toNat.isPowerOfTwo)
    (scalar : ∀ bytes, rule = .scalar bytes → (UInt64.ofNat bytes).toNat.isPowerOfTwo)
    (each : ∀ part ∈ parts, part.Regular) : (rule.combine pointer parts).Regular := by
  cases rule with
  | nothing => exact .empty
  | scalar bytes => exact ⟨scalar bytes rfl, .inl (Nat.dvd_refl _)⟩
  | pointer => exact ⟨power, .inl (Nat.dvd_refl _)⟩
  | pair =>
    refine ⟨power, .inl ?_⟩
    show pointer.toNat ∣ (2 * pointer).toNat
    rw [UInt64.toNat_mul]
    exact (Nat.dvd_mod_iff (dvd_size power pointer.toNat_lt)).2 (Nat.dvd_mul_left _ _)
  | array length =>
    have element := TypeLayout.Regular.headD each
    refine ⟨element.power, ?_⟩
    show _ ∣ (sizeMul (parts.headD .empty).size length).toNat ∨
      (sizeMul (parts.headD .empty).size length).toNat = _
    rw [toNat_sizeMul]
    by_cases fits : (parts.headD .empty).size.toNat * length ≤ UInt64.size - 1
    · rw [Nat.min_eq_left fits]
      rcases element.whole with divides | stopped
      · exact .inl (Dvd.dvd.mul_right divides length)
      · -- so many times the largest number fits for no times or once
        rw [stopped] at fits ⊢
        have few : length ≤ 1 := Nat.le_of_mul_le_mul_left fits (by decide)
        interval_cases length
        · exact .inl (Nat.dvd_zero _)
        · exact .inr (Nat.mul_one _)
    · exact .inr (Nat.min_eq_right (Nat.le_of_not_le fits))
  | same => exact TypeLayout.Regular.headD each
  | record based => exact RecordLayout.ofParts_regular based each
  | union => exact TypeLayout.overlay_regular each

theorem asserts_of_regular (double : rule = .pair → 2 * pointer.toNat < UInt64.size)
    (each : ∀ part ∈ parts, part.Regular) : rule.Asserts pointer parts := by
  cases rule with
  | pair => exact double rfl
  | record based =>
    refine ⟨fun part listed => (each part ?_).power, (RecordLayout.ofParts_regular based each).power⟩
    cases based with
    | false => exact listed
    | true => exact List.mem_of_mem_tail listed
  | union => exact (TypeLayout.overlay_regular each).power
  | _ => trivial

end LayoutRule

namespace TypeContext

variable {ctx : TypeContext} {ty : TypeId} {layout : TypeLayout}

/-- Where pointers are aligned to a power of two, so is every type. -/
theorem Lays.regular (power : ctx.config.pointerSize.toNat.isPowerOfTwo)
    (lays : ctx.Lays ty layout) : layout.Regular := by
  induction lays with
  | made value planned each ih =>
    refine LayoutRule.combine_regular power (fun bytes same => ?_) ?_
    · obtain ⟨power, small⟩ := layoutPlan_scalar planned same
      rwa [UInt64.toNat_ofNat', Nat.mod_eq_of_lt small]
    · intro part listed
      obtain ⟨ty, inside, rfl⟩ := List.mem_map.1 listed
      exact ih ty inside

/-- No assertion fails while the layouts of the first parts of a type are put together. -/
def Asserted (ctx : TypeContext) (ty : TypeId) : Prop :=
  ∀ plan first parts, ctx.layoutPlan ty = .ok plan → first <+: plan.parts →
    List.Forall₂ ctx.Lays first parts → plan.rule.Asserts ctx.config.pointerSize parts

theorem asserted_of_power (power : ctx.config.pointerSize.toNat.isPowerOfTwo)
    (double : 2 * ctx.config.pointerSize.toNat < UInt64.size) (ty : TypeId) : ctx.Asserted ty := by
  intro plan first parts planned early each
  refine LayoutRule.asserts_of_regular (fun _ => double) fun part listed => ?_
  obtain ⟨index, below, rfl⟩ := List.mem_iff_getElem.1 listed
  exact Lays.regular power (each.get (each.length_eq ▸ below) below)

theorem lays_pointer (planned : ctx.layoutPlan ty = .ok ⟨.pointer, []⟩) :
    ctx.Lays ty (.scalar ctx.config.pointerSize) := Derives.ofParts planned .nil

/-- If nothing is asserted that does not hold, not even of a slice and of a structure with a pointer
inside, then pointers are of a size for which nothing is. -/
theorem power_of_asserted {slice pointer record : TypeId}
    (sliced : ctx.layoutPlan slice = .ok ⟨.pair, []⟩)
    (pointed : ctx.layoutPlan pointer = .ok ⟨.pointer, []⟩)
    (holds : ctx.layoutPlan record = .ok ⟨.record false, [pointer]⟩)
    (asserted : ∀ ty, ctx.Asserted ty) :
    ctx.config.pointerSize.toNat.isPowerOfTwo ∧
      2 * ctx.config.pointerSize.toNat < UInt64.size := by
  have double := asserted slice _ [] [] sliced List.nil_prefix .nil
  have aligned := asserted record _ _ _ holds List.prefix_rfl (.cons (lays_pointer pointed) .nil)
  exact ⟨aligned.1 _ List.mem_cons_self, double⟩

/-- A slice and a pointer, and a structure with the pointer as its only member. -/
def pointerInside : List TableRequest :=
  [.intern (.slice ⟨0⟩), .intern (.pointer ⟨0⟩), .declare none .struct none,
    .define ⟨15⟩ { members := [⟨.empty, ⟨14⟩⟩] }]

theorem layoutPlan_pointerInside (config : TypeConfig) :
    let now := ({ config } : TypeContext).after pointerInside
    now.layoutPlan ⟨13⟩ = .ok ⟨.pair, []⟩ ∧ now.layoutPlan ⟨14⟩ = .ok ⟨.pointer, []⟩ ∧
      now.layoutPlan ⟨15⟩ = .ok ⟨.record false, [⟨14⟩]⟩ := by
  refine ⟨?_, ?_, ?_⟩ <;> cbv

/-- In the answer to the question for the members of a structure or class, a member starts behind what
it follows exactly if there is room for its alignment. -/
theorem recordLayoutOf_room {id : DefId} {entry : TypeDef} {body : DefBody}
    (power : ctx.config.pointerSize.toNat.isPowerOfTwo) (indexed : ctx.Indexed)
    (right : ctx.Remembered ctx.layouts) (lays : ctx.Lays ty layout)
    (live : ctx.registry.get? id = some entry)
    (kind : entry.kind = .struct ∨ entry.kind = .classType) (whole : entry.body = some body)
    (plain : ctx.pool.unqualified ty = entry.type) :
    ∃ record base parts, (ctx.recordLayoutOf ty).1 = .ok record ∧ record.layout = layout ∧
      (body.base = none → base = .empty) ∧
      (∀ inherited, body.base = some inherited → (ctx.layoutOf inherited).1 = .ok base) ∧
      List.Forall₂ (fun member part => (ctx.layoutOf member.type).1 = .ok part) body.members parts ∧
      ∀ (index : Nat) before behind part, (record.ranges base parts)[index]? = some before →
        (record.ranges base parts)[index + 1]? = some behind → parts[index]? = some part →
        (before.2 ≤ behind.1 ↔ before.2 + part.align.toNat ≤ UInt64.size) := by
  obtain ⟨-, lays⟩ := lays.unqualified indexed.pool.honest
  rw [plain] at lays
  obtain ⟨parts, each, answered, rfl⟩ :=
    recordLayoutOf_record indexed live kind whole right plain lays
  obtain ⟨unbased, inherits, members⟩ := base_and_members each
  refine ⟨_, _, RecordLayout.membersOf body.base.isSome parts, answered, rfl, unbased,
    fun inherited derived => ?_, ?_, ?_⟩
  · exact (layoutOf_eq_ok_iff right).2 (inherits inherited derived)
  · exact members.imp fun _ _ lays => (layoutOf_eq_ok_iff right).2 lays
  · intro index before behind part
    refine RecordLayout.place_room (fun part listed => ?_) _ _ _ ?_ index before behind part
    · obtain ⟨index, below, rfl⟩ := List.mem_iff_getElem.1 listed
      exact (Lays.regular power (members.get (members.length_eq ▸ below) below)).power
    · exact (Nat.min_eq_left (Nat.le_sub_one_of_lt (UInt64.toNat_lt _))).symm

/-- What holds of layouts up to the limits of 64 bits. Every type is aligned to a power of two exactly
if pointers are, and no assertion fails exactly if two pointers fit besides. The size of a type is
then a multiple of its alignment, unless it stopped at the largest number and the alignment is not
one. Rounding leads to a multiple of an alignment, which is not less than the offset exactly if there
is room behind the offset for the alignment; and exactly then a member of a structure or class starts
behind the base or the member that it follows. -/
theorem layoutOf_limits (config : TypeConfig) :
    ((∀ history ty layout, ((({ config } : TypeContext).after history).layoutOf ty).1 = .ok layout →
      layout.align.toNat.isPowerOfTwo) ↔ config.pointerSize.toNat.isPowerOfTwo) ∧
    ((∀ history ty, (({ config } : TypeContext).after history).Asserted ty) ↔
      config.pointerSize.toNat.isPowerOfTwo ∧ 2 * config.pointerSize.toNat < UInt64.size) ∧
    (∀ offset align, align.toNat.isPowerOfTwo → align.toNat ∣ (alignTo offset align).toNat ∧
      (offset ≤ alignTo offset align ↔ offset.toNat + align.toNat ≤ UInt64.size)) ∧
    (config.pointerSize.toNat.isPowerOfTwo → ∀ history ty layout,
      let now := ({ config } : TypeContext).after history
      (now.layoutOf ty).1 = .ok layout →
      (layout.align.toNat ∣ layout.size.toNat ↔
        (layout.size.toNat = UInt64.size - 1 → layout.align.toNat = 1)) ∧
      ∀ id entry body, now.registry.get? id = some entry →
        entry.kind = .struct ∨ entry.kind = .classType → entry.body = some body →
        now.pool.unqualified ty = entry.type →
        ∃ record base parts, (now.recordLayoutOf ty).1 = .ok record ∧ record.layout = layout ∧
          (body.base = none → base = .empty) ∧
          (∀ inherited, body.base = some inherited → (now.layoutOf inherited).1 = .ok base) ∧
          List.Forall₂ (fun member part => (now.layoutOf member.type).1 = .ok part)
            body.members parts ∧
          ∀ (index : Nat) before behind part, (record.ranges base parts)[index]? = some before →
            (record.ranges base parts)[index + 1]? = some behind → parts[index]? = some part →
            (before.2 ≤ behind.1 ↔ before.2 + part.align.toNat ≤ UInt64.size)) := by
  have tables (history : List TableRequest) :
      ∃ now, now = ({ config } : TypeContext).after history ∧ now.config = config ∧
        now.Indexed ∧ now.Remembered now.layouts := by
    obtain ⟨sound, extends_⟩ := after_sound (cacheSound_initial config) history
    exact ⟨_, rfl, extends_.config, sound.indexed, remembered_after config history⟩
  refine ⟨⟨fun aligned => ?_, fun power history ty layout => ?_⟩, ⟨fun asserted => ?_, ?_⟩,
    fun offset align power => ⟨dvd_alignTo power offset, le_alignTo_iff power⟩,
    fun power history ty layout => ?_⟩
  · obtain ⟨-, pointed, -⟩ := layoutPlan_pointerInside config
    replace aligned := aligned pointerInside
    obtain ⟨now, same, rfl, -, right⟩ := tables pointerInside
    rw [← same] at pointed aligned
    exact aligned _ _ ((layoutOf_eq_ok_iff right).2 (lays_pointer pointed))
  · obtain ⟨now, same, rfl, -, right⟩ := tables history
    rw [← same]
    exact fun answer => (Lays.regular power ((layoutOf_eq_ok_iff right).1 answer)).power
  · obtain ⟨sliced, pointed, holds⟩ := layoutPlan_pointerInside config
    replace asserted := asserted pointerInside
    obtain ⟨now, same, rfl, -⟩ := tables pointerInside
    rw [← same] at sliced pointed holds asserted
    exact power_of_asserted sliced pointed holds asserted
  · rintro ⟨power, double⟩ history
    obtain ⟨now, same, rfl, -⟩ := tables history
    rw [← same]
    exact asserted_of_power power double
  · obtain ⟨now, same, rfl, indexed, right⟩ := tables history
    rw [← same]
    intro now answer
    have lays := (layoutOf_eq_ok_iff right).1 answer
    exact ⟨(lays.regular power).dvd_iff, fun id entry body live kind whole plain =>
      recordLayoutOf_room power indexed right lays live kind whole plain⟩

/-- As many bytes as there can be, words of which one would not fit, and a structure with the bytes and
one word. -/
def fullStructure : List TableRequest :=
  [.intern (.array ⟨6⟩ (2 ^ 64 - 1)), .intern (.array ⟨9⟩ (2 ^ 61)), .declare none .struct none,
    .define ⟨15⟩ { members := [⟨.empty, ⟨13⟩⟩, ⟨.empty, ⟨9⟩⟩] }]

/-- The size of the words is no multiple of eight, and the word of the structure starts before
the end of the bytes that it follows. -/
theorem layoutOf_limits_of_fullStructure :
    let now := ({} : TypeContext).after fullStructure
    (now.layoutOf ⟨14⟩).1 = .ok ⟨18446744073709551615, 8⟩ ∧ ¬ 8 ∣ 18446744073709551615 ∧
      (now.layoutOf ⟨15⟩).1 = .ok ⟨18446744073709551608, 8⟩ ∧ ∃ record base parts before behind,
        (now.recordLayoutOf ⟨15⟩).1 = .ok record ∧ (record.ranges base parts)[1]? = some before ∧
          (record.ranges base parts)[2]? = some behind ∧ ¬ before.2 ≤ behind.1 := by
  have words : ((({} : TypeContext).after fullStructure).layoutOf ⟨14⟩).1 =
      .ok ⟨18446744073709551615, 8⟩ := by cbv
  have whole : ((({} : TypeContext).after fullStructure).layoutOf ⟨15⟩).1 =
      .ok ⟨18446744073709551608, 8⟩ := by cbv
  have bytes : ((({} : TypeContext).after fullStructure).layoutOf ⟨13⟩).1 =
      .ok ⟨18446744073709551615, 1⟩ := by cbv
  have word : ((({} : TypeContext).after fullStructure).layoutOf ⟨9⟩).1 = .ok ⟨8, 8⟩ := by cbv
  have entry : (({} : TypeContext).after fullStructure).registry.get? ⟨0⟩ =
      some ⟨⟨0⟩, none, .struct, ⟨15⟩, none, none,
        some { members := [⟨.empty, ⟨13⟩⟩, ⟨.empty, ⟨9⟩⟩] }⟩ := by cbv
  have plain : (({} : TypeContext).after fullStructure).pool.unqualified ⟨15⟩ = ⟨15⟩ := by cbv
  have members : ((({} : TypeContext).after fullStructure).recordLayoutOf ⟨15⟩).1 =
      .ok ⟨⟨18446744073709551608, 8⟩, [0, 18446744073709551608]⟩ := by cbv
  obtain ⟨-, -, -, limits⟩ := layoutOf_limits {}
  have limits := limits ⟨3, rfl⟩ fullStructure
  generalize (({} : TypeContext).after fullStructure) = now at *
  obtain ⟨single, -⟩ := limits _ _ words
  obtain ⟨record, base, parts, answered, -, -, -, each, room⟩ :=
    (limits _ _ whole).2 _ _ _ entry (.inl rfl) rfl plain
  cases answered.symm.trans members
  obtain ⟨first, rest, answer, others, rfl⟩ := List.forall₂_cons_left_iff.1 each
  obtain ⟨second, rest, answer', others, rfl⟩ := List.forall₂_cons_left_iff.1 others
  cases others
  cases answer.symm.trans bytes
  cases answer'.symm.trans word
  refine ⟨words, fun divides => ?_, whole, _, base,
    [⟨18446744073709551615, 1⟩, ⟨8, 8⟩], _, _, answered, rfl, rfl, ?_⟩
  · cases single.1 divides rfl
  · exact fun ordered => absurd ((room 1 _ _ _ rfl rfl rfl).1 ordered) (by decide)

end TypeContext

end FrontEnd
