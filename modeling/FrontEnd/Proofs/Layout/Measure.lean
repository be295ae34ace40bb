import FrontEnd.Proofs.Layout.Derivation

/-!
Layouts over the natural numbers, where every size fits. Members lie one behind the other, each at
the next multiple of its alignment: they are aligned, do not overlap, and end before the whole does.
-/

namespace FrontEnd

/-- The next multiple of an alignment. -/
def roundUp (offset align : Nat) : Nat := (offset + align - 1) / align * align

theorem dvd_roundUp (offset align : Nat) : align ∣ roundUp offset align := Nat.dvd_mul_left _ _

theorem le_roundUp (offset : Nat) {align : Nat} (positive : 0 < align) : offset ≤ roundUp offset align := by
  have parted := Nat.div_add_mod (offset + align - 1) align
  have rest := Nat.mod_lt (offset + align - 1) positive
  rw [Nat.mul_comm] at parted
  unfold roundUp
  omega

/-- Size and alignment without bounds. -/
structure Measure where
  size : Nat
  align : Nat

namespace Measure

/-- The measure of what has no parts. -/
def empty : Measure := ⟨0, 1⟩

/-- Where members start that lie one behind the other, from an offset on. -/
def offsetsFrom (offset : Nat) : List Measure → List Nat
  | [] => []
  | part :: rest =>
    let start := roundUp offset part.align
    start :: offsetsFrom (start + part.size) rest

/-- Where members end that lie one behind the other, from an offset on. -/
def endFrom (offset : Nat) : List Measure → Nat
  | [] => offset
  | part :: rest => endFrom (roundUp offset part.align + part.size) rest

/-- The largest of a size and the sizes of members. -/
def largestSize (size : Nat) (parts : List Measure) : Nat :=
  parts.foldl (fun size part => max size part.size) size

/-- The largest of an alignment and the alignments of members. -/
def largestAlign (align : Nat) (parts : List Measure) : Nat :=
  parts.foldl (fun align part => max align part.align) align

/-- Members one behind the other after a base, rounded up to the largest alignment. -/
def record (base : Measure) (parts : List Measure) : Measure :=
  ⟨roundUp (endFrom base.size parts) (largestAlign base.align parts),
    largestAlign base.align parts⟩

/-- Members one over the other, rounded up to the largest alignment. -/
def union (parts : List Measure) : Measure :=
  ⟨roundUp (largestSize 0 parts) (largestAlign 1 parts), largestAlign 1 parts⟩

end Measure

/-- What a rule makes of the measures of the parts. -/
def LayoutRule.measure (pointer : Nat) : LayoutRule → List Measure → Measure
  | .nothing, _ => .empty
  | .scalar bytes, _ => ⟨bytes, bytes⟩
  | .pointer, _ => ⟨pointer, pointer⟩
  | .pair, _ => ⟨2 * pointer, pointer⟩
  | .array length, parts => ⟨(parts.headD .empty).size * length, (parts.headD .empty).align⟩
  | .same, parts => parts.headD .empty
  | .record false, parts => .record .empty parts
  | .record true, parts => .record (parts.headD .empty) parts.tail
  | .union, parts => .union parts

/-- The size and alignment that a type would have if every size fitted. -/
def TypeContext.Measures (ctx : TypeContext) : TypeId → Measure → Prop :=
  ctx.Derives (LayoutRule.measure ctx.config.pointerSize.toNat)

namespace Measure

variable {parts : List Measure}

/-- From where to where members lie, given where they start. -/
def ranges (offsets : List Nat) (parts : List Measure) : List (Nat × Nat) :=
  List.zipWith (fun start part => (start, start + part.size)) offsets parts

theorem le_endFrom (offset : Nat) (aligned : ∀ part ∈ parts, 0 < part.align) :
    offset ≤ endFrom offset parts := by
  induction parts generalizing offset with
  | nil => exact Nat.le_refl _
  | cons part rest ih =>
    have start := le_roundUp offset (aligned part (by simp))
    have later := ih (roundUp offset part.align + part.size) fun other listed =>
      aligned other (by simp [listed])
    simp only [endFrom]
    omega

theorem offsetsFrom_aligned (offset : Nat) (parts : List Measure) :
    List.Forall₂ (fun part start => part.align ∣ start) parts (offsetsFrom offset parts) := by
  induction parts generalizing offset with
  | nil => exact .nil
  | cons part rest ih => exact .cons (dvd_roundUp _ _) (ih _)

/-- Members lie behind the offset from which they are placed and before their end, and each before
all that follow it. -/
theorem ranges_ordered (offset : Nat) (aligned : ∀ part ∈ parts, 0 < part.align) :
    (∀ range ∈ ranges (offsetsFrom offset parts) parts,
      offset ≤ range.1 ∧ range.2 ≤ endFrom offset parts) ∧
    (ranges (offsetsFrom offset parts) parts).Pairwise fun first second => first.2 ≤ second.1 := by
  induction parts generalizing offset with
  | nil => exact ⟨by simp [ranges, offsetsFrom], .nil⟩
  | cons part rest ih =>
    have start := le_roundUp offset (aligned part (by simp))
    have aligned' : ∀ other ∈ rest, 0 < other.align := fun other listed =>
      aligned other (by simp [listed])
    obtain ⟨inside, ordered⟩ := ih (roundUp offset part.align + part.size) aligned'
    have later := le_endFrom (roundUp offset part.align + part.size) aligned'
    simp only [ranges, offsetsFrom, endFrom, List.zipWith_cons_cons, List.forall_mem_cons,
      List.pairwise_cons] at inside ordered ⊢
    refine ⟨⟨⟨start, later⟩, fun range listed => ?_⟩, fun range listed => ?_, ordered⟩
    · obtain ⟨behind, before⟩ := inside range listed
      exact ⟨by omega, before⟩
    · exact (inside range listed).1

end Measure

end FrontEnd
