import FrontEnd.Item.Locator
import Mathlib.Data.Set.Function

/-!
Locators in 64 bits. No two parts share a bit, so the bits are a sum in which each part has its own
place, and a place is read back by a division and a remainder. From this both ways back follow: what
is packed gives its parts, and bits whose upper eight are the byte of a kind are packed parts.
-/

namespace FrontEnd

/-! ### The parts of any bits -/

namespace PackedLocator

theorem toNat_kindByte (raw : UInt64) :
    (kindByte raw).toNat = raw.toNat / ItemLocator.offsetCount / 65536 := by
  have less := raw.toNat_lt
  rw [kindByte, UInt64.toNat_toUInt8, UInt64.toNat_shiftRight, Nat.shiftRight_eq_div_pow]
  change raw.toNat / 72057594037927936 % 256 = raw.toNat / 1099511627776 / 65536
  omega

theorem val_source (locator : PackedLocator) :
    locator.source.number.val = locator.raw.toNat / ItemLocator.offsetCount % 65536 := by
  have masked : ((locator.raw >>> 40) &&& sourceMask).toNat =
      locator.raw.toNat / ItemLocator.offsetCount % 65536 := by
    rw [UInt64.toNat_and, UInt64.toNat_shiftRight, Nat.shiftRight_eq_div_pow]
    exact Nat.and_two_pow_sub_one_eq_mod _ 16
  change ((locator.raw >>> 40) &&& sourceMask).toUInt16.toNat = _
  rw [UInt64.toNat_toUInt16, masked]
  exact Nat.mod_mod _ 65536

theorem toNat_offset (locator : PackedLocator) :
    locator.offset.toNat = locator.raw.toNat % ItemLocator.offsetCount := by
  rw [offset, UInt64.toNat_and]
  exact Nat.and_two_pow_sub_one_eq_mod locator.raw.toNat 40

/-- The parts make up all of the bits. -/
theorem eq_of_parts {locator other : PackedLocator}
    (kinds : kindByte locator.raw = kindByte other.raw) (sources : locator.source = other.source)
    (offsets : locator.offset = other.offset) : locator = other := by
  have kinds := congrArg UInt8.toNat kinds
  have sources := SourceId.eq_iff_val.1 sources
  have offsets := congrArg UInt64.toNat offsets
  rw [toNat_kindByte, toNat_kindByte] at kinds
  rw [val_source, val_source] at sources
  rw [toNat_offset, toNat_offset] at offsets
  refine congrArg PackedLocator.mk (UInt64.toNat_inj.1 ?_)
  rw [← Nat.div_add_mod' locator.raw.toNat ItemLocator.offsetCount,
    ← Nat.div_add_mod' (locator.raw.toNat / ItemLocator.offsetCount) 65536, kinds, sources, offsets,
    Nat.div_add_mod', Nat.div_add_mod']

end PackedLocator

/-! ### Packing -/

namespace ItemLocator

/-- The bits are the sum of the parts, each at its place. -/
theorem toNat_raw (locator : ItemLocator) : locator.raw.toNat =
    (locator.kind.byte.toNat * 65536 + locator.source.number.val) * offsetCount +
      locator.offset.val := by
  obtain ⟨kind, ⟨source, few⟩, offset, small⟩ := locator
  have less := kind.byte.toNat_lt
  -- No shift leaves the 64 bits, so that the words may be taken for numbers.
  have atKind : (kind.byte.toUInt64 <<< (56 : UInt64)).toNat = kind.byte.toNat <<< 56 := by
    rw [UInt64.toNat_shiftLeft, UInt8.toNat_toUInt64]
    exact Nat.mod_eq_of_lt (by rw [Nat.shiftLeft_eq]; change _ * 72057594037927936 < _; omega)
  have atSource : (UInt64.ofNat source <<< (40 : UInt64)).toNat = source <<< 40 := by
    rw [UInt64.toNat_shiftLeft, UInt64.toNat_ofNat_of_lt' (Nat.lt_trans few (by decide))]
    exact Nat.mod_eq_of_lt (by rw [Nat.shiftLeft_eq]; change _ * 1099511627776 < _; omega)
  have atOffset : (UInt64.ofNat offset).toNat = offset :=
    UInt64.toNat_ofNat_of_lt' (Nat.lt_trans small (by decide))
  calc (raw ⟨kind, ⟨source, few⟩, offset, small⟩).toNat
    _ = kind.byte.toNat <<< 56 ||| source <<< 40 ||| offset := by
      simp only [raw, UInt64.toNat_or, atKind, atSource, atOffset]
    _ = (kind.byte.toNat <<< 16 ||| source) <<< 40 ||| offset := by
      rw [Nat.shiftLeft_or_distrib, ← Nat.shiftLeft_add]
    _ = (kind.byte.toNat <<< 16 + source) <<< 40 + offset := by
      rw [← Nat.shiftLeft_add_eq_or_of_lt (i := 40) small,
        ← Nat.shiftLeft_add_eq_or_of_lt (i := 16) few]
    _ = (kind.byte.toNat * 65536 + source) * offsetCount + offset := by
      simp only [Nat.shiftLeft_eq]
      rfl

variable (locator : ItemLocator) {raw : UInt64}

theorem kindByte_raw : PackedLocator.kindByte locator.raw = locator.kind.byte := by
  have few := locator.source.number.isLt
  have small := locator.offset.isLt
  apply UInt8.toNat_inj.1
  rw [PackedLocator.toNat_kindByte, toNat_raw]
  simp only [offsetCount] at *
  omega

@[simp] theorem kind?_pack : locator.pack.kind? = some locator.kind := by
  rw [PackedLocator.kind?, pack, kindByte_raw, ItemKind.ofByte?_byte]

@[simp] theorem source_pack : locator.pack.source = locator.source := by
  have few := locator.source.number.isLt
  have small := locator.offset.isLt
  apply SourceId.eq_iff_val.2
  rw [PackedLocator.val_source, pack, toNat_raw]
  simp only [offsetCount] at *
  omega

theorem toNat_offset_pack : locator.pack.offset.toNat = locator.offset.val := by
  rw [PackedLocator.toNat_offset, pack, toNat_raw, Nat.mul_add_mod_self_right,
    Nat.mod_eq_of_lt locator.offset.isLt]

/-- Since all three parts can be read, different locators have different bits. -/
theorem pack_injective : Function.Injective pack := by
  rintro ⟨kind, source, offset⟩ ⟨kind', source', offset'⟩ same
  have kinds := congrArg PackedLocator.kind? same
  have sources := congrArg PackedLocator.source same
  have offsets := congrArg (fun packed => packed.offset.toNat) same
  simp only [kind?_pack, source_pack, toNat_offset_pack, Option.some.injEq] at kinds sources offsets
  rw [kinds, sources, Fin.ext offsets]

theorem ofRaw_of_none (strange : ItemKind.ofByte? (PackedLocator.kindByte raw) = none) :
    ofRaw raw = .error (.unknownKind (PackedLocator.kindByte raw)) := by
  change ItemKind.ofByte? (raw >>> 56).toUInt8 = none at strange
  simp only [ofRaw, strange]
  rfl

/-- Bits with the byte of a kind are a locator, and it is packed into them. -/
theorem ofRaw_of_some {kind : ItemKind}
    (known : ItemKind.ofByte? (PackedLocator.kindByte raw) = some kind) :
    ∃ locator, ofRaw raw = .ok locator ∧ locator.pack = ⟨raw⟩ := by
  let locator : ItemLocator := ⟨kind, ⟨raw.toNat / offsetCount % 65536, Nat.mod_lt _ (by decide)⟩,
    ⟨raw.toNat % offsetCount, Nat.mod_lt _ (by decide)⟩⟩
  have made : ofRaw raw = .ok locator := by
    change ItemKind.ofByte? (raw >>> 56).toUInt8 = some kind at known
    simp only [ofRaw, known]
    rfl
  refine ⟨locator, made, PackedLocator.eq_of_parts ?_ ?_ ?_⟩
  · exact locator.kindByte_raw.trans (ItemKind.byte_of_ofByte? known)
  · exact locator.source_pack.trans (SourceId.eq_iff_val.2 (PackedLocator.val_source ⟨raw⟩).symm)
  · exact UInt64.toNat_inj.1
      (locator.toNat_offset_pack.trans (PackedLocator.toNat_offset ⟨raw⟩).symm)

/-- The packed locators are those from which a kind can be read. -/
theorem exists_pack_iff {packed : PackedLocator} :
    (∃ locator : ItemLocator, locator.pack = packed) ↔ ∃ kind, packed.kind? = some kind := by
  constructor
  · rintro ⟨locator, rfl⟩
    exact ⟨locator.kind, locator.kind?_pack⟩
  · rintro ⟨kind, known⟩
    obtain ⟨locator, -, same⟩ := ofRaw_of_some known
    exact ⟨locator, same⟩

theorem ofParts_eq_ok_iff {kind : ItemKind} {source : SourceId} {offset : Nat}
    {locator : ItemLocator} : ofParts kind source offset = .ok locator ↔
      locator.kind = kind ∧ locator.source = source ∧ locator.offset.val = offset := by
  unfold ofParts
  constructor
  · intro made
    split at made
    · cases made
      exact ⟨rfl, rfl, rfl⟩
    · cases made
  · rintro ⟨rfl, rfl, rfl⟩
    rw [dif_pos locator.offset.isLt]

end ItemLocator

/-! ### Making packed locators -/

namespace PackedLocator

variable {kind : ItemKind} {source : SourceId} {offset raw : UInt64} {locator : PackedLocator}

/-- A locator that was made of parts or of bits. -/
inductive Made : PackedLocator → Prop where
  | ofParts {kind : ItemKind} {source : SourceId} {offset : UInt64} {locator : PackedLocator}
      (made : PackedLocator.ofParts kind source offset = .ok locator) : Made locator
  | ofRaw {raw : UInt64} {locator : PackedLocator}
      (made : PackedLocator.ofRaw raw = .ok locator) : Made locator

/-- Parts that are kept are refused for the same reason as parts that are packed. -/
theorem ofParts_eq : ofParts kind source offset =
    (ItemLocator.ofParts kind source offset.toNat).map ItemLocator.pack := by
  have large : offset > offsetMask ↔ ¬offset.toNat < ItemLocator.offsetCount := by
    rw [gt_iff_lt, UInt64.lt_iff_toNat_lt, Nat.not_lt]
    exact Iff.rfl
  unfold ofParts ItemLocator.ofParts
  by_cases small : offset.toNat < ItemLocator.offsetCount
  · rw [if_neg fun tooLarge => large.1 tooLarge small, dif_pos small]
    simp only [Except.map, ItemLocator.pack, ItemLocator.raw, UInt64.ofNat_toNat]
  · rw [if_pos (large.2 small), dif_neg small]
    rfl

theorem exists_pack_of_ofParts (made : ofParts kind source offset = .ok locator) :
    ∃ parts : ItemLocator, parts.pack = locator ∧
      parts.kind = kind ∧ parts.source = source ∧ parts.offset.val = offset.toNat := by
  rw [ofParts_eq] at made
  cases kept : ItemLocator.ofParts kind source offset.toNat with
  | error reason => rw [kept] at made; cases made
  | ok parts =>
    rw [kept] at made
    exact ⟨parts, Except.ok.inj made, ItemLocator.ofParts_eq_ok_iff.1 kept⟩

/-- The bits that parts make are their sum, each at its place. -/
theorem toNat_raw_of_ofParts (made : ofParts kind source offset = .ok locator) :
    locator.raw.toNat =
      (kind.byte.toNat * 65536 + source.number.val) * ItemLocator.offsetCount + offset.toNat := by
  obtain ⟨parts, rfl, rfl, rfl, same⟩ := exists_pack_of_ofParts made
  rw [← same]
  exact parts.toNat_raw

/-- Parts make the locator from which they can be read. -/
theorem ofParts_eq_ok_iff : ofParts kind source offset = .ok locator ↔
    locator.kind? = some kind ∧ locator.source = source ∧ locator.offset = offset := by
  constructor
  · intro made
    obtain ⟨parts, rfl, rfl, rfl, same⟩ := exists_pack_of_ofParts made
    exact ⟨parts.kind?_pack, parts.source_pack,
      UInt64.toNat_inj.1 (parts.toNat_offset_pack.trans same)⟩
  · rintro ⟨known, rfl, rfl⟩
    obtain ⟨parts, rfl⟩ := ItemLocator.exists_pack_iff.2 ⟨kind, known⟩
    have kept : ItemLocator.ofParts kind parts.pack.source parts.pack.offset.toNat = .ok parts :=
      ItemLocator.ofParts_eq_ok_iff.2 ⟨Option.some.inj (parts.kind?_pack.symm.trans known),
        parts.source_pack.symm, parts.toNat_offset_pack.symm⟩
    rw [ofParts_eq, kept]
    rfl

theorem exists_ofParts_iff :
    (∃ locator, ofParts kind source offset = .ok locator) ↔
      offset.toNat < ItemLocator.offsetCount := by
  rw [ofParts_eq]
  unfold ItemLocator.ofParts
  split
  · exact iff_of_true ⟨_, rfl⟩ ‹_›
  · exact iff_of_false (fun ⟨_, made⟩ => nomatch made) ‹_›

/-- Bits make the locator with these bits, if a kind can be read from it. -/
theorem ofRaw_eq_ok_iff :
    ofRaw raw = .ok locator ↔ locator.raw = raw ∧ ∃ kind, locator.kind? = some kind := by
  unfold ofRaw
  constructor
  · intro made
    split at made
    · cases made
    · cases made
      exact ⟨rfl, _, ‹_›⟩
  · rintro ⟨rfl, kind, read⟩
    rw [kind?] at read
    rw [read]

theorem exists_ofRaw_iff :
    (∃ locator, ofRaw raw = .ok locator) ↔ ∃ kind : ItemKind, kind.byte = kindByte raw := by
  constructor
  · rintro ⟨locator, made⟩
    obtain ⟨rfl, kind, known⟩ := ofRaw_eq_ok_iff.1 made
    exact ⟨kind, ItemKind.byte_of_ofByte? known⟩
  · rintro ⟨kind, same⟩
    exact ⟨⟨raw⟩, ofRaw_eq_ok_iff.2 ⟨rfl, kind, ItemKind.ofByte?_eq_some_iff.2 same⟩⟩

/-- Bits that are kept are refused for the same reason as bits that are taken apart. -/
theorem ofRaw_eq : ofRaw raw = (ItemLocator.ofRaw raw).map ItemLocator.pack := by
  unfold ofRaw
  split
  · rw [ItemLocator.ofRaw_of_none ‹_›]
    rfl
  · obtain ⟨locator, made, same⟩ := ItemLocator.ofRaw_of_some ‹_›
    rw [made, ← same]
    rfl

theorem made_iff : locator.Made ↔ ∃ kind, locator.kind? = some kind := by
  constructor
  · rintro (made | made)
    · exact ⟨_, (ofParts_eq_ok_iff.1 made).1⟩
    · exact (ofRaw_eq_ok_iff.1 made).2
  · exact fun read => .ofRaw (ofRaw_eq_ok_iff.2 ⟨rfl, read⟩)

/-- What can be made are the packed locators, each the packing of one alone. -/
theorem bijOn_pack : Set.BijOn ItemLocator.pack Set.univ {locator | locator.Made} := by
  refine ⟨fun parts _ => made_iff.2 ⟨parts.kind, parts.kind?_pack⟩,
    ItemLocator.pack_injective.injOn, fun locator made => ?_⟩
  obtain ⟨parts, same⟩ := ItemLocator.exists_pack_iff.2 (made_iff.1 made)
  exact ⟨parts, trivial, same⟩

/-- Parts make a locator exactly if forty bits hold the offset. Its bits are then the sum of the
parts, each at its place; the parts are read from it, and its bits make the same locator. Bits make
a locator exactly if the upper eight are the byte of a kind, and what is read from it makes the same
bits. So the locators that can be made are the packed triples of a kind, a source and an offset, each
that of one triple only, and none of them lacks its kind. Locators that keep their parts are made,
and refused, just the same. -/
theorem stands_for_parts :
    (∀ (kind : ItemKind) (source : SourceId) (offset : UInt64),
      ((∃ locator, ofParts kind source offset = .ok locator) ↔
        offset.toNat < ItemLocator.offsetCount) ∧
      ∀ locator, ofParts kind source offset = .ok locator →
        locator.raw.toNat = (kind.byte.toNat * 65536 + source.number.val) *
          ItemLocator.offsetCount + offset.toNat ∧
        locator.kind? = some kind ∧ locator.source = source ∧ locator.offset = offset ∧
        ofRaw locator.raw = .ok locator) ∧
    (∀ raw : UInt64,
      ((∃ locator, ofRaw raw = .ok locator) ↔ ∃ kind : ItemKind, kind.byte = kindByte raw) ∧
      ∀ locator, ofRaw raw = .ok locator → locator.raw = raw ∧
        ∃ kind, locator.kind? = some kind ∧
          ofParts kind locator.source locator.offset = .ok locator) ∧
    Set.BijOn ItemLocator.pack Set.univ {locator | locator.Made} ∧
    (∀ locator : PackedLocator, locator.Made → locator.kind? ≠ none) ∧
    (∀ kind source offset, ofParts kind source offset =
      (ItemLocator.ofParts kind source offset.toNat).map ItemLocator.pack) ∧
    ∀ raw, ofRaw raw = (ItemLocator.ofRaw raw).map ItemLocator.pack := by
  refine ⟨fun kind source offset => ⟨exists_ofParts_iff, fun locator made => ?_⟩,
    fun raw => ⟨exists_ofRaw_iff, fun locator made => ?_⟩, bijOn_pack, fun locator made => ?_,
    fun _ _ _ => ofParts_eq, fun _ => ofRaw_eq⟩
  · obtain ⟨known, sources, offsets⟩ := ofParts_eq_ok_iff.1 made
    exact ⟨toNat_raw_of_ofParts made, known, sources, offsets,
      ofRaw_eq_ok_iff.2 ⟨rfl, kind, known⟩⟩
  · obtain ⟨same, kind, known⟩ := ofRaw_eq_ok_iff.1 made
    exact ⟨same, kind, known, ofParts_eq_ok_iff.2 ⟨known, rfl, rfl⟩⟩
  · obtain ⟨kind, known⟩ := made_iff.1 made
    rw [known]
    exact Option.some_ne_none kind

/-- The last of all locators has every bit but the first. -/
theorem stands_for_parts_of_last :
    ofParts .module ⟨65535⟩ offsetMask = .ok ⟨0x7FFFFFFFFFFFFFFF⟩ ∧
      kind? ⟨0x7FFFFFFFFFFFFFFF⟩ = some .module ∧
      ofRaw 0x7FFFFFFFFFFFFFFF = .ok ⟨0x7FFFFFFFFFFFFFFF⟩ ∧
      ∃ kind, kind? ⟨0x7FFFFFFFFFFFFFFF⟩ = some kind ∧
        ofParts kind (PackedLocator.source ⟨0x7FFFFFFFFFFFFFFF⟩)
          (PackedLocator.offset ⟨0x7FFFFFFFFFFFFFFF⟩) = .ok ⟨0x7FFFFFFFFFFFFFFF⟩ := by
  have made : ofParts .module ⟨65535⟩ offsetMask = .ok ⟨0x7FFFFFFFFFFFFFFF⟩ := by decide
  obtain ⟨-, known, -, -, read⟩ := (stands_for_parts.1 .module ⟨65535⟩ offsetMask).2 _ made
  exact ⟨made, known, read, ((stands_for_parts.2.1 0x7FFFFFFFFFFFFFFF).2 _ read).2⟩

end PackedLocator

end FrontEnd
