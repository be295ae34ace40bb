/-!
Names stand for interned texts. A name says which shard of the interner holds its text and in
which slot, so that names are compared and copied without their texts.
-/

namespace FrontEnd

/-- An interned text: one of eight shards and one of its 8192 slots. Together they fill sixteen
bits. -/
structure Name where
  shard : Fin 8
  slot : Fin 8192
  deriving DecidableEq, Hashable

namespace Name

/-- The name of the empty text, which every interner holds from the start. -/
def empty : Name := ⟨0, 0⟩

instance : Inhabited Name := ⟨empty⟩

/-- The sixteen bits of a name: the shard in the upper three, the slot below. -/
def raw (name : Name) : UInt16 :=
  UInt16.ofNat (name.shard.val * 8192 + name.slot.val)

/-- The name that sixteen bits stand for. Every value stands for one. -/
def ofRaw (raw : UInt16) : Name where
  shard := ⟨raw.toNat / 8192, by have := raw.toNat_lt; omega⟩
  slot := ⟨raw.toNat % 8192, by omega⟩

/-- A name as dumps show it, without its text. -/
def dump (name : Name) : String :=
  s!"Name(shard={name.shard.val}, local={name.slot.val})"

theorem toNat_raw (name : Name) : name.raw.toNat = name.shard.val * 8192 + name.slot.val := by
  obtain ⟨shard, slot⟩ := name
  simp only [raw, UInt16.toNat_ofNat']
  omega

@[simp] theorem ofRaw_raw (name : Name) : ofRaw name.raw = name := by
  obtain ⟨shard, slot⟩ := name
  simp only [ofRaw, toNat_raw, Name.mk.injEq, Fin.ext_iff]
  omega

@[simp] theorem raw_ofRaw (raw : UInt16) : (ofRaw raw).raw = raw := by
  apply UInt16.toNat_inj.1
  rw [toNat_raw]
  simp only [ofRaw]
  omega

end Name

end FrontEnd
