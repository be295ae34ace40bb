import FrontEnd.Fault
import FrontEnd.Item.Kind
import FrontEnd.Source.Id
import FrontEnd.Text.Integer

/-!
Locators: addresses of items across all sources, packed into 64 bits. The upper eight bits hold
the kind, the next sixteen the source, and the lower forty the offset of the first token. Packing
and unpacking are inverse to each other, so a locator is no more and no less than its three parts.
`ItemLocator` keeps the parts and is packed on demand; `PackedLocator` is what is stored, the bits
alone, from which the parts are read.
-/

namespace FrontEnd

/-- How many offsets forty bits hold. -/
def ItemLocator.offsetCount : Nat := 1099511627776

/-- The kind of an item, its source, and the offset of its first token. -/
structure ItemLocator where
  kind : ItemKind
  source : SourceId
  offset : Fin ItemLocator.offsetCount
  deriving DecidableEq

/-- Why parts or bits are no locator. -/
inductive LocatorError where
  /-- The offset does not fit in forty bits. -/
  | offsetTooLarge (offset : Nat)
  /-- The upper eight bits are the byte of no kind. -/
  | unknownKind (byte : UInt8)
  deriving DecidableEq

instance : Fault LocatorError where
  label
    | .offsetTooLarge _ => "OffsetTooLarge"
    | .unknownKind _ => "UnknownKind"
  message
    | .offsetTooLarge offset => s!"token offset {offset} exceeds the 40-bit locator field"
    | .unknownKind byte => s!"locator kind byte {Text.hexByte byte} is not an item kind"

namespace ItemLocator

/-- The address of the item of a kind that starts at an offset. -/
def ofParts (kind : ItemKind) (source : SourceId) (offset : Nat) :
    Except LocatorError ItemLocator :=
  if small : offset < offsetCount then .ok ⟨kind, source, offset, small⟩
  else .error (.offsetTooLarge offset)

/-- The 64 bits of a locator. -/
def raw (locator : ItemLocator) : UInt64 :=
  (locator.kind.byte.toUInt64 <<< 56) ||| (UInt64.ofNat locator.source.number.val <<< 40) |||
    UInt64.ofNat locator.offset.val

/-- The locator that 64 bits stand for. -/
def ofRaw (raw : UInt64) : Except LocatorError ItemLocator :=
  let byte := (raw >>> 56).toUInt8
  match ItemKind.ofByte? byte with
  | none => .error (.unknownKind byte)
  | some kind => .ok {
      kind
      source := ⟨raw.toNat / offsetCount % 65536, Nat.mod_lt _ (by decide)⟩
      offset := ⟨raw.toNat % offsetCount, Nat.mod_lt _ (by decide)⟩ }

/-- A locator as dumps show it. -/
def dump (locator : ItemLocator) : String :=
  s!"ItemLocator({locator.kind.label}, {locator.source.dump}, @{locator.offset.val})"

end ItemLocator

/-- A locator as it is stored: its 64 bits. Whoever makes one looks at the byte of the kind. -/
structure PackedLocator where
  raw : UInt64
  deriving DecidableEq

namespace PackedLocator

/-- The lower forty bits of 64. -/
def offsetMask : UInt64 := 0xFFFFFFFFFF

/-- The lower sixteen bits of 64. -/
def sourceMask : UInt64 := 0xFFFF

/-- The upper eight of 64 bits. -/
def kindByte (raw : UInt64) : UInt8 := (raw >>> 56).toUInt8

/-- The address of the item of a kind that starts at an offset. -/
def ofParts (kind : ItemKind) (source : SourceId) (offset : UInt64) :
    Except LocatorError PackedLocator :=
  if offset > offsetMask then .error (.offsetTooLarge offset.toNat)
  else .ok ⟨(kind.byte.toUInt64 <<< 56) ||| (UInt64.ofNat source.number.val <<< 40) ||| offset⟩

/-- The locator of the given bits. -/
def ofRaw (raw : UInt64) : Except LocatorError PackedLocator :=
  match ItemKind.ofByte? (kindByte raw) with
  | none => .error (.unknownKind (kindByte raw))
  | some _ => .ok ⟨raw⟩

/-- The kind of the item. It is missing only if nobody has looked at its byte. -/
def kind? (locator : PackedLocator) : Option ItemKind := ItemKind.ofByte? (kindByte locator.raw)

/-- The source of the item. -/
def source (locator : PackedLocator) : SourceId :=
  ⟨((locator.raw >>> 40) &&& sourceMask).toUInt16.toFin⟩

/-- The offset of the first token. -/
def offset (locator : PackedLocator) : UInt64 := locator.raw &&& offsetMask

end PackedLocator

/-- The locator as it is stored. -/
def ItemLocator.pack (locator : ItemLocator) : PackedLocator := ⟨locator.raw⟩

end FrontEnd
