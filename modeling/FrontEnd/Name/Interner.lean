import FrontEnd.Fault
import FrontEnd.Name.Basic
import Std.Data.HashMap

/-!
The interner gives each distinct text one name. Texts are spread over eight shards by their first
bytes, and a shard that holds 8192 texts takes no more. Interning only ever adds: a name, once
given, keeps its text.
-/

namespace FrontEnd

/-- One shard: its texts by slot, and the slot of each text. -/
structure Shard where
  texts : Array String := #[]
  slots : Std.HashMap String (Fin 8192) := {}

/-- Why a text gets no name. -/
inductive InternError where
  /-- The shard that the text belongs to has no free slot. -/
  | shardFull (shard : Fin 8) (count : Nat)
  deriving DecidableEq

instance : Fault InternError where
  label
    | .shardFull .. => "ShardOverflow"
  message
    | .shardFull shard count =>
      s!"interner shard {shard.val} is full: {count} strings, max is 8192"

/-- A name that a table did not give out. -/
structure UnknownName where
  name : Name
  deriving DecidableEq

instance : Fault UnknownName where
  label _ := "UnknownName"
  message err := s!"{err.name.dump} was not interned here"
  isMisuse _ := true

/-- The table of names. -/
structure Interner where
  shards : Vector Shard 8
  /-- How many texts were put into a shard, whichever it was. -/
  count : Nat

namespace Shard

/-- The slot of a text that the shard holds. -/
def get? (shard : Shard) (text : String) : Option (Fin 8192) := shard.slots[text]?

/-- Puts a text into the next slot. -/
def push (shard : Shard) (text : String) (slot : Fin 8192) : Shard where
  texts := shard.texts.push text
  slots := shard.slots.insert text slot

end Shard

namespace Interner

/-- The shard of a text, from its first eight bytes read as digits in base 31. -/
def shardOf (text : String) : Fin 8 :=
  let hash := text.toUTF8.toList.take 8 |>.foldl (fun sum byte => sum * 31 + byte.toUInt32) 0
  ⟨hash.toNat % 8, Nat.mod_lt _ (by decide)⟩

/-- The table without any text. -/
def bare : Interner := ⟨Vector.replicate 8 {}, 0⟩

/-- The name of a text that the table holds. -/
def get? (names : Interner) (text : String) : Option Name :=
  (names.shards[shardOf text].get? text).map (Name.mk (shardOf text))

/-- The text of a name that the table gave out. -/
def text? (names : Interner) (name : Name) : Option String :=
  names.shards[name.shard].texts[name.slot.val]?

/-- The text of a name, or the replacement character if the table did not give the name out. -/
def textOf (names : Interner) (name : Name) : String := (names.text? name).getD "\uFFFD"

/-- The text of a name that has to be one of the table's. -/
def lookup (names : Interner) (name : Name) : Except UnknownName String :=
  match names.text? name with
  | some text => .ok text
  | none => .error ⟨name⟩

/-- The table with a text in the next slot of its shard. -/
def push (names : Interner) (text : String) (slot : Fin 8192) : Interner where
  shards := ⟨names.shards.toArray.modify (shardOf text).val (·.push text slot), by simp⟩
  count := names.count + 1

/-- The name of a text, and the table that holds it. A text that is there already keeps its name
and leaves the table as it is, and so does one for which there is no room. -/
def intern (names : Interner) (text : String) : Except InternError Name × Interner :=
  let shard := shardOf text
  match names.get? text with
  | some name => (.ok name, names)
  | none =>
    let count := names.shards[shard].texts.size
    if room : count < 8192 then
      (.ok ⟨shard, count, room⟩, names.push text ⟨count, room⟩)
    else (.error (.shardFull shard count), names)

/-- How many texts the table holds. -/
def size (names : Interner) : Nat := names.count

/-- The texts that every table holds from the start, the empty one first. -/
def common : List String :=
  ["", "void", "bool", "i8", "i16", "i32", "i64", "u8", "u16", "u32", "u64", "f32", "f64",
    "main", "self", "this", "value"]

/-- A new table: the common texts and nothing else. -/
def new : Interner := common.foldl (fun names text => (names.intern text).2) bare

instance : Inhabited Interner := ⟨new⟩

/-- Whether the table holds nothing beside the empty text. -/
def isEmpty (names : Interner) : Bool := names.size ≤ 1

end Interner

end FrontEnd
