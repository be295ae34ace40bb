import FrontEnd.Name.Basic
import FrontEnd.Typing.Id

/-!
Outlines: what tools are shown of the values of the library. An outline has no notation of its own;
a tool chooses one, and shows names by their texts and types as it likes.
-/

namespace FrontEnd

/-- A description of a value. -/
inductive Outline where
  | absent
  | flag (value : Bool)
  | number (value : Int)
  /-- A quantity that may take 64 bits or more. -/
  | wide (value : Int)
  | text (value : String)
  | name (name : Name)
  | type (ty : TypeId)
  | list (entries : List Outline)
  | record (fields : List (String × Outline))

namespace Outline

instance : Coe Bool Outline := ⟨flag⟩

instance : Coe Nat Outline := ⟨fun value => number value⟩

instance : Coe String Outline := ⟨text⟩

instance : Coe Name Outline := ⟨name⟩

instance : Coe TypeId Outline := ⟨type⟩

instance : Inhabited Outline := ⟨absent⟩

/-- The outline of what may be absent. -/
def opt (of : α → Outline) : Option α → Outline
  | some value => of value
  | none => absent

/-- The outlines of several values. -/
def each (of : α → Outline) (values : List α) : Outline := list (values.map of)

/-- The outline of several numbers. -/
def numbers (values : List Nat) : Outline := each (fun value : Nat => number value) values

/-- The fields of a record. -/
def fields : Outline → List (String × Outline)
  | record fields => fields
  | _ => []

end Outline

end FrontEnd
