/-!
Source ids number the files of a build.
-/

namespace FrontEnd

/-- The number of a source file, in the order of registration. Sixteen bits hold it. -/
structure SourceId where
  number : Fin 65536
  deriving DecidableEq, Hashable, Inhabited

namespace SourceId

/-- The id with a given number, if sixteen bits hold it. -/
def ofNat? (number : Nat) : Option SourceId :=
  if small : number < 65536 then some ⟨number, small⟩ else none

/-- An id as dumps show it. -/
def dump (id : SourceId) : String := s!"SourceId({id.number.val})"

theorem eq_iff_val {id other : SourceId} : id = other ↔ id.number.val = other.number.val :=
  ⟨fun same => by rw [same], fun same => congrArg SourceId.mk (Fin.ext same)⟩

end SourceId

end FrontEnd
