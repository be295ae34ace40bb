import FrontEnd.Source.Path

/-!
Stamps: what a module was built from. A later build compares stamps to see whether what it kept of
the module still holds.
-/

namespace FrontEnd

/-- How changes of a source are noticed. -/
inductive InvalidationPolicy where
  /-- By the time of the last change. -/
  | timestamp
  /-- By the time of the last change, and by the contents. -/
  | checksum
  deriving DecidableEq

namespace InvalidationPolicy

/-- The name of a policy. -/
def label : InvalidationPolicy → String
  | .timestamp => "Timestamp"
  | .checksum => "Checksum"

/-- The policy of a name. -/
def ofLabel? (label : String) : Option InvalidationPolicy :=
  [timestamp, checksum].find? fun policy => policy.label == label

/-- Contents are compared unless a session says otherwise. -/
instance : Inhabited InvalidationPolicy := ⟨checksum⟩

end InvalidationPolicy

/-- What a module was built from. -/
structure ModuleStamp where
  path : String
  /-- Seconds since 1970, if known. -/
  modified : Option Nat
  checksum : UInt64
  /-- The paths of the imported modules in import order. -/
  dependencies : List String
  deriving DecidableEq

namespace ModuleStamp

/-- Whether two stamps are of one path and name the same imports. -/
def sameInputs (current cached : ModuleStamp) : Bool :=
  Path.same current.path cached.path &&
    current.dependencies.map Path.components == cached.dependencies.map Path.components

/-- Whether the first stamp may be the younger one. A time that is not known may be any. -/
def mayBeNewer (current cached : ModuleStamp) : Bool :=
  match current.modified, cached.modified with
  | some now, some before => now > before
  | _, _ => true

end ModuleStamp

/-- Whether a module has to be built again, given the stamp of what was kept of it, if any. -/
def InvalidationPolicy.needsRebuild (policy : InvalidationPolicy) (current : ModuleStamp) :
    Option ModuleStamp → Bool
  | none => true
  | some cached =>
    !current.sameInputs cached || current.mayBeNewer cached ||
      (policy == .checksum && current.checksum != cached.checksum)

end FrontEnd
