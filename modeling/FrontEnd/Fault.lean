/-!
What errors have in common: a name by which tools tell causes apart, and a wording for people.
-/

namespace FrontEnd

/-- The causes of one kind of refusal. -/
class Fault (ε : Type) where
  /-- A stable name of the cause. -/
  label : ε → String
  /-- The wording. -/
  message : ε → String
  /-- Whether the caller broke a rule that it could have kept. -/
  isMisuse : ε → Bool := fun _ => false

end FrontEnd
