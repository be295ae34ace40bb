import FrontEnd.Proofs.Typing.InPlace

/-!
Definitions over the calls of a registry: those that declare, those that define and those that
withdraw, in any order, each of which may be refused. What is live after them, what it contains and
how it is found can be read off the calls and their answers.
-/

namespace FrontEnd

/-! ### What a history tells -/

namespace RegistryHistory

/-- The ids that were issued. -/
def issued (history : RegistryHistory) : List DefId :=
  history.filterMap fun
    | (_, .declared entry) => some entry.id
    | _ => none

/-- The bodies that were given to a definition. -/
def bodies (history : RegistryHistory) (id : DefId) : List DefBody :=
  history.filterMap fun
    | (.define other body, .defined) => if other = id then some body else none
    | _ => none

/-- A definition was withdrawn. -/
def Withdrawn (history : RegistryHistory) (id : DefId) : Prop :=
  (.withdraw id, .withdrawn) ∈ history

variable {history : RegistryHistory} {before after : TypeRegistry} {call : RegistryCall}
  {answer : RegistryAnswer} {id : DefId} {entry : TypeDef}

theorem issued_append (first second : RegistryHistory) :
    issued (first ++ second) = issued first ++ issued second := List.filterMap_append

theorem bodies_append (first second : RegistryHistory) (id : DefId) :
    bodies (first ++ second) id = bodies first id ++ bodies second id := List.filterMap_append

theorem bodies_cons (first : RegistryCall × RegistryAnswer) (rest : RegistryHistory) (id : DefId) :
    bodies (first :: rest) id = bodies [first] id ++ bodies rest id := bodies_append [first] rest id

theorem bodies_defined (own id : DefId) (body : DefBody) :
    bodies [(.define own body, .defined)] id = if own = id then [body] else [] := by
  by_cases same : own = id <;> simp [bodies, same]

@[simp] theorem bodies_stopped (call : RegistryCall) (cause : RegistryStop) (id : DefId) :
    bodies [(call, .stopped cause)] id = [] := by
  cases call <;> rfl

/-- A history accounts for the ids and the bodies of a registry. -/
structure Accounts (history : RegistryHistory) (registry : TypeRegistry) : Prop where
  issued : history.issued = (List.range registry.defs.size).map DefId.mk
  filled : ∀ id entry, registry.get? id = some entry → history.bodies id = entry.body.toList
  once : ∀ id, (history.bodies id).length ≤ 1
  early : ∀ id : DefId, registry.defs.size ≤ id.index → history.bodies id = []

theorem Accounts.empty : Accounts [] {} where
  issued := rfl
  filled id entry live := by simp [TypeRegistry.get?] at live
  once _ := Nat.zero_le _
  early _ _ := rfl

/-- A step that issues no id and gives no body leaves the account as it is. -/
theorem Accounts.quiet (accounts : history.Accounts before)
    (size : after.defs.size = before.defs.size)
    (old : ∀ id entry, after.get? id = some entry → before.get? id = some entry)
    (unissued : RegistryHistory.issued [(call, answer)] = [])
    (unfilled : ∀ id, bodies [(call, answer)] id = []) :
    (history ++ [(call, answer)]).Accounts after := by
  constructor
  case issued => rw [issued_append, unissued, List.append_nil, size, accounts.issued]
  all_goals simp only [bodies_append, unfilled, List.append_nil]
  case filled => exact fun id entry live => accounts.filled id entry (old id entry live)
  case once => exact accounts.once
  case early => exact fun id beyond => accounts.early id (size ▸ beyond)

/-- The history goes on to account for the registry, whatever is done to it. -/
theorem Accounts.step (accounts : history.Accounts before)
    (step : RegistryStep before call answer after) :
    (history ++ [(call, answer)]).Accounts after := by
  cases step with
  | stopped cause => exact accounts.quiet rfl (fun _ _ live => live) rfl (by simp)
  | interned type => exact accounts.quiet rfl (fun _ _ live => live) rfl (fun _ => rfl)
  | withdrawn taken =>
    obtain ⟨_, -, size, -, found⟩ := TypeRegistry.withdraw_ok taken
    refine accounts.quiet size (fun id entry live => ?_) rfl (fun _ => rfl)
    rw [found] at live
    split at live
    · cases live
    · exact live
  | @declared request free type =>
    have unfilled (id : DefId) : bodies (history ++ [(.declare request,
        .declared (before.pushed request type))]) id = bodies history id := by
      rw [bodies_append]
      exact List.append_nil _
    constructor
    case issued =>
      rw [issued_append, accounts.issued, TypeRegistry.size_push, List.range_succ, List.map_append]
      rfl
    case filled =>
      intro id entry live
      rw [unfilled]
      rw [TypeRegistry.get?_push] at live
      split at live
      · rename_i last
        cases live
        exact accounts.early id (last ▸ Nat.le_refl _)
      · exact accounts.filled id entry live
    case once => exact fun id => unfilled id ▸ accounts.once id
    case early =>
      intro id beyond
      rw [TypeRegistry.size_push] at beyond
      rw [unfilled]
      exact accounts.early id (Nat.le_of_succ_le beyond)
  | @defined own body _ given =>
    obtain ⟨entry, live, bare, -, size, found⟩ := TypeRegistry.define_ok given
    have none_yet : history.bodies own = [] := by rw [accounts.filled own entry live, bare]; rfl
    constructor
    case issued =>
      rw [issued_append, accounts.issued, size]
      exact List.append_nil _
    case filled =>
      intro id stored there
      rw [found] at there
      rw [bodies_append, bodies_defined]
      split at there
      · rename_i same
        cases there
        rw [same, none_yet, if_pos rfl]
        rfl
      · rename_i other
        rw [if_neg (Ne.symm other), List.append_nil, accounts.filled id stored there]
    case once =>
      intro id
      rw [bodies_append, bodies_defined]
      by_cases same : own = id
      · rw [if_pos same, ← same, none_yet]
        exact Nat.le_refl 1
      · rw [if_neg same, List.append_nil]
        exact accounts.once id
    case early =>
      intro id beyond
      rw [size] at beyond
      have inside := TypeRegistry.lt_size_of_get? live
      have other : own ≠ id := fun same => by rw [same] at inside; omega
      rw [bodies_append, bodies_defined, if_neg other, accounts.early id beyond]
      rfl

end RegistryHistory

/-! ### What stays -/

namespace RegistryStep

open RegistryHistory

variable {before after : TypeRegistry} {call : RegistryCall} {answer : RegistryAnswer} {id : DefId}
  {entry : TypeDef}

theorem size_le (step : RegistryStep before call answer after) :
    before.defs.size ≤ after.defs.size := by
  cases step with
  | declared free type => rw [TypeRegistry.size_push]; exact Nat.le_succ _
  | defined given =>
    obtain ⟨-, -, -, -, size, -⟩ := TypeRegistry.define_ok given
    exact Nat.le_of_eq size.symm
  | withdrawn taken =>
    obtain ⟨-, -, size, -, -⟩ := TypeRegistry.withdraw_ok taken
    exact Nat.le_of_eq size.symm
  | interned type => exact Nat.le_refl _
  | stopped cause => exact Nat.le_refl _

/-- A live definition that a step does not withdraw only gets the body that it did not have. -/
theorem kept (step : RegistryStep before call answer after) (live : before.get? id = some entry)
    (stays : ¬ Withdrawn [(call, answer)] id) :
    after.get? id = some { entry with
      body := entry.body.or (bodies [(call, answer)] id).head? } := by
  have same : { entry with body := entry.body.or none } = entry := by rw [Option.or_none]
  cases step with
  | declared free type =>
    have old : id ≠ before.nextId := by
      rintro rfl
      rw [TypeRegistry.get?_nextId] at live
      cases live
    rw [TypeRegistry.get?_push, if_neg old, live]
    exact congrArg some same.symm
  | @defined own body _ given =>
    obtain ⟨found, there, bare, -, -, after_⟩ := TypeRegistry.define_ok given
    rw [after_, bodies_defined]
    by_cases this : own = id
    · subst this
      cases there.symm.trans live
      rw [if_pos rfl, if_pos rfl, bare]
      rfl
    · rw [if_neg (Ne.symm this), if_neg this, live]
      exact congrArg some same.symm
  | @withdrawn own _ taken =>
    obtain ⟨_, -, -, -, found⟩ := TypeRegistry.withdraw_ok taken
    have other : id ≠ own := by
      rintro rfl
      exact stays (List.mem_singleton.2 rfl)
    rw [found, if_neg other, live]
    exact congrArg some same.symm
  | interned type => rw [live]; exact congrArg some same.symm
  | stopped cause => rw [live, bodies_stopped]; exact congrArg some same.symm

/-- An id that was issued never comes back to life, and one that is withdrawn ends there. -/
theorem gone (step : RegistryStep before call answer after) (issued : id.index < before.defs.size)
    (dead : before.get? id = none ∨ Withdrawn [(call, answer)] id) : after.get? id = none := by
  cases step with
  | declared free type =>
    have dead : before.get? id = none := dead.resolve_right (by simp [Withdrawn])
    have old : id ≠ before.nextId := fun last => Nat.ne_of_lt issued (congrArg DefId.index last)
    rw [TypeRegistry.get?_push, if_neg old, dead]
  | @defined own body _ given =>
    have dead : before.get? id = none := dead.resolve_right (by simp [Withdrawn])
    obtain ⟨entry, live, -, -, -, found⟩ := TypeRegistry.define_ok given
    have other : id ≠ own := fun same => Option.some_ne_none _ (live.symm.trans (same ▸ dead))
    rw [found, if_neg other, dead]
  | @withdrawn own _ taken =>
    obtain ⟨_, -, -, -, found⟩ := TypeRegistry.withdraw_ok taken
    rw [found]
    rcases dead with dead | this
    · rw [dead, ite_self]
    · have this : id = own := by simpa [Withdrawn] using this
      rw [if_pos this]
  | interned type => exact dead.resolve_right (by simp [Withdrawn])
  | stopped cause => exact dead.resolve_right (by simp [Withdrawn])

end RegistryStep

namespace SharedRegistry

variable {hash : TypeForm → Nat} {shared : SharedRegistry} {id : DefId} {entry : TypeDef}

open RegistryHistory

theorem kept (sound : shared.Sound hash) (live : shared.registry.get? id = some entry)
    (calls : List RegistryCall) (stays : ¬ (shared.history hash calls).Withdrawn id) :
    (shared.after hash calls).registry.get? id = some { entry with
      body := entry.body.or ((shared.history hash calls).bodies id).head? } := by
  induction calls generalizing shared entry with
  | nil =>
    have same : entry.body.or none = entry.body := Option.or_none
    exact live.trans (by rw [history, run, bodies, List.filterMap_nil, List.head?_nil, same])
  | cons call rest ih =>
    obtain ⟨step, sound⟩ := sound.perform call
    rw [history_cons] at stays
    obtain ⟨now, later⟩ := not_or.1 (mt List.mem_cons.2 stays)
    have first := step.kept live (mt List.mem_singleton.1 now)
    have last := ih sound first later
    rw [after_cons, history_cons, bodies_cons, List.head?_append, ← Option.or_assoc]
    exact last

theorem gone (sound : shared.Sound hash) (issued : id.index < shared.registry.defs.size)
    (calls : List RegistryCall)
    (dead : shared.registry.get? id = none ∨ (shared.history hash calls).Withdrawn id) :
    (shared.after hash calls).registry.get? id = none := by
  induction calls generalizing shared with
  | nil => exact dead.resolve_right List.not_mem_nil
  | cons call rest ih =>
    obtain ⟨step, sound⟩ := sound.perform call
    refine ih sound (Nat.lt_of_lt_of_le issued step.size_le) ?_
    rcases dead with dead | this
    · exact .inl (step.gone issued (.inl dead))
    · rw [history_cons] at this
      rcases List.mem_cons.1 this with now | later
      · exact .inl (step.gone issued (.inr (List.mem_singleton.2 now)))
      · exact .inr later

/-- What is known of the definitions after calls, and how any further call would end. -/
structure Follows (hash : TypeForm → Nat) (past : RegistryHistory) (shared : SharedRegistry) :
    Prop where
  /-- Ids are issued from zero on, and to nothing but what is declared. -/
  issued : past.issued = (List.range shared.registry.defs.size).map DefId.mk
  /-- What is declared gets the next id, and has what was asked for but no body. -/
  declared : ∀ request entry,
    (shared.perform hash (.declare request)).1 = .declared entry →
      entry = {
        id := ⟨past.issued.length⟩, type := entry.type, name := request.name, kind := request.kind,
        locator := request.locator, specialization := request.specialization, body := none } ∧
      (shared.perform hash (.declare request)).2.registry.get? entry.id = some entry ∧
      (shared.perform hash (.declare request)).2.pool.form? entry.type =
        some (.nominal request.kind entry.id)
  /-- A declaration is refused exactly if neither it nor a live definition of its name is a
  specialization. -/
  duplicate : ∀ request cause,
    (shared.perform hash (.declare request)).1 = .stopped (.refused cause) ↔
      ∃ name entry, request.name = some name ∧ request.specialization = none ∧
        shared.registry.get? entry.id = some entry ∧ entry.name = some name ∧
        entry.specialization = none ∧ cause = .duplicate name entry.id
  /-- A live definition takes a body if it has none. -/
  defined : ∀ id body, (shared.perform hash (.define id body)).1 =
    match shared.registry.get? id with
    | none => .stopped (.refused (.unknownDef id))
    | some entry =>
      if entry.body.isNone then .defined else .stopped (.refused (.alreadyDefined id))
  /-- No definition was given two bodies. -/
  once : ∀ id, (past.bodies id).length ≤ 1
  /-- A live definition has the body that it was given. -/
  filled : ∀ id entry, shared.registry.get? id = some entry → past.bodies id = entry.body.toList
  /-- A live definition can be withdrawn. -/
  withdrawn : ∀ id, (shared.perform hash (.withdraw id)).1 =
    if (shared.registry.get? id).isSome then .withdrawn else .stopped (.refused (.unknownDef id))
  /-- Until it is, it stays what it is, but for a body that it did not have. -/
  kept : ∀ calls id entry, shared.registry.get? id = some entry →
    ¬ (shared.history hash calls).Withdrawn id →
    (shared.after hash calls).registry.get? id = some { entry with
      body := entry.body.or ((shared.history hash calls).bodies id).head? }
  /-- An id that was issued is that of no definition once the definition is withdrawn. -/
  gone : ∀ calls (id : DefId), id.index < past.issued.length →
    shared.registry.get? id = none ∨ (shared.history hash calls).Withdrawn id →
    (shared.after hash calls).registry.get? id = none
  /-- A name leads to the live definition of that name which is no specialization. -/
  found : ∀ name entry, shared.registry.findByName? name = some entry ↔
    shared.registry.get? entry.id = some entry ∧ entry.name = some name ∧
      entry.specialization = none
  /-- A call that has no result changes nothing. -/
  unchanged : ∀ call cause, (shared.perform hash call).1 = .stopped cause →
    (shared.perform hash call).2 = shared

/-- A name is free again when its definition is withdrawn, and the id of the definition is not. -/
example : let temp : DefRequest := { name := some .empty, kind := .struct }
    (history (fun _ => 0) {} [.declare temp, .declare temp, .withdraw ⟨0⟩, .define ⟨0⟩ {},
      .declare temp]).issued = [⟨0⟩, ⟨1⟩] := by
  cbv

end SharedRegistry

end FrontEnd
