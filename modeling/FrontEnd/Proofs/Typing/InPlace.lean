import FrontEnd.Proofs.Typing.Registry
import FrontEnd.Proofs.Typing.Sharding
import FrontEnd.Typing.Registry
import Mathlib.Data.Fintype.Card

/-!
The registry of definitions where it is changed in place. What a call does there is what it does to
a registry on its own: definitions know their ids, names lead to those that are live, and the pool
is full before the bits of an id do not suffice.
-/

namespace FrontEnd

/-! ### Names -/

/-- The name under which a definition is found. -/
def TypeDef.indexName? (entry : TypeDef) : Option Name :=
  if entry.specialization.isNone then entry.name else none

theorem ite_isNone_eq_some {α β : Type} {special : Option α} {named : Option β} {name : β} :
    (if special.isNone then named else none) = some name ↔ named = some name ∧ special = none := by
  cases special <;> simp

theorem TypeDef.indexName?_eq_some {entry : TypeDef} {name : Name} :
    entry.indexName? = some name ↔ entry.name = some name ∧ entry.specialization = none :=
  ite_isNone_eq_some

theorem DefRequest.indexName?_eq_some {request : DefRequest} {name : Name} :
    request.indexName? = some name ↔ request.name = some name ∧ request.specialization = none :=
  ite_isNone_eq_some

namespace TypeRegistry

variable {registry after : TypeRegistry} {request : DefRequest} {type : TypeId} {id : DefId}
  {name : Name} {body : DefBody} {entry : TypeDef}

/-- What holds of every registry: definitions know their ids, and a name leads to the one live
definition that is found under it. -/
structure Sound (registry : TypeRegistry) : Prop where
  numbered : ∀ id entry, registry.get? id = some entry → entry.id = id
  named : ∀ (name : Name) id, registry.names[name]? = some id ↔
    ∃ entry, registry.get? id = some entry ∧ entry.indexName? = some name

theorem Sound.empty : Sound {} where
  numbered id entry live := by simp [get?] at live
  named name id := by simp [get?]

theorem checkName_eq_ok : registry.checkName request = .ok () ↔
    ∀ name, request.indexName? = some name → registry.names[name]? = none := by
  unfold checkName
  split
  · simp [*]
  · rename_i name indexed
    split <;> simp only [*, reduceCtorEq, Option.some.injEq, forall_eq']

theorem getElem?_names_push : (registry.push request type).2.names[name]? =
    if request.indexName? = some name then some registry.nextId else registry.names[name]? := by
  simp only [push]
  split
  · rename_i own indexed
    simp [indexed, Std.HashMap.getElem?_insert]
  · rename_i unnamed
    simp [unnamed]

theorem get?_nextId (registry : TypeRegistry) : registry.get? registry.nextId = none := by
  simp [get?, nextId]

theorem Sound.push (sound : registry.Sound) (free : registry.checkName request = .ok ()) :
    (registry.push request type).2.Sound where
  numbered id entry live := by
    rw [get?_push] at live
    split at live
    · rename_i last
      cases live
      exact last.symm
    · exact sound.numbered id entry live
  named name id := by
    rw [getElem?_names_push, get?_push]
    by_cases own : request.indexName? = some name <;> by_cases last : id = registry.nextId
    · have same : (registry.pushed request type).indexName? = some name := own
      simp [own, last, same]
    · -- no other definition is found under the name, which was free
      have taken : ¬ ∃ entry, registry.get? id = some entry ∧ entry.indexName? = some name := by
        rw [← sound.named, checkName_eq_ok.1 free name own]
        simp
      simpa [own, last, eq_comm] using taken
    · have fresh : registry.names[name]? ≠ some registry.nextId := by
        rw [Ne, sound.named, get?_nextId]
        simp
      have other : (registry.pushed request type).indexName? ≠ some name := own
      simp [own, last, fresh, other]
    · simp [own, last, sound.named]

theorem Sound.define (sound : registry.Sound) (defined : registry.define id body = .ok after) :
    after.Sound := by
  obtain ⟨entry, live, -, names, -, found⟩ := define_ok defined
  constructor
  case numbered =>
    intro other stored there
    rw [found] at there
    split at there
    · rename_i same
      cases there
      exact (sound.numbered id entry live).trans same.symm
    · exact sound.numbered other stored there
  case named =>
    intro name other
    rw [names, found, sound.named]
    split
    · rename_i same
      simp [same, live, TypeDef.indexName?]
    · rfl

/-- Withdrawing succeeds exactly for a live definition, and takes it away with its name. -/
theorem withdraw_ok (withdrawn : registry.withdraw id = .ok after) :
    ∃ entry, registry.get? id = some entry ∧ after.defs.size = registry.defs.size ∧
      after.names = registry.namesWithout id entry.name ∧
      ∀ other, after.get? other = if other = id then none else registry.get? other := by
  cases live : registry.get? id with
  | none => simp [withdraw, live] at withdrawn
  | some entry =>
    obtain ⟨_, given, size, names, found⟩ := withdraw_live live
    cases given.symm.trans withdrawn
    exact ⟨entry, rfl, size, names, found⟩

theorem Sound.withdraw (sound : registry.Sound) (withdrawn : registry.withdraw id = .ok after) :
    after.Sound := by
  obtain ⟨entry, live, -, names, found⟩ := withdraw_ok withdrawn
  constructor
  case numbered =>
    intro other stored there
    rw [found] at there
    split at there
    · cases there
    · exact sound.numbered other stored there
  case named =>
    intro name other
    rw [names, getElem?_namesWithout, found]
    by_cases leads : entry.name = some name ∧ registry.names[name]? = some id
    · by_cases same : other = id
      · simp [leads, same]
      · have elsewhere : registry.names[name]? ≠ some other := by
          rw [leads.2]
          simpa using Ne.symm same
        simpa [leads, same] using (not_congr (sound.named name other)).1 elsewhere
    · by_cases same : other = id
      · subst same
        have away : registry.names[name]? ≠ some other := by
          intro there
          obtain ⟨stored, here, indexed⟩ := (sound.named name other).1 there
          cases live.symm.trans here
          exact leads ⟨(TypeDef.indexName?_eq_some.1 indexed).1, there⟩
        simp [away]
      · rw [if_neg leads, if_neg same]
        exact sound.named name other

theorem getElem?_defs_of_get? (live : registry.get? id = some entry) :
    registry.defs[id.index]? = some (some entry) := by
  simpa [get?, Option.join_eq_some_iff] using live

/-- Nothing changes where a place is given what it holds. -/
theorem modify_defs {index : Nat} {place : Option TypeDef}
    (stored : registry.defs[index]? = some place) :
    registry.defs.modify index (fun _ => place) = registry.defs := by
  apply Array.ext_getElem?
  intro other
  rw [Array.getElem?_modify]
  split
  · rename_i same
    rw [← same, stored, Option.map_some]
  · rfl

end TypeRegistry

namespace ShardedPool

variable {hash : TypeForm → Nat} {pool after : ShardedPool} {form : TypeForm} {ty : TypeId}

theorem index_lt (there : pool.form? ty = some form) : ty.index < 16 * TypeId.shardSize := by
  obtain ⟨index, same, -⟩ := exists_shard there
  have below : ty.shard < 16 := same ▸ index.isLt
  simp only [TypeId.shard, TypeId.shardSize] at below ⊢
  omega

theorem form?_void (sound : pool.Sound hash) : pool.form? .void = some .void := by
  rw [form?_eq .void 0 rfl, sound.first]
  rfl

/-- A pool that takes a form holds it, and everything that it held. -/
theorem intern_grows (sound : pool.Sound hash) (made : pool.intern hash form = .ok (ty, after)) :
    after.Sound hash ∧ after.form? ty = some form ∧
      ∀ other stored, pool.form? other = some stored → after.form? other = some stored := by
  have made : (table hash).intern pool form = some (ty, after) := by
    simp only [table, made, Except.toOption]
  have lawful := table_lawful hash
  exact ⟨lawful.stays sound made, lawful.found sound made, fun _ _ => lawful.kept sound made⟩

end ShardedPool

/-! ### Calls and answers -/

/-- A call of a registry. The last kind is that of others who share the pool. -/
inductive RegistryCall where
  | declare (request : DefRequest)
  | define (id : DefId) (body : DefBody)
  | withdraw (id : DefId)
  | intern (form : TypeForm)

/-- How a call ends. -/
inductive RegistryAnswer where
  | declared (entry : TypeDef)
  | defined
  | withdrawn
  | interned (ty : TypeId)
  | stopped (cause : RegistryStop)

namespace RegistryAnswer

/-- The answer to a call that may have a result. -/
def ofResult (done : α → RegistryAnswer) : Except RegistryStop α → RegistryAnswer
  | .ok value => done value
  | .error cause => .stopped cause

end RegistryAnswer

/-- Calls with their answers, in the order in which they were made. -/
abbrev RegistryHistory := List (RegistryCall × RegistryAnswer)

namespace SharedRegistry

/-- The answer to one call, and what there is after it. -/
def perform (hash : TypeForm → Nat) (shared : SharedRegistry) :
    RegistryCall → RegistryAnswer × SharedRegistry
  | .declare request => (shared.declare hash request).map (.ofResult .declared) id
  | .define own body => (shared.define own body).map (.ofResult fun () => .defined) id
  | .withdraw own => (shared.withdraw own).map (.ofResult fun () => .withdrawn) id
  | .intern form => (shared.intern hash form).map (.ofResult .interned) id

/-- Calls one after the other with their answers, and what there is after them. -/
def run (hash : TypeForm → Nat) (shared : SharedRegistry) :
    List RegistryCall → RegistryHistory × SharedRegistry
  | [] => ([], shared)
  | call :: rest =>
    let (answer, next) := shared.perform hash call
    let (history, last) := next.run hash rest
    ((call, answer) :: history, last)

/-- The calls with their answers. -/
def history (hash : TypeForm → Nat) (shared : SharedRegistry) (calls : List RegistryCall) :
    RegistryHistory := (shared.run hash calls).1

/-- What there is after the calls. -/
def after (hash : TypeForm → Nat) (shared : SharedRegistry) (calls : List RegistryCall) :
    SharedRegistry := (shared.run hash calls).2

theorem history_cons (hash : TypeForm → Nat) (shared : SharedRegistry) (call : RegistryCall)
    (rest : List RegistryCall) : shared.history hash (call :: rest) =
      (call, (shared.perform hash call).1) :: (shared.perform hash call).2.history hash rest := rfl

theorem after_cons (hash : TypeForm → Nat) (shared : SharedRegistry) (call : RegistryCall)
    (rest : List RegistryCall) :
    shared.after hash (call :: rest) = (shared.perform hash call).2.after hash rest := rfl

theorem after_append (hash : TypeForm → Nat) (shared : SharedRegistry)
    (first second : List RegistryCall) :
    shared.after hash (first ++ second) = (shared.after hash first).after hash second := by
  induction first generalizing shared with
  | nil => rfl
  | cons call rest ih => exact ih _

end SharedRegistry

/-- What one call does to the definitions. -/
inductive RegistryStep (before : TypeRegistry) :
    RegistryCall → RegistryAnswer → TypeRegistry → Prop where
  | declared {request} (free : before.checkName request = .ok ()) (type : TypeId) :
      RegistryStep before (.declare request) (.declared (before.pushed request type))
        (before.push request type).2
  | defined {id body after} (given : before.define id body = .ok after) :
      RegistryStep before (.define id body) .defined after
  | withdrawn {id after} (taken : before.withdraw id = .ok after) :
      RegistryStep before (.withdraw id) .withdrawn after
  | interned {form} (type : TypeId) : RegistryStep before (.intern form) (.interned type) before
  | stopped {call} (cause : RegistryStop) : RegistryStep before call (.stopped cause) before

/-! ### Registries in place -/

namespace SharedRegistry

variable {hash : TypeForm → Nat} {shared : SharedRegistry} {request : DefRequest} {id : DefId}
  {body : DefBody} {entry : TypeDef}

/-- What holds of every registry in use: the type of every definition that was ever declared is in
the pool. -/
structure Sound (hash : TypeForm → Nat) (shared : SharedRegistry) : Prop where
  pool : shared.pool.Sound hash
  registry : shared.registry.Sound
  typed : ∀ id : DefId, id.index < shared.registry.defs.size →
    ∃ kind ty, shared.pool.form? ty = some (.nominal kind id)

theorem sound_new (hash : TypeForm → Nat) : Sound hash {} where
  pool := ShardedPool.sound_new hash
  registry := .empty
  typed _ issued := absurd issued (Nat.not_lt_zero _)

/-- The pool is full before the bits of ids do not suffice. -/
theorem size_lt (sound : shared.Sound hash) :
    shared.registry.defs.size < 16 * TypeId.shardSize := by
  choose kind type there using fun index : Fin shared.registry.defs.size =>
    sound.typed ⟨index⟩ index.isLt
  let place (index : Fin shared.registry.defs.size) : Fin (16 * TypeId.shardSize) :=
    ⟨(type index).index, ShardedPool.index_lt (there index)⟩
  have distinct : Function.Injective place := by
    intro first second same
    have same : type first = type second := congrArg TypeId.mk (Fin.mk.inj same)
    have forms := (there first).symm.trans (same ▸ there second)
    have ids : kind first = kind second ∧ first = second := by simpa [Fin.ext_iff] using forms
    exact ids.2
  have void : (⟨0, by decide⟩ : Fin (16 * TypeId.shardSize)) ∉ Set.range place := by
    rintro ⟨index, same⟩
    have same : type index = .void := congrArg TypeId.mk (Fin.mk.inj same)
    have form := ShardedPool.form?_void sound.pool
    rw [← same, there index] at form
    cases form
  simpa using Fintype.card_lt_of_injective_of_notMem place distinct void

theorem freshId_eq (sound : shared.Sound hash) : shared.freshId = shared.registry.nextId := by
  have few := size_lt sound
  simp only [TypeId.shardSize] at few
  simp only [freshId, DefId.last, TypeRegistry.nextId, DefId.mk.injEq]
  omega

/-- How a declaration ends: its name is taken, or there is no room for its type, or it adds one
definition, as to a registry on its own. -/
theorem declare_cases (sound : shared.Sound hash) (request : DefRequest) :
    (∃ err, shared.registry.checkName request = .error err ∧
      shared.declare hash request = (.error (.refused err), shared)) ∨
    (shared.registry.checkName request = .ok () ∧
      ∃ err, shared.declare hash request = (.error (.full err), shared)) ∨
    (shared.registry.checkName request = .ok () ∧ ∃ type pool,
      shared.pool.intern hash (.nominal request.kind shared.registry.nextId) = .ok (type, pool) ∧
      shared.declare hash request = (.ok (shared.registry.pushed request type),
        ⟨(shared.registry.push request type).2, pool⟩)) := by
  rw [← freshId_eq sound]
  cases free : shared.registry.checkName request with
  | error err => exact .inl ⟨err, rfl, by simp only [declare, free]⟩
  | ok _ =>
    cases room : shared.pool.intern hash (.nominal request.kind shared.freshId) with
    | error err => exact .inr (.inl ⟨rfl, err, by simp only [declare, free, room]⟩)
    | ok made =>
      refine .inr (.inr ⟨rfl, made.1, made.2, rfl, ?_⟩)
      simp only [declare, free, room]
      rw [freshId_eq sound]
      rfl

/-- A body is given in place as it is given to a registry on its own. -/
theorem define_eq (shared : SharedRegistry) (id : DefId) (body : DefBody) :
    shared.define id body = match shared.registry.define id body with
      | .ok registry => (.ok (), { shared with registry })
      | .error err => (.error (.refused err), shared) := by
  cases live : shared.registry.get? id with
  | none => simp only [define, TypeRegistry.define, live]
  | some entry =>
    cases filled : entry.body with
    | none => simp only [define, TypeRegistry.define, TypeDef.fill, live, filled, if_true]
    | some _ =>
      have same := TypeRegistry.modify_defs (TypeRegistry.getElem?_defs_of_get? live)
      simp [define, TypeRegistry.define, TypeDef.fill, live, filled, same]

/-- A definition is withdrawn in place as it is withdrawn from a registry on its own. -/
theorem withdraw_eq (shared : SharedRegistry) (id : DefId) :
    shared.withdraw id = match shared.registry.withdraw id with
      | .ok registry => (.ok (), { shared with registry })
      | .error err => (.error (.refused err), shared) := by
  unfold withdraw TypeRegistry.withdraw TypeRegistry.get?
  cases stored : shared.registry.defs[id.index]? with
  | none => rfl
  | some place =>
    cases place with
    | none =>
      have same := TypeRegistry.modify_defs stored
      simp [same]
    | some entry => rfl

/-- Whatever a call does to the definitions is one of the steps, and the registry stays sound. -/
theorem Sound.perform (sound : shared.Sound hash) (call : RegistryCall) :
    RegistryStep shared.registry call (shared.perform hash call).1
        (shared.perform hash call).2.registry ∧
      (shared.perform hash call).2.Sound hash := by
  cases call with
  | declare request =>
    rw [SharedRegistry.perform]
    obtain ⟨err, -, ended⟩ | ⟨-, err, ended⟩ | ⟨free, type, pool, room, ended⟩ :=
      declare_cases sound request <;> rw [ended]
    · exact ⟨.stopped _, sound⟩
    · exact ⟨.stopped _, sound⟩
    · obtain ⟨pool_sound, there, kept⟩ := ShardedPool.intern_grows sound.pool room
      refine ⟨.declared free type, pool_sound, sound.registry.push free, fun id issued => ?_⟩
      have issued : id.index < shared.registry.defs.size + 1 :=
        TypeRegistry.size_push request type ▸ issued
      rcases Nat.lt_succ_iff_lt_or_eq.1 issued with old | last
      · obtain ⟨kind, ty, stored⟩ := sound.typed id old
        exact ⟨kind, ty, kept ty _ stored⟩
      · have last : id = shared.registry.nextId := congrArg DefId.mk last
        exact ⟨request.kind, type, last ▸ there⟩
  | define id body =>
    rw [SharedRegistry.perform, define_eq]
    cases given : shared.registry.define id body with
    | error err => exact ⟨.stopped _, sound⟩
    | ok registry =>
      obtain ⟨-, -, -, -, size, -⟩ := TypeRegistry.define_ok given
      exact ⟨.defined given, sound.pool, sound.registry.define given,
        fun own issued => sound.typed own (size ▸ issued)⟩
  | withdraw id =>
    rw [SharedRegistry.perform, withdraw_eq]
    cases taken : shared.registry.withdraw id with
    | error err => exact ⟨.stopped _, sound⟩
    | ok registry =>
      obtain ⟨-, -, size, -, -⟩ := TypeRegistry.withdraw_ok taken
      exact ⟨.withdrawn taken, sound.pool, sound.registry.withdraw taken,
        fun own issued => sound.typed own (size ▸ issued)⟩
  | intern form =>
    rw [SharedRegistry.perform, SharedRegistry.intern]
    cases room : shared.pool.intern hash form with
    | error err => exact ⟨.stopped _, sound⟩
    | ok made =>
      obtain ⟨type, pool⟩ := made
      obtain ⟨pool_sound, -, kept⟩ := ShardedPool.intern_grows sound.pool room
      refine ⟨.interned type, pool_sound, sound.registry, fun id issued => ?_⟩
      obtain ⟨kind, ty, stored⟩ := sound.typed id issued
      exact ⟨kind, ty, kept ty _ stored⟩

theorem Sound.after (sound : shared.Sound hash) (calls : List RegistryCall) :
    (shared.after hash calls).Sound hash := by
  induction calls generalizing shared with
  | nil => exact sound
  | cons call rest ih => exact ih (sound.perform call).2

end SharedRegistry

end FrontEnd
