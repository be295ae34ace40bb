import Mathlib
import FrontEnd.Proofs.Build.Names
import FrontEnd.Proofs.Build.Silence
import FrontEnd.Proofs.Declaration.Bodies
import FrontEnd.Proofs.Layout.Completeness

/-!
Bodies in a build. The modules of a build are declared one after the other in the tables of the
session, and no definition is left without a body. So between builds every definition has one, and
no nominal type that a module exports is ever found to be incomplete.
-/

namespace FrontEnd

/-- The types that are exported live, and no name is exported twice. -/
structure Exports.Sound (exports : Exports) (ctx : TypeContext) : Prop where
  live : exports.Live ctx
  apart : ∀ name ∈ exports.types, name ∉ exports.templates

theorem Exports.sound_empty (ctx : TypeContext) : Exports.Sound {} ctx where
  live name ty found := by simp at found
  apart name member := by simp at member

namespace Building

variable {building : Building}

/-- What holds between turns: every definition has a body, and types that were given out live. -/
structure Sound (building : Building) : Prop where
  living : building.types.Living
  whole : building.types.Whole
  exports : ∀ (index : Nat) m, building.modules[index]? = some m → m.exports.Sound building.types

theorem Sound.imports (sound : building.Sound) (m : Module) :
    ∀ exports ∈ building.importsOf m, exports.Live building.types := by
  intro exports member
  obtain ⟨target, -, imported⟩ := List.mem_filterMap.1 member
  obtain ⟨m, found, rfl⟩ := Option.map_eq_some_iff.1 imported
  exact (sound.exports target m found).live

/-- Each turn leaves every definition with a body. -/
theorem Sound.declare (sound : building.Sound) (names : Interner) (index : Nat) :
    (building.declare names index).Sound := by
  unfold Building.declare
  split
  · exact sound
  · split
    · exact sound
    · split
      · refine ⟨sound.living, sound.whole, fun other m found => ?_⟩
        simp only [Modules.block, Array.getElem?_modify] at found
        split at found
        · obtain ⟨before, stored, rfl⟩ := Option.map_eq_some_iff.1 found
          exact sound.exports other before stored
        · exact sound.exports other m found
      · split
        · rename_i m _ _ _ _ tree _
          let source : ModuleSource := ⟨names, tree, building.importsOf m⟩
          obtain ⟨whole, apart⟩ :=
            declareModule_whole source m.queue sound.living.indexed sound.whole
          obtain ⟨living, lasting, live⟩ :=
            declareModule_live source m.queue sound.living sound.whole (sound.imports m)
          refine ⟨living, whole, fun other m' found => ?_⟩
          simp only [declareTree, Array.getElem?_modify] at found
          split at found
          · obtain ⟨before, stored, rfl⟩ := Option.map_eq_some_iff.1 found
            exact ⟨live, apart⟩
          · have own := sound.exports other m' found
            exact ⟨fun name ty found => lasting ty (own.live name ty found), own.apart⟩
        · exact sound

theorem Sound.foldl (sound : building.Sound) (names : Interner) (order : List Nat) :
    (order.foldl (Building.declare names) building).Sound := by
  induction order generalizing building with
  | nil => exact sound
  | cons index rest ih => exact ih (sound.declare names index)

end Building

namespace Session

variable {session : Session} {modules : Modules}

theorem sound_process (bare : Bare modules) (living : session.types.Living)
    (whole : session.types.Whole) : (session.process modules).1.Sound := by
  refine Building.Sound.foldl ⟨living, whole, fun index m found => ?_⟩ session.names _
  rw [exports_settled bare index m found]
  exact Exports.sound_empty _

/-- After a build every definition has a body, and what the modules export is sound. -/
theorem sound_build (living : session.types.Living) (whole : session.types.Whole) (lexer : Lexer)
    (parser : Parser) (ids : List SourceId) :
    (session.build lexer parser ids).2.types.Living ∧
      (session.build lexer parser ids).2.types.Whole ∧
      ∀ m ∈ (session.build lexer parser ids).1.modules,
        m.exports.Sound (session.build lexer parser ids).2.types := by
  obtain ⟨modules, parsed, -, bare, types, made, -, last⟩ := session.exists_parsesTo lexer parser ids
  have sound := sound_process bare (types ▸ living) (types ▸ whole)
  rw [last]
  refine ⟨sound.living, sound.whole, fun m listed => ?_⟩
  rw [made] at listed
  obtain ⟨stored, among, rfl⟩ := List.mem_map.1 listed
  obtain ⟨index, found⟩ := List.getElem?_of_mem among
  rw [Array.getElem?_toList] at found
  exact sound.exports index stored found

/-- Sessions that builds lead to. What else happens to a session leaves its tables alone. -/
inductive Built : Session → Prop where
  | new (config : SessionConfig) : Built (.new config)
  | between {session next : Session} (built : Built session) (same : next.types = session.types) :
    Built next
  | build {session : Session} (built : Built session) (lexer : Lexer) (parser : Parser)
    (ids : List SourceId) : Built (session.build lexer parser ids).2

theorem Built.sound (built : Built session) : session.types.Living ∧ session.types.Whole := by
  induction built with
  | new config =>
    refine ⟨TypeContext.living_initial config.types, fun id entry live => ?_⟩
    simp [Session.new, TypeRegistry.get?] at live
  | between built same ih => exact same ▸ ih
  | build built lexer parser ids ih =>
    obtain ⟨living, whole, -⟩ := sound_build ih.1 ih.2 lexer parser ids
    exact ⟨living, whole⟩

/-- No definition is left without a body. Whatever a module declares and imports, and whatever errors
are found in it, every definition has a body after it if every definition had one before it, and no
name is exported both as a type and as a template. Where what was given out before lives, this is so
afterwards, and the definition behind each nominal type that is exported is live. So after any build
no layout of any type is refused because a nominal type that a module exports is incomplete. -/
theorem build_bodies :
    (∀ (source : ModuleSource) (types : TypeContext) (queue : DiagnosticQueue), types.Indexed →
      types.Whole →
      let made := declareModule source types queue
      made.types.Whole ∧ (∀ name ∈ made.exports.types, name ∉ made.exports.templates) ∧
      (types.Living → (∀ exports ∈ source.imports, exports.Live types) →
        made.types.Living ∧ made.exports.Live made.types ∧
        ∀ (name : Name) ty kind id, made.exports.types[name]? = some ty →
          made.types.pool.form? (made.types.pool.unqualified ty) = some (.nominal kind id) →
          made.types.Complete ty)) ∧
    ∀ session, Built session → ∀ (lexer : Lexer) (parser : Parser) (ids : List SourceId),
      let report := (session.build lexer parser ids).1
      let after := (session.build lexer parser ids).2
      after.types.Whole ∧ ∀ m ∈ report.modules,
        (∀ name ∈ m.exports.types, name ∉ m.exports.templates) ∧
        ∀ (name : Name) ty kind id, m.exports.types[name]? = some ty →
          after.types.pool.form? (after.types.pool.unqualified ty) = some (.nominal kind id) →
          ∀ other, (after.types.layoutOf other).1 ≠ .error (.incompleteType ty) ∧
            (after.types.recordLayoutOf other).1 ≠ .error (.incompleteType ty) := by
  constructor
  · intro source types queue indexed whole made
    obtain ⟨whole', apart⟩ := declareModule_whole source queue indexed whole
    refine ⟨whole', apart, fun living imports => ?_⟩
    obtain ⟨living', -, live⟩ := declareModule_live source queue living whole imports
    exact ⟨living', live, fun name ty kind id found nominal =>
      (live name ty found).complete living'.indexed whole' nominal⟩
  · intro session built lexer parser ids
    obtain ⟨living, whole⟩ := built.sound
    obtain ⟨living', whole', sound⟩ := sound_build living whole lexer parser ids
    refine ⟨whole', fun m listed => ⟨(sound m listed).apart, fun name ty kind id found nominal => ?_⟩⟩
    have complete := ((sound m listed).live name ty found).complete living'.indexed whole' nominal
    exact fun other => ⟨complete.layoutOf other, complete.recordLayoutOf other⟩

/-- The name of the one structure. -/
def structureName : Name := ⟨⟨0, by decide⟩, ⟨1, by decide⟩⟩

/-- A module with one structure, which has no members. -/
def oneStructure : ModuleSource where
  names := .bare
  tree := {
    source := default
    root := ⟨1⟩
    nodes := #[
      ⟨.structureDefinition, default, .definition { name := structureName }, [], some ⟨1⟩⟩,
      ⟨.module, default, .module .empty, [⟨0⟩], none⟩]
    deterministic := #[true, true] }
  imports := []

/-- A parser that finds the one structure in every source. -/
def structureParser : Parser := ⟨fun names _ _ => ({ tree := some oneStructure.tree }, names)⟩

/-- The types that modules export under the name of the one structure, and the form of a type. -/
private def structureIn (made : BuildReport × Session) (ty : TypeId) :
    List (Option TypeId) × Option TypeForm :=
  (made.1.modules.map (·.exports.types[structureName]?),
    made.2.types.pool.form? (made.2.types.pool.unqualified ty))

private theorem structureIn_build :
    structureIn (ofOneSource.build emptyLexer structureParser [⟨0⟩]) ⟨13⟩ =
      ([some ⟨13⟩], some (.nominal .struct ⟨0⟩)) := by cbv

/-- The one structure is complete after it is declared, and in a session that builds it. -/
theorem build_bodies_of_structure :
    (∃ ty, (declareModule oneStructure {} {}).exports.types[structureName]? = some ty ∧
      (declareModule oneStructure {} {}).types.Complete ty) ∧
    ∃ m ty, (ofOneSource.build emptyLexer structureParser [⟨0⟩]).1.modules = [m] ∧
      m.exports.types[structureName]? = some ty ∧
      ((ofOneSource.build emptyLexer structureParser [⟨0⟩]).2.types.layoutOf ty).1 ≠
        .error (.incompleteType ty) := by
  have living := TypeContext.living_initial {}
  have whole : TypeContext.Whole {} := fun id entry live => by simp [TypeRegistry.get?] at live
  have built : Built ofOneSource := .between (.new {}) rfl
  constructor
  · obtain ⟨-, -, live⟩ := build_bodies.1 oneStructure {} {} living.indexed whole
    obtain ⟨-, -, complete⟩ := live living (by simp [oneStructure])
    exact ⟨⟨13⟩, by cbv, complete structureName ⟨13⟩ .struct ⟨0⟩ (by cbv) (by cbv)⟩
  · have known := structureIn_build
    have sound := build_bodies.2 ofOneSource built emptyLexer structureParser [⟨0⟩]
    -- From here on it does not matter how the report was made.
    generalize ofOneSource.build emptyLexer structureParser [⟨0⟩] = made at known sound ⊢
    obtain ⟨exported, nominal⟩ := Prod.mk.inj known
    obtain ⟨m, only, found⟩ := List.map_eq_singleton_iff.1 exported
    obtain ⟨-, complete⟩ := sound.2 m (by rw [only]; exact List.mem_singleton_self m)
    exact ⟨m, ⟨13⟩, only, found, (complete structureName ⟨13⟩ .struct ⟨0⟩ found nominal ⟨13⟩).1⟩

end Session

end FrontEnd
