import FrontEnd.Proofs.Declaration.Trailing
import FrontEnd.Proofs.Declaration.Nominal

/-!
Nominal definitions in another order. Where all of them are declared, each has an entry of its own in
the tables, without a body, and those with a name are exported under it and nothing else is. So
whatever the order is, the tables and exports hold the same in the end, under other numbers.
-/

namespace FrontEnd

open TypeContext (Behind)

variable {shift : Renaming}

namespace ModuleSource

variable {source : ModuleSource} {state one two after : Declaring} {definition : Definition}
  {kind : DefKind} {entry : TypeDef} {entries rest : List (Definition × TypeDef)}

/-- One of the definitions is exported under the name. -/
def Names (entries : List (Definition × TypeDef)) (name : Name) : Prop :=
  ∃ made ∈ entries, made.1.name = name ∧ name ≠ .empty

theorem names_cons {name : Name} : Names ((definition, entry) :: rest) name ↔
    (definition.name = name ∧ name ≠ .empty) ∨ Names rest name := by
  simp [Names]

/-- The definitions have entries of their own, which are exported under their names. -/
structure Lists (source : ModuleSource) (state : Declaring)
    (entries : List (Definition × TypeDef)) : Prop where
  live : ∀ made ∈ entries, state.types.registry.get? made.2.id = some made.2
  meets : ∀ made ∈ entries, ∃ kind, made.1.defKind? = some kind ∧
    made.2.Meets (source.requestOf made.1 kind)
  named : ∀ made ∈ entries, made.1.name ≠ .empty →
    state.exports.lookup? made.1.name = some (.type made.2.type)
  apart : (entries.map (·.2.id)).Nodup

/-- The definitions got entries without a body, and nothing else was exported. -/
structure Declared (source : ModuleSource) (state : Declaring)
    (entries : List (Definition × TypeDef)) (after : Declaring) : Prop extends
    source.Lists after entries where
  bare : ∀ made ∈ entries, made.2.body = none
  fresh : ∀ made ∈ entries, state.types.registry.defs.size ≤ made.2.id.index
  adds : TypeContext.Adds state.types after.types
  others : ∀ name, ¬ Names entries name → after.exports.lookup? name = state.exports.lookup? name

/-- What is declared for a definition, with its type. -/
def withType (made : Definition × TypeDef) : Definition × TypeId := (made.1, made.2.type)

theorem lookup?_declaring (state : Declaring) (definition : Definition) (ty : TypeId)
    (types : TypeContext) (key : Name) :
    (declaring state definition ty types).exports.lookup? key =
      if definition.name = key ∧ key ≠ .empty then some (.type ty)
      else state.exports.lookup? key := by
  unfold declaring
  by_cases anonymous : definition.name = .empty
  · have outside : ¬ (definition.name = key ∧ key ≠ .empty) :=
      fun ⟨same, named⟩ => named (same.symm.trans anonymous)
    rw [if_neg outside]
    dsimp only
    rw [if_pos anonymous]
  · dsimp only
    rw [if_neg anonymous, Exports.lookup?_addType]
    by_cases same : definition.name = key
    · rw [if_pos same, if_pos ⟨same, same ▸ anonymous⟩]
    · rw [if_neg same, if_neg fun both => same both.1]

theorem meets_declare {types : TypeContext}
    (declared : state.types.declare (source.requestOf definition kind) = .ok (entry, types)) :
    entry.Meets (source.requestOf definition kind) ∧ entry.body = none := by
  obtain ⟨rfl, -⟩ := TypeContext.declare_ok declared
  exact ⟨⟨rfl, rfl, rfl, rfl⟩, rfl⟩

/-- One definition is declared before the others. -/
theorem Declared.cons {types : TypeContext} (indexed : state.types.Indexed)
    (found : definition.defKind? = some kind)
    (declared : state.types.declare (source.requestOf definition kind) = .ok (entry, types))
    (behind : source.Declared (declaring state definition entry.type types) rest after)
    (alone : ¬ Names rest definition.name) :
    source.Declared state ((definition, entry) :: rest) after := by
  obtain ⟨adds, live, id, size⟩ := TypeContext.adds_declare indexed declared
  obtain ⟨meets, bare⟩ := meets_declare declared
  have above : ∀ made ∈ rest, state.types.registry.defs.size < made.2.id.index :=
    fun made member => Nat.lt_of_lt_of_le (Nat.lt_of_lt_of_eq (Nat.lt_succ_self _) size.symm)
      (behind.fresh made member)
  have index : entry.id.index = state.types.registry.defs.size := congrArg DefId.index id
  constructor
  · constructor
    · exact List.forall_mem_cons.2 ⟨behind.adds.live live, behind.live⟩
    · exact List.forall_mem_cons.2 ⟨⟨kind, found, meets⟩, behind.meets⟩
    · refine List.forall_mem_cons.2 ⟨fun named => ?_, behind.named⟩
      rw [behind.others _ alone, lookup?_declaring, if_pos ⟨rfl, named⟩]
    · refine List.nodup_cons.2 ⟨fun member => ?_, behind.apart⟩
      obtain ⟨made, listed, same⟩ := List.mem_map.1 member
      have higher := above made listed
      rw [same, index] at higher
      exact Nat.lt_irrefl _ higher
  · exact List.forall_mem_cons.2 ⟨bare, behind.bare⟩
  · exact List.forall_mem_cons.2 ⟨Nat.le_of_eq index.symm,
      fun made member => Nat.le_of_lt (above made member)⟩
  · exact adds.trans behind.adds
  · intro name outside
    obtain ⟨first, others⟩ := not_or.1 (mt names_cons.2 outside)
    rw [behind.others name others, lookup?_declaring, if_neg first]

/-- Where the names are free, all definitions are declared without a report. -/
theorem declareNominals_declared {nominals : List Definition} (indexed : state.types.Indexed)
    (indexes : Indexes state) (free : state.types.Free (namesOf nominals))
    (all : ∀ definition ∈ nominals, source.isNominal definition = true) :
    ∃ entries after, (source.declareNominals nominals).run state = (entries.map withType, after) ∧
      entries.map Prod.fst = nominals ∧ after.queue = state.queue ∧
      source.Declared state entries after := by
  induction nominals generalizing state with
  | nil =>
    have lists : source.Lists state [] :=
      ⟨List.forall_mem_nil _, List.forall_mem_nil _, List.forall_mem_nil _, List.nodup_nil⟩
    exact ⟨[], state, rfl, rfl, rfl, lists, List.forall_mem_nil _, List.forall_mem_nil _,
      .refl indexed, fun _ _ => rfl⟩
  | cons definition rest ih =>
    obtain ⟨nominal, others⟩ := List.forall_mem_cons.1 all
    obtain ⟨kind, found, steps⟩ := declareNominals_cons nominal rest
    obtain ⟨entry, types, declared, ran⟩ := source.declareNominal_ok kind indexes (free_first free)
    have takes := taken_declareNominal declared
    have indexed' : (declaring state definition entry.type types).types.Indexed :=
      TypeContext.indexed_declare indexed declared
    obtain ⟨entries, after, ran', same, queue, behind⟩ :=
      ih indexed' (indexes.declareNominal declared)
        ((free_behind (free_first free) takes rest).2 free) others
    refine ⟨(definition, entry) :: entries, after, ?_, congrArg (definition :: ·) same, queue,
      behind.cons indexed found declared ?_⟩
    · rw [steps, run_bind_of ran, run_bind_of ran']
      rfl
    · rintro ⟨made, member, shared, named⟩
      rw [namesOf_cons, if_neg named] at free
      refine (TypeContext.free_cons.1 free).2.1 (mem_namesOf.2 ⟨⟨made.1, ?_, shared⟩, named⟩)
      rw [← same]
      exact List.mem_map_of_mem member

/-! ### Another order -/

/-- The first run is on its way to what the second has declared. Some definitions are still to come,
and their entries in the second stand for nothing in the first. All other names mean the same. -/
structure Chases (shift : Renaming) (one two : Declaring)
    (rest : List (Definition × TypeDef)) : Prop where
  types : Behind shift one.types two.types
  known : ∀ name, Known one.types.extent (one.exports.lookup? name)
  lookup : ∀ name, ¬ Names rest name →
    two.exports.lookup? name = shift.image (one.exports.lookup? name)
  unused : ∀ made ∈ rest, ∀ id : DefId, id.index < one.types.extent.defs →
    shift.defs id ≠ made.2.id

theorem Chases.mirrors (chases : Chases shift one two []) :
    one.exports.Mirrors one.types.extent shift two.exports where
  known := chases.known
  lookup name := chases.lookup name fun ⟨_, member, _⟩ => List.not_mem_nil member

/-- The order of what is still to come does not matter. -/
theorem Chases.perm (chases : Chases shift one two entries) (perm : entries.Perm rest) :
    Chases shift one two rest where
  types := chases.types
  known := chases.known
  lookup name outside := chases.lookup name fun ⟨made, member, named⟩ =>
    outside ⟨made, perm.subset member, named⟩
  unused made member := chases.unused made (perm.symm.subset member)

theorem Lists.perm (lists : source.Lists state entries) (perm : entries.Perm rest) :
    source.Lists state rest where
  live made member := lists.live made (perm.symm.subset member)
  meets made member := lists.meets made (perm.symm.subset member)
  named made member := lists.named made (perm.symm.subset member)
  apart := (perm.map _).nodup_iff.1 lists.apart

/-- The first declares what comes next. -/
theorem Chases.declare {entry' : TypeDef} {types : TypeContext}
    (chases : Chases shift one two ((definition, entry') :: rest))
    (lists : source.Lists two ((definition, entry') :: rest))
    (found : definition.defKind? = some kind)
    (declared : one.types.declare (source.requestOf definition kind) = .ok (entry, types)) :
    ∃ next, Agrees one.types.extent shift next ∧ one.types.extent.Within types.extent ∧
      Chases next (declaring one definition entry.type types) two rest ∧
      Known types.extent entry.type ∧ next.types entry.type = entry'.type := by
  have live := lists.live _ List.mem_cons_self
  obtain ⟨kind', found', meets⟩ := lists.meets _ List.mem_cons_self
  cases found.symm.trans found'
  obtain ⟨next, agrees, within, behind, known, id, type⟩ := chases.types.declare rfl declared live
    meets (chases.unused _ List.mem_cons_self)
  refine ⟨next, agrees, within, ⟨behind, fun name => ?_, fun name outside => ?_,
    fun made member place below => ?_⟩, known, type⟩
  · rw [lookup?_declaring]
    split
    · exact known_some.2 (known_typeEntry.2 known)
    · exact (chases.known name).within within
  · rw [lookup?_declaring]
    split
    · rename_i own
      have named := lists.named _ List.mem_cons_self (own.1 ▸ own.2)
      rw [← own.1, named, ← type]
      rfl
    · rename_i other
      have before := chases.lookup name (mt names_cons.1 (not_or.2 ⟨other, outside⟩))
      exact before.trans (chases.known name _ _ agrees)
  · have indexed : one.types.Indexed := chases.types.indexed
    obtain ⟨-, -, last, size⟩ := TypeContext.adds_declare indexed declared
    have apart := (List.nodup_cons.1 lists.apart).1
    by_cases old : place.index < one.types.extent.defs
    · rw [← agrees.defs place old]
      exact chases.unused made (List.mem_cons_of_mem _ member) place old
    · -- The only new id is that of the entry.
      have same : place = entry.id := by
        have index : entry.id.index = one.types.registry.defs.size := congrArg DefId.index last
        have below : place.index < types.registry.defs.size := below
        have old : ¬ place.index < one.types.registry.defs.size := old
        exact congrArg DefId.mk (by omega : place.index = entry.id.index)
      rw [same, id]
      exact fun shared => apart (List.mem_map.2 ⟨made, member, shared.symm⟩)

/-- In whatever order the first declares what the second has declared, it catches up. -/
theorem Chases.declareNominals {nominals : List Definition}
    (chases : Chases shift one two entries) (lists : source.Lists two entries)
    (perm : nominals.Perm (entries.map Prod.fst)) (indexes : Indexes one)
    (free : one.types.Free (namesOf nominals))
    (all : ∀ definition ∈ nominals, source.isNominal definition = true) :
    ∃ next pending after, (source.declareNominals nominals).run one = (pending, after) ∧
      Agrees one.types.extent shift next ∧ one.types.extent.Within after.types.extent ∧
      Chases next after two [] ∧ Known after.types.extent pending ∧
      (next.image pending).Perm (entries.map withType) := by
  induction nominals generalizing shift one entries with
  | nil =>
    cases List.map_eq_nil_iff.1 perm.symm.eq_nil
    exact ⟨shift, [], one, rfl, .refl _ _, .refl _, chases, known_nil, .nil⟩
  | cons definition rest ih =>
    obtain ⟨nominal, others⟩ := List.forall_mem_cons.1 all
    obtain ⟨kind, found, steps⟩ := declareNominals_cons nominal rest
    obtain ⟨entry, types, declared, ran⟩ := source.declareNominal_ok kind indexes (free_first free)
    have takes := taken_declareNominal declared
    obtain ⟨⟨own, entry'⟩, member, same⟩ := List.mem_map.1 (perm.subset List.mem_cons_self)
    dsimp only at same
    subst same
    obtain ⟨front, back, rfl⟩ := List.append_of_mem member
    have moved : (front ++ (own, entry') :: back).Perm ((own, entry') :: (front ++ back)) :=
      List.perm_middle
    have perm' : rest.Perm ((front ++ back).map Prod.fst) :=
      (List.perm_cons own).1 (perm.trans (moved.map Prod.fst))
    have lists' := lists.perm moved
    obtain ⟨next, agrees, within, chases', known, type⟩ :=
      (chases.perm moved).declare lists' found declared
    have listsRest : source.Lists two (front ++ back) := {
      live := (List.forall_mem_cons.1 lists'.live).2
      meets := (List.forall_mem_cons.1 lists'.meets).2
      named := (List.forall_mem_cons.1 lists'.named).2
      apart := (List.nodup_cons.1 lists'.apart).2 }
    obtain ⟨last, pending, after, ran', agrees', within', chases'', known', perm''⟩ :=
      ih chases' listsRest perm' (indexes.declareNominal declared)
        ((free_behind (free_first free) takes rest).2 free) others
    refine ⟨last, (own, entry.type) :: pending, after, ?_, agrees.trans (agrees'.within within),
      within.trans within', chases'', ?_, ?_⟩
    · rw [steps, run_bind_of ran, run_bind_of ran']
      rfl
    · exact known_cons.2 ⟨known_pair.2 ⟨fun _ _ _ => rfl, known.within within'⟩, known'⟩
    · have image : last.types entry.type = entry'.type := (known _ _ agrees').symm.trans type
      have whole : last.image ((own, entry.type) :: pending) =
          (own, entry'.type) :: last.image pending := by
        rw [image_cons, image_pair, ← image]
        rfl
      rw [whole]
      exact (perm''.cons _).trans (moved.map withType).symm

end ModuleSource

end FrontEnd
