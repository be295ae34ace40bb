import FrontEnd.Proofs.Build.Declaring
import FrontEnd.Proofs.Build.Parsing

/-!
What a build makes of each module. A module is declared exactly if it is the first of its name, has a
tree and imports only modules that are ready in the end; it is ready exactly if it was declared
without an error. Readiness therefore spreads from imports to importers only, and never along a
cycle.
-/

namespace FrontEnd

namespace Session

variable {session : Session} {modules : Modules} {index target : Nat} {m : Module}

/-- The runs of the declaration pass that are made for modules that are parsed. -/
def processCalls (session : Session) (modules : Modules) : List DeclareCall :=
  let linked := modules.link session.names
  let settled := linked.settleCycles session.names linked.graph linked.graph.schedule
  Building.calls session.names ⟨settled, session.types⟩ linked.graph.scheduled

/-- What becomes of a module that was linked: it is declared if it waits for that and its imports are
ready in the end, and it fails or is blocked otherwise. -/
structure Becomes (last : Building) (names : Interner) (calls : List DeclareCall) (index : Nat)
    (linked m : Module) : Prop where
  same : linked.Same m
  links : m.links = linked.links
  honest : m.queue.Honest
  fate : (∃ call ∈ calls, call.index = index ∧ linked.status = .parsed ∧
      last.importsReady linked = true ∧
      (∃ tree, linked.tree = some tree ∧ call.source = ⟨names, tree, last.importsOf linked⟩) ∧
      m.exports = call.made.exports ∧ m.queue = call.made.queue ∧ m.status = call.status) ∨
    ((∀ call ∈ calls, call.index ≠ index) ∧
      ¬ (linked.status = .parsed ∧ last.importsReady linked = true) ∧
      (m.status = .failed ∨ m.status = .blocked))

/-- Nothing but what the parser gives is known of the modules. -/
def Bare (modules : Modules) : Prop :=
  ∀ (index : Nat) (m : Module), modules[index]? = some m → ∃ file given, m.AsParsed file given

theorem Bare.links (bare : Bare modules) :
    ∀ (index : Nat) (m : Module), modules[index]? = some m → m.links = [] := by
  intro index m found
  obtain ⟨file, given, parsed⟩ := bare index m found
  exact parsed.links

theorem index_mem_scheduled {call : DeclareCall} (made : call ∈ session.processCalls modules) :
    call.index ∈ (modules.link session.names).graph.scheduled :=
  (Building.calls_sublist _ _ _).subset (List.mem_map_of_mem made)

/-- A build has a module for each one that was parsed. -/
theorem size_process (session : Session) (modules : Modules) :
    (session.process modules).1.modules.size = modules.size := by
  have kept := foldl_keeps (fun building : Building => building.modules.size)
    (Building.size_declare session.names)
  refine (kept _ _).trans ((Modules.size_settleCycles _ _ _ _).trans ?_)
  simp [Modules.link, Modules.failDuplicates]

/-- A module that reaches a cycle is not declared. -/
theorem process_left (bare : Bare modules)
    (left : index ∈ (modules.link session.names).graph.schedule.cyclic ++
      (modules.link session.names).graph.schedule.blocked) {linked : Module}
    (found : (modules.link session.names)[index]? = some linked) :
    ∃ m, (session.process modules).1.modules[index]? = some m ∧ linked.Stays m ∧
      (m.status = .failed ∨ m.status = .blocked) := by
  have whole := Modules.whole_graph_link session.names bare.links
  obtain ⟨m, settled, stays, status⟩ :=
    Modules.settleCycles_left session.names whole left found
  have outside := ImportGraph.not_mem_scheduled left
  exact ⟨m, ((Building.own_declare session.names).foldl outside _).trans settled, stays, status⟩

/-- Every module is scheduled or reaches a cycle. -/
theorem scheduled_or_left (session : Session) (below : index < modules.size) :
    let graph := (modules.link session.names).graph
    index ∈ graph.scheduled ∨ index ∈ graph.schedule.cyclic ++ graph.schedule.blocked := by
  intro graph
  rw [← List.mem_append, graph.schedule_perm.mem_iff, List.mem_range, Modules.size_graph]
  simpa [Modules.link, Modules.failDuplicates] using below

theorem status_linked {linked : Module} (bare : Bare modules) (found : modules[index]? = some m)
    (from_ : modules.LinkedFrom index m linked) :
    (linked.status = .parsed ↔ modules.resolved index m = true ∧ linked.tree.isSome) ∧
      (linked.status = .parsed ∨ linked.status = .failed) := by
  obtain ⟨file, given, parsed⟩ := bare index m found
  rw [from_.status, parsed.status, from_.same.tree]
  cases modules.resolved index m <;> cases m.tree.isSome <;> simp

variable (session) in
theorem process_becomes (bare : Bare modules) (found : modules[index]? = some m) :
    ∃ linked m', (modules.link session.names)[index]? = some linked ∧
      modules.LinkedFrom index m linked ∧
      (session.process modules).1.modules[index]? = some m' ∧
      Becomes (session.process modules).1 session.names (session.processCalls modules) index
        linked m' := by
  obtain ⟨linked, found₁, from_⟩ := Modules.link_linkedFrom session.names found
  obtain ⟨waits, status⟩ := status_linked bare found from_
  have honest : linked.queue.Honest := by
    obtain ⟨file, given, parsed⟩ := bare index m found
    exact from_.honest parsed.honest
  have imports : ∀ target ∈ linked.dependencies,
      (modules.link session.names).graph.Imports index target :=
    fun target listed => Modules.imports_graph.2 ⟨linked, found₁, listed⟩
  rcases scheduled_or_left session (Array.getElem?_eq_some_iff.1 found).1 with listed | left
  · have settled := (Modules.settleCycles_scheduled (modules.link session.names) session.names
      listed).trans found₁
    obtain ⟨m', found', fate⟩ := Building.turn
      ⟨(modules.link session.names).settleCycles session.names _ _, session.types⟩
      session.names (ImportGraph.scheduled_nodup _) (ImportGraph.scheduled_ordered _)
      listed settled imports fun parsed => (waits.1 parsed).2
    refine ⟨linked, m', found₁, from_, found', ?_⟩
    rcases fate with ⟨call, made, number, declared⟩ | ⟨none_, undeclared⟩
    · obtain ⟨parsed, ready, source, queue, rfl⟩ := declared
      refine ⟨⟨rfl, rfl, rfl, rfl⟩, rfl, ?_, .inl ⟨call, made, number, parsed, ready, source, rfl,
        rfl, rfl⟩⟩
      exact (queue ▸ honest).declareModule call.source call.types
    · obtain ⟨held, rfl⟩ := undeclared
      refine ⟨⟨rfl, rfl, rfl, rfl⟩, rfl, honest, .inr ⟨none_, held, ?_⟩⟩
      rcases status with parsed | failed
      · exact .inr (if_pos parsed)
      · exact .inl (by simp [failed])
  · obtain ⟨m', found', stays, ended⟩ := process_left bare left found₁
    refine ⟨linked, m', found₁, from_, found', stays.same, stays.links, stays.honest honest,
      .inr ⟨?_, ?_, ended⟩⟩
    · rintro call made rfl
      exact ImportGraph.not_mem_scheduled left (index_mem_scheduled made)
    · rintro ⟨-, ready⟩
      -- The import that is not scheduled reaches a cycle too, and is not ready.
      obtain ⟨target, leads, outside⟩ := ImportGraph.imports_not_mem_scheduled left
      obtain ⟨importer, found₂, listed⟩ := Modules.imports_graph.1 leads
      obtain rfl : importer = linked := Option.some.inj (found₂.symm.trans found₁)
      obtain ⟨imported, stored, isReady⟩ := Building.importsReady_iff.1 ready target listed
      have whole := Modules.whole_graph_link session.names bare.links
      have below : target < (modules.link session.names).size := by
        rw [← Modules.size_graph]
        exact whole index target leads
      obtain ⟨m₂, found₂'⟩ : ∃ m₂, (modules.link session.names)[target]? = some m₂ :=
        ⟨_, Array.getElem?_eq_getElem below⟩
      have below' : target < modules.size := by
        simpa [Modules.link, Modules.failDuplicates] using below
      have left' := (scheduled_or_left session below').resolve_left outside
      obtain ⟨m₃, stored', -, ended'⟩ := process_left bare left' found₂'
      obtain rfl : m₃ = imported := Option.some.inj (stored'.symm.trans stored)
      rw [isReady] at ended'
      rcases ended' with failed | blocked
      · cases failed
      · cases blocked

theorem types_parseFiles (session : Session) (lexer : Lexer) (parser : Parser)
    (files : List SourceFile) : (session.parseFiles lexer parser files).2.types = session.types := by
  induction files generalizing session with
  | nil => rfl
  | cons file rest ih =>
    have first : (session.parseFile lexer parser file).2.types = session.types := by
      unfold parseFile
      dsimp only
      split <;> rfl
    exact (ih _).trans first

/-- The runs of the declaration pass that a build makes, one after the other. -/
def declareCalls (session : Session) (lexer : Lexer) (parser : Parser) (ids : List SourceId) :
    List DeclareCall :=
  let parsed := session.parseFiles lexer parser (session.filesOf ids)
  parsed.2.processCalls parsed.1.toArray

/-- A build parses its sources to the modules, which leaves it with the session, and goes on from
there. -/
structure ParsesTo (session : Session) (lexer : Lexer) (parser : Parser) (ids : List SourceId)
    (modules : Modules) (parsed : Session) : Prop where
  ran : session.parseFiles lexer parser (session.filesOf ids) = (modules.toList, parsed)
  bare : Bare modules
  types : parsed.types = session.types
  report : (session.build lexer parser ids).1.modules =
    (parsed.process modules).1.modules.toList.map Module.finish
  calls : session.declareCalls lexer parser ids = parsed.processCalls modules
  last : (session.build lexer parser ids).2.types = (parsed.process modules).1.types

theorem exists_parsesTo (session : Session) (lexer : Lexer) (parser : Parser)
    (ids : List SourceId) :
    ∃ modules parsed, session.ParsesTo lexer parser ids modules parsed := by
  obtain ⟨modules, parsed, ran⟩ : ∃ modules parsed,
      session.parseFiles lexer parser (session.filesOf ids) = (modules, parsed) := ⟨_, _, rfl⟩
  refine ⟨modules.toArray, parsed, ran, fun index m found => ?_, ?_, ?_, ?_, ?_⟩
  · rw [List.getElem?_toArray, ← show _ = modules from congrArg Prod.fst ran] at found
    obtain ⟨file, given, -, -, as⟩ := parseFiles_asParsed found
    exact ⟨file, given, as⟩
  · rw [← types_parseFiles session lexer parser (session.filesOf ids), ran]
  · simp only [build, ran]
  · simp only [declareCalls, ran]
  · simp only [build, ran]

/-- The modules are those that parsing gives. -/
theorem ParsesTo.stored {lexer : Lexer} {parser : Parser} {ids : List SourceId} {parsed : Session}
    (parses : session.ParsesTo lexer parser ids modules parsed)
    (found : modules[index]? = some m) :
    (session.parseFiles lexer parser (session.filesOf ids)).1[index]? = some m := by
  rwa [parses.ran, Array.getElem?_toList]

end Session

namespace BuildReport

variable {report : BuildReport}

/-- A module is ready. -/
def IsReady (report : BuildReport) (index : Nat) : Prop :=
  ∃ m, report.modules[index]? = some m ∧ m.status = .ready

/-- A module imports another. -/
def Imports (report : BuildReport) (index target : Nat) : Prop :=
  ∃ m, report.modules[index]? = some m ∧ target ∈ m.dependencies

end BuildReport

namespace Session

variable {session : Session} {modules : Modules} {index target : Nat} {m : Module}
  {report : BuildReport}

/-- Sorting the diagnostics in the end changes no status. -/
theorem Becomes.status_finish {last : Building} {names : Interner} {calls : List DeclareCall}
    {linked : Module} (becomes : Becomes last names calls index linked m) :
    m.finish.status = m.status := by
  rcases becomes.fate with ⟨call, -, -, -, -, -, -, queue, status⟩ | ⟨-, -, failed | blocked⟩
  · simp only [Module.finish, queue, status, DeclareCall.status]
    cases call.made.queue.hasErrors <;> rfl
  · simp [Module.finish, failed]
  · simp [Module.finish, blocked]

/-- A module is declared exactly if it waits for that and its imports are ready. -/
theorem Becomes.declared_iff {last : Building} {names : Interner} {calls : List DeclareCall}
    {linked : Module} (becomes : Becomes last names calls index linked m) :
    (∃ call ∈ calls, call.index = index) ↔
      linked.status = .parsed ∧ last.importsReady linked = true := by
  rcases becomes.fate with ⟨call, listed, number, parsed, ready, -⟩ | ⟨none_, held, -⟩
  · exact ⟨fun _ => ⟨parsed, ready⟩, fun _ => ⟨call, listed, number⟩⟩
  · exact ⟨fun ⟨call, listed, number⟩ => absurd number (none_ call listed), fun waits => absurd waits held⟩

/-- A module is ready exactly if it was declared without an error. -/
theorem Becomes.isReady_iff {last : Building} {names : Interner} {calls : List DeclareCall}
    {linked : Module} (becomes : Becomes last names calls index linked m) :
    m.status = .ready ↔ (∃ call ∈ calls, call.index = index) ∧
      ∀ diag ∈ m.finish.diagnostics, diag.isError = false := by
  have errors : (∀ diag ∈ m.finish.diagnostics, diag.isError = false) ↔
      m.queue.hasErrors = false := by
    rw [← Bool.not_eq_true, ← becomes.honest.errors_flush, Nat.not_lt, Nat.le_zero]
    simp [Diagnostic.tally, Module.finish, Diagnostic.isError]
  rw [errors]
  rcases becomes.fate with ⟨call, listed, number, -, -, -, -, queue, status⟩ | ⟨none_, -, ended⟩
  · rw [status, queue, DeclareCall.status]
    cases call.made.queue.hasErrors
    · exact ⟨fun _ => ⟨⟨call, listed, number⟩, rfl⟩, fun _ => rfl⟩
    · exact ⟨nofun, nofun⟩
  · refine ⟨fun ready => ?_, fun ⟨⟨call, listed, number⟩, _⟩ => absurd number (none_ call listed)⟩
    rw [ready] at ended
    exact ended.elim nofun nofun

/-- A module of the last phase was linked and became what it is. -/
theorem last_becomes (bare : Bare modules)
    (last : (session.process modules).1.modules[index]? = some m) :
    ∃ parsed linked, modules[index]? = some parsed ∧ modules.LinkedFrom index parsed linked ∧
      (modules.link session.names)[index]? = some linked ∧
      Becomes (session.process modules).1 session.names (session.processCalls modules) index
        linked m := by
  have below : index < modules.size := by
    rw [← size_process session]
    exact (Array.getElem?_eq_some_iff.1 last).1
  obtain ⟨linked, m', found, from_, last', becomes⟩ :=
    process_becomes session bare (Array.getElem?_eq_getElem below)
  obtain rfl : m' = m := Option.some.inj (last'.symm.trans last)
  exact ⟨_, linked, Array.getElem?_eq_getElem below, from_, found, becomes⟩

section Report

variable (bare : Bare modules)
  (made : report.modules = (session.process modules).1.modules.toList.map Module.finish)

include made in
theorem getElem?_report (index : Nat) : report.modules[index]? =
    (session.process modules).1.modules[index]?.map Module.finish := by
  rw [made, List.getElem?_map, Array.getElem?_toList]

include made in
theorem finish_report (last : (session.process modules).1.modules[index]? = some m) :
    report.modules[index]? = some m.finish := by
  rw [getElem?_report made, last]
  rfl

include bare made

/-- A module of the report is a module of the last phase with its diagnostics sorted. -/
theorem report_becomes (found : report.modules[index]? = some m) :
    ∃ parsed linked m', modules[index]? = some parsed ∧ modules.LinkedFrom index parsed linked ∧
      (modules.link session.names)[index]? = some linked ∧
      (session.process modules).1.modules[index]? = some m' ∧
      Becomes (session.process modules).1 session.names (session.processCalls modules) index
        linked m' ∧ m = m'.finish := by
  rw [getElem?_report made, Option.map_eq_some_iff] at found
  obtain ⟨m', last, rfl⟩ := found
  obtain ⟨parsed, linked, stored, from_, found, becomes⟩ := last_becomes bare last
  exact ⟨parsed, linked, m', stored, from_, found, last, becomes, rfl⟩

theorem isReady_report : report.IsReady index ↔
    ∃ m, (session.process modules).1.modules[index]? = some m ∧ m.status = .ready := by
  constructor
  · rintro ⟨m, found, ready⟩
    obtain ⟨_, _, m', -, -, -, last, becomes, rfl⟩ := report_becomes bare made found
    exact ⟨m', last, becomes.status_finish.symm.trans ready⟩
  · rintro ⟨m', last, ready⟩
    obtain ⟨_, _, -, -, -, becomes⟩ := last_becomes bare last
    exact ⟨_, finish_report made last, becomes.status_finish.trans ready⟩

/-- The imports of the report are the edges that the schedule was made of. -/
theorem imports_report :
    report.Imports index target ↔ (modules.link session.names).graph.Imports index target := by
  rw [Modules.imports_graph]
  constructor
  · rintro ⟨m, found, listed⟩
    obtain ⟨_, linked, m', -, -, found', -, becomes, rfl⟩ := report_becomes bare made found
    refine ⟨linked, found', ?_⟩
    rw [Module.dependencies, ← becomes.links]
    exact listed
  · rintro ⟨linked, found, listed⟩
    cases before : modules[index]? with
    | none =>
      rw [Modules.getElem?_link, before] at found
      cases found
    | some m =>
      obtain ⟨linked', m', found', -, last, becomes⟩ :=
        process_becomes session bare before
      obtain rfl : linked' = linked := Option.some.inj (found'.symm.trans found)
      refine ⟨m'.finish, finish_report made last, ?_⟩
      rw [Module.dependencies, Module.finish, becomes.links]
      exact listed

/-- A ready module was declared, and so is scheduled. -/
theorem scheduled_of_isReady (ready : report.IsReady index) :
    index ∈ (modules.link session.names).graph.scheduled := by
  obtain ⟨m, found, isReady⟩ := ready
  obtain ⟨_, _, m', -, -, -, -, becomes, rfl⟩ := report_becomes bare made found
  rw [becomes.status_finish] at isReady
  rcases becomes.fate with ⟨call, listed, rfl, -⟩ | ⟨-, -, failed | blocked⟩
  · exact index_mem_scheduled listed
  · rw [failed] at isReady
    cases isReady
  · rw [blocked] at isReady
    cases isReady

/-- What a ready module imports is ready. -/
theorem isReady_of_imports (ready : report.IsReady index) (imports : report.Imports index target) :
    report.IsReady target := by
  obtain ⟨m, found, isReady⟩ := ready
  obtain ⟨same, found', listed⟩ := imports
  obtain rfl : same = m := Option.some.inj (found'.symm.trans found)
  obtain ⟨_, linked, m', -, -, -, -, becomes, rfl⟩ := report_becomes bare made found
  rw [becomes.status_finish] at isReady
  rcases becomes.fate with ⟨call, -, -, -, imported, -⟩ | ⟨-, -, failed | blocked⟩
  · rw [isReady_report bare made]
    refine Building.importsReady_iff.1 imported target ?_
    rw [Module.dependencies, ← becomes.links]
    exact listed
  · rw [failed] at isReady
    cases isReady
  · rw [blocked] at isReady
    cases isReady

/-- Readiness passes from importers to imports, and stops at no cycle. -/
theorem isReady_of_reaches (ready : report.IsReady index)
    (reaches : Relation.TransGen report.Imports index target) :
    target ≠ index ∧ report.IsReady target := by
  constructor
  · rintro rfl
    have graph : (modules.link session.names).graph.Reaches target target :=
      reaches.lift id fun _ _ imports => (imports_report bare made).1 imports
    exact (ImportGraph.scheduled_ordered _).not_reaches_self
      (scheduled_of_isReady bare made ready) graph
  · induction reaches with
    | single imports => exact isReady_of_imports bare made ready imports
    | tail _ imports ih => exact isReady_of_imports bare made ih imports

end Report

end Session

end FrontEnd
