import Mathlib
import FrontEnd.Proofs.Build.Readiness
import FrontEnd.Proofs.Module.Schedule

/-!
Builds whose report holds no error. A module that has an error has it until the end, and linking,
cycles and declarations fail no module without one. So the modules that are not ready have no tree,
though neither the lexer nor the parser told an error, or they import such a module.
-/

namespace FrontEnd

/-- The parser gives no tree and tells no error. -/
def ParsedSource.isSilent (parsed : ParsedSource) : Bool :=
  parsed.errors.isEmpty && (parsed.tree.bind fun tree => tree.node? tree.root).isNone

namespace Session

/-- There are no tokens or no tree of a source, and neither the lexer nor the parser tells an
error. -/
def isSilent (session : Session) (lexer : Lexer) (parser : Parser) (file : SourceFile) : Bool :=
  match session.sources.lexWith file lexer (stemName session.names file).2 with
  | (.error errs, _, _) => errs.isEmpty
  | (.ok tokens, _, names) => (parser.parse names file tokens.stream).1.isSilent

/-- Which of the sources that are parsed one after the other are silent. -/
def silences (session : Session) (lexer : Lexer) (parser : Parser) : List SourceFile → List Bool
  | [] => []
  | file :: rest => session.isSilent lexer parser file ::
      (session.parseFile lexer parser file).2.silences lexer parser rest

end Session

/-! ### Parsing -/

namespace Module

variable {m : Module} {names : Interner}

theorem hasErrors_report {diag : Diagnostic} (isError : diag.isError = true) :
    (m.report diag).queue.hasErrors = true :=
  DiagnosticQueue.hasErrors_push_of_isError isError

theorem hasErrors_report_of (diag : Diagnostic) (found : m.queue.hasErrors = true) :
    (m.report diag).queue.hasErrors = true :=
  DiagnosticQueue.hasErrors_push diag found

/-- Reports of errors leave an error if there are any, and touch nothing but the queue. -/
theorem reports_spec {ε : Type} (diag : SourceId → ε → Diagnostic)
    (isError : ∀ id err, (diag id err).isError = true) (errs : List ε) (m : Module) :
    let reported := errs.foldl (fun m err => m.report (diag m.id err)) m
    reported.tree = m.tree ∧ (reported.queue.hasErrors = true ↔
      m.queue.hasErrors = true ∨ errs.isEmpty = false) := by
  induction errs generalizing m with
  | nil => simp
  | cons err rest ih =>
    obtain ⟨tree, errors⟩ := ih (m.report (diag m.id err))
    refine ⟨tree, errors.trans ?_⟩
    simp [hasErrors_report (isError m.id err)]

/-- A module without a tree takes the one that it is given, or there is an error unless that has no
root. -/
theorem withTree_spec (bare : m.tree = none) (tree : ItemTree) :
    ((m.withTree tree).queue.hasErrors = false ∧ (m.withTree tree).tree = none) ↔
      m.queue.hasErrors = false ∧ tree.node? tree.root = none := by
  unfold withTree
  split
  · rename_i nowhere
    simp [nowhere, bare]
  · rename_i root found
    rw [found]
    split
    · rename_i cast _
      have failed : (m.report (cast.report m.id root.span)).queue.hasErrors = true :=
        hasErrors_report rfl
      simp [failed]
    · split <;> simp

/-- After parsing there is neither an error nor a tree exactly if the parser is silent. -/
theorem withParsed_spec (bare : m.tree = none) (clean : m.queue.hasErrors = false)
    (parsed : ParsedSource) :
    ((m.withParsed parsed).queue.hasErrors = false ∧ (m.withParsed parsed).tree = none) ↔
      parsed.isSilent = true := by
  obtain ⟨tree, errors⟩ := reports_spec (fun id (err : SyntaxError) => err.report id)
    (fun _ _ => rfl) parsed.errors m
  unfold withParsed ParsedSource.isSilent
  dsimp only at tree errors ⊢
  generalize parsed.errors.foldl (fun m err => m.report (err.report m.id)) m = reported
    at tree errors ⊢
  split
  · rename_i given found
    rw [withTree_spec (m := { reported with imports := parsed.imports }) (tree.trans bare)]
    simp [← Bool.not_eq_true, errors, clean, found]
  · rename_i none_
    simp [← Bool.not_eq_true, errors, clean, none_, tree, bare]

end Module

namespace Session

variable {lexer : Lexer} {parser : Parser} {m : Module} {index target : Nat}

theorem parseFile_silent (session : Session) (lexer : Lexer) (parser : Parser)
    (file : SourceFile) :
    let m := (session.parseFile lexer parser file).1
    (m.queue.hasErrors = false ∧ m.tree = none) ↔ session.isSilent lexer parser file = true := by
  unfold parseFile isSilent
  generalize stemName session.names file = stem
  obtain ⟨name, names⟩ := stem
  dsimp only
  rcases session.sources.lexWith file lexer names with ⟨errs | tokens, sources, names⟩
  · obtain ⟨tree, errors⟩ := Module.reports_spec
      (fun id (err : LexError) => err.report id) (fun _ _ => rfl) errs
      (.ofFile file name { config := session.config.diagnostics })
    have clean : (Module.ofFile file name
      { config := session.config.diagnostics }).queue.hasErrors = false := rfl
    dsimp only at tree errors ⊢
    rw [← Bool.not_eq_true, errors, clean, tree]
    simp [Module.ofFile]
  · exact Module.withParsed_spec rfl rfl _

/-- A module that was parsed has neither an error nor a tree exactly if its source is silent. -/
theorem parseFiles_silent {session : Session} {files : List SourceFile}
    (found : (session.parseFiles lexer parser files).1[index]? = some m) :
    (m.queue.hasErrors = false ∧ m.tree = none) ↔
      (session.silences lexer parser files)[index]? = some true := by
  induction files generalizing session index with
  | nil => cases found
  | cons file rest ih =>
    cases index with
    | zero =>
      cases found
      exact (parseFile_silent session lexer parser file).trans Option.some_inj.symm
    | succ index => exact ih found

end Session

/-! ### Errors stay -/

namespace Modules

variable {modules : Modules} {names : Interner} {graph : ImportGraph} {index : Nat} {m : Module}

/-- The module of this number has an error. -/
def Faulty (modules : Modules) (index : Nat) : Prop :=
  ∃ m, modules[index]? = some m ∧ m.queue.hasErrors = true

/-- Steps that keep the errors of a module keep them together. -/
theorem Faulty.foldl {step : Modules → Nat → Modules}
    (keeps : ∀ (modules : Modules) other, modules.Faulty index → (step modules other).Faulty index)
    (indices : List Nat) (faulty : modules.Faulty index) :
    Faulty (indices.foldl step modules) index := by
  induction indices generalizing modules with
  | nil => exact faulty
  | cons other rest ih => exact ih (keeps modules other faulty)

/-- A change of one module that keeps its errors keeps all errors. -/
theorem Faulty.modify (faulty : modules.Faulty index) {change : Module → Module} {other : Nat}
    (keeps : ∀ m, modules[other]? = some m → m.queue.hasErrors = true →
      (change m).queue.hasErrors = true) :
    Faulty (Array.modify modules other change) index := by
  obtain ⟨m, found, errors⟩ := faulty
  by_cases same : other = index
  · subst same
    exact ⟨change m, by rw [Array.getElem?_modify, if_pos rfl, found]; rfl, keeps m found errors⟩
  · exact ⟨m, by rw [Array.getElem?_modify, if_neg same, found], errors⟩

theorem Faulty.block (faulty : modules.Faulty index) (other : Nat) :
    (modules.block other).Faulty index := by
  unfold Modules.block
  refine faulty.modify fun m _ errors => ?_
  exact errors

end Modules

namespace Module

variable {m : Module} {names : Interner} {target? : Name → Option Nat}

theorem hasErrors_link (directive : ImportRef) (found : m.queue.hasErrors = true) :
    (m.link names target? directive).queue.hasErrors = true := by
  unfold link
  split
  · exact found
  · exact hasErrors_report_of _ found

/-- An import without a module leaves an error. -/
theorem hasErrors_foldl_link {directives : List ImportRef}
    (found : m.queue.hasErrors = true ∨
      directives.all (fun directive => (target? directive.path).isSome) = false) :
    (directives.foldl (link names target?) m).queue.hasErrors = true := by
  induction directives generalizing m with
  | nil => exact found.resolve_right nofun
  | cons directive rest ih =>
    refine ih ?_
    rcases found with found | missing
    · exact .inl (hasErrors_link directive found)
    rw [List.all_cons, Bool.and_eq_false_iff] at missing
    rcases missing with here | later
    · have none_ : target? directive.path = none := by simpa using here
      simp only [link, none_]
      exact .inl (hasErrors_report rfl)
    · exact .inr later

end Module

namespace Modules

variable {modules : Modules} {names : Interner} {graph : ImportGraph} {index : Nat} {m : Module}

/-- Linking keeps errors, and leaves one if the module is not resolved. -/
theorem faulty_link (found : modules[index]? = some m)
    (wrong : m.queue.hasErrors = true ∨ modules.resolved index m = false) :
    (modules.link names).Faulty index := by
  have linked := getElem?_link modules names index
  rw [found, Option.map_some] at linked
  refine ⟨_, linked, Module.hasErrors_foldl_link ?_⟩
  by_cases first : modules.named? m.name = some index
  · simp only [first, if_true]
    refine wrong.imp_right fun missing => ?_
    rwa [resolved, first, beq_self_eq_true, Bool.true_and] at missing
  · simp only [first, if_false]
    exact .inl (Module.hasErrors_report rfl)

theorem Faulty.failCycle (faulty : modules.Faulty index) (names : Interner) (graph : ImportGraph)
    (other : Nat) : (modules.failCycle names graph other).Faulty index := by
  unfold Modules.failCycle
  split
  · exact faulty
  · refine faulty.modify fun m _ errors => ?_
    exact Module.hasErrors_report_of _ errors

/-- Settling keeps errors. -/
theorem Faulty.settleCycles (faulty : modules.Faulty index) (names : Interner)
    (graph : ImportGraph) (schedule : Schedule) :
    (modules.settleCycles names graph schedule).Faulty index :=
  (faulty.foldl (fun _ other kept => kept.failCycle names graph other) _).foldl
    (fun _ other kept => kept.block other) _

/-- A module on a cycle has an error. -/
theorem faulty_settleCycles (names : Interner) (whole : graph.Whole)
    (cyclic : index ∈ graph.schedule.cyclic) (found : modules[index]? = some m) :
    (modules.settleCycles names graph graph.schedule).Faulty index := by
  have cycles := own_failCycle names graph
  obtain ⟨before, after, split_⟩ := List.append_of_mem cyclic
  have once := (List.nodup_append.1 graph.left_nodup).1
  rw [split_] at once
  have earlier := (cycles.foldl (not_mem_before once) modules).trans found
  obtain ⟨diag, isError, failed⟩ :=
    getElem?_failCycle names whole (ImportGraph.mem_cyclic.1 cyclic).2 earlier
  have faulty : Faulty (graph.schedule.cyclic.foldl (failCycle names graph) modules) index := by
    rw [split_]
    exact ⟨_, (cycles.foldl_at once modules).trans failed, Module.hasErrors_report isError⟩
  exact faulty.foldl (fun _ other kept => kept.block other) _

end Modules

namespace Building

variable {building : Building} {names : Interner} {index : Nat}

/-- A turn keeps errors. -/
theorem faulty_declare (faulty : building.modules.Faulty index) (other : Nat) :
    (building.declare names other).modules.Faulty index := by
  unfold declare
  split
  · exact faulty
  · rename_i m found
    split
    · exact faulty
    split
    · exact faulty.block other
    split
    · rename_i tree given
      unfold declareTree
      refine faulty.modify fun m' found' errors => ?_
      obtain rfl : m' = m := Option.some.inj (found'.symm.trans found)
      obtain ⟨diags, -, pushed⟩ := queue_declareModule ⟨names, tree, building.importsOf m'⟩
        building.types m'.queue
      dsimp only
      rw [pushed]
      exact DiagnosticQueue.hasErrors_extend diags errors
    · exact faulty

theorem faulty_declares (faulty : building.modules.Faulty index) (names : Interner)
    (indices : List Nat) : (indices.foldl (declare names) building).modules.Faulty index := by
  induction indices generalizing building with
  | nil => exact faulty
  | cons other rest ih => exact ih (faulty_declare faulty other)

end Building

/-! ### Builds without errors -/

namespace Session

variable {session : Session} {modules : Modules} {index target : Nat} {m m' : Module}
  {report : BuildReport}

/-- In the end no module has an error. -/
def Clean (session : Session) (modules : Modules) : Prop :=
  ∀ index, ¬ (session.process modules).1.modules.Faulty index

section Clean

variable (bare : Bare modules) (clean : session.Clean modules)

include clean

theorem Clean.settled : ¬ Modules.Faulty ((modules.link session.names).settleCycles session.names
    (modules.link session.names).graph (modules.link session.names).graph.schedule) index :=
  fun faulty => clean index (Building.faulty_declares faulty session.names _)

theorem Clean.linked : ¬ (modules.link session.names).Faulty index :=
  fun faulty => clean.settled (faulty.settleCycles session.names _ _)

theorem Clean.parsed (found : modules[index]? = some m) :
    m.queue.hasErrors = false ∧ modules.resolved index m = true := by
  constructor
  · exact Bool.eq_false_iff.2 fun errors => clean.linked (Modules.faulty_link found (.inl errors))
  · exact eq_true_of_ne_false fun missing => clean.linked (Modules.faulty_link found (.inr missing))

include bare

/-- If no module has an error, none reaches a cycle. -/
theorem Clean.scheduled (below : index < modules.size) :
    index ∈ (modules.link session.names).graph.scheduled := by
  have whole := Modules.whole_graph_link session.names bare.links
  refine (scheduled_or_left session below).resolve_right fun left => ?_
  obtain ⟨other, -, cycle⟩ := ImportGraph.meetsCycle_of_left whole left
  obtain ⟨importer, -, imports⟩ := Relation.TransGen.tail'_iff.1 cycle
  have inside := whole importer other imports
  have left := (ImportGraph.mem_left_iff whole inside).2 cycle.meetsCycle
  rw [Modules.size_graph] at inside
  exact clean.settled (Modules.faulty_settleCycles session.names whole
    (ImportGraph.mem_cyclic.2 ⟨left, cycle⟩) (Array.getElem?_eq_getElem inside))

/-- If no module has an error, a module without a tree fails and every other one is ready or
blocked, as its imports are. -/
theorem Clean.status {linked : Module} (found : modules[index]? = some m)
    (found₁ : (modules.link session.names)[index]? = some linked)
    (last : (session.process modules).1.modules[index]? = some m') :
    m'.status = if m.tree.isNone then .failed
      else if (session.process modules).1.importsReady linked then .ready else .blocked := by
  have fine : m'.queue.hasErrors = false := Bool.eq_false_iff.2 fun errors =>
    clean index ⟨m', last, errors⟩
  obtain ⟨linked', stored, from_⟩ := Modules.link_linkedFrom session.names found
  obtain rfl : linked' = linked := Option.some.inj (stored.symm.trans found₁)
  have waits := (status_linked bare found from_).1
  obtain ⟨file, given, parsed⟩ := bare index m found
  have status : linked'.status = if m.tree.isSome then .parsed else .failed := by
    rw [from_.status, (clean.parsed found).2, if_pos rfl, parsed.status]
  have listed := clean.scheduled bare (Array.getElem?_eq_some_iff.1 found).1
  have settled := (Modules.settleCycles_scheduled (modules.link session.names) session.names
    listed).trans found₁
  obtain ⟨m'', last', fate⟩ := Building.turn
    ⟨(modules.link session.names).settleCycles session.names _ _, session.types⟩ session.names
    (ImportGraph.scheduled_nodup _) (ImportGraph.scheduled_ordered _) listed settled
    (fun target listed => Modules.imports_graph.2 ⟨linked', found₁, listed⟩)
    fun parsed => (waits.1 parsed).2
  obtain rfl : m'' = m' := Option.some.inj (last'.symm.trans last)
  rcases fate with ⟨call, -, -, declared⟩ | ⟨-, undeclared⟩
  · obtain ⟨parsed, ready, -, -, rfl⟩ := declared
    have tree : m.tree.isSome := from_.same.tree ▸ (waits.1 parsed).2
    rw [Option.isNone_eq_false_iff.2 tree, if_neg Bool.false_ne_true]
    refine Eq.trans ?_ (if_pos ready).symm
    exact if_neg (Bool.eq_false_iff.1 fine)
  · obtain ⟨held, rfl⟩ := undeclared
    dsimp only
    cases tree : m.tree with
    | none => simp [status, tree]
    | some tree =>
      have parsed : linked'.status = .parsed := by rw [status, tree]; rfl
      rw [if_pos parsed, Option.isNone_some, if_neg Bool.false_ne_true]
      exact (if_neg fun ready => held ⟨parsed, ready⟩).symm

end Clean

section Report

variable (bare : Bare modules)
  (made : report.modules = (session.process modules).1.modules.toList.map Module.finish)

include bare made

/-- If the report holds no error, no module has one in the end. -/
theorem clean_of_report (none_ : report.hasErrors = false) : session.Clean modules := by
  rintro index ⟨m', last, errors⟩
  obtain ⟨_, _, -, -, -, becomes⟩ := last_becomes bare last
  obtain ⟨diag, listed, isError⟩ := List.countP_pos_iff.1 (becomes.honest.errors_flush.2 errors)
  have reported : diag ∈ report.diagnostics := List.mem_append_left _
    (List.mem_flatMap.2 ⟨m'.finish, List.mem_of_getElem? (finish_report made last), listed⟩)
  have counted : 0 < report.errorCount := List.countP_pos_iff.2 ⟨diag, reported, isError⟩
  exact absurd none_ (by simp [BuildReport.hasErrors, counted])

/-- The report has a module for every source. -/
theorem exists_report (below : index < modules.size) : ∃ m, report.modules[index]? = some m := by
  obtain ⟨linked, m', -, -, last, -⟩ :=
    process_becomes session bare (Array.getElem?_eq_getElem below)
  exact ⟨m'.finish, finish_report made last⟩

end Report

section CleanReport

variable (bare : Bare modules) (clean : session.Clean modules)
  (made : report.modules = (session.process modules).1.modules.toList.map Module.finish)

/-- There is no tree of the module that was parsed. -/
def Treeless (modules : Modules) (index : Nat) : Prop :=
  ∃ m, modules[index]? = some m ∧ m.tree.isNone = true

include bare clean made

/-- A module fails if it has no tree, and is ready if it has one and its imports are ready. -/
theorem Clean.status_report (found : report.modules[index]? = some m) :
    (m.status = .failed ↔ Treeless modules index) ∧
      (m.status = .ready ↔ ¬ Treeless modules index ∧
        ∀ target, report.Imports index target → report.IsReady target) ∧
      (m.status = .blocked ↔ m.status ≠ .failed ∧ m.status ≠ .ready) := by
  obtain ⟨before, linked, m', stored, -, linked_, last, becomes, rfl⟩ :=
    report_becomes bare made found
  have treeless : Treeless modules index ↔ before.tree.isNone = true := by
    refine ⟨?_, fun none_ => ⟨before, stored, none_⟩⟩
    rintro ⟨m, found, none_⟩
    exact Option.some.inj (stored.symm.trans found) ▸ none_
  have ready : (session.process modules).1.importsReady linked = true ↔
      ∀ target, report.Imports index target → report.IsReady target := by
    rw [Building.importsReady_iff]
    have links : m'.finish.dependencies = linked.dependencies := by
      rw [Module.dependencies, Module.finish, becomes.links]
      rfl
    have imports : ∀ target, report.Imports index target ↔ target ∈ linked.dependencies := by
      intro target
      rw [← links]
      refine ⟨?_, fun listed => ⟨_, found, listed⟩⟩
      rintro ⟨m, found', listed⟩
      exact Option.some.inj (found'.symm.trans found) ▸ listed
    simp only [imports, isReady_report bare made]
  rw [treeless, ← ready, becomes.status_finish, clean.status bare stored linked_ last]
  cases before.tree.isNone <;> cases (session.process modules).1.importsReady linked <;> simp

/-- A module is ready exactly if it reaches only modules with a tree. -/
theorem Clean.isReady_iff (found : report.modules[index]? = some m) : m.status = .ready ↔
    ∀ target, Relation.ReflTransGen report.Imports index target → ¬ Treeless modules target := by
  have own : ∀ {index m}, report.modules[index]? = some m → m.status = .ready →
      ¬ Treeless modules index := fun found ready =>
    ((clean.status_report bare made found).2.1.1 ready).1
  constructor
  · intro ready target way
    rcases Relation.reflTransGen_iff_eq_or_transGen.1 way with rfl | reaches
    · exact own found ready
    · obtain ⟨m', found', ready'⟩ := (isReady_of_reaches bare made ⟨m, found, ready⟩ reaches).2
      exact own found' ready'
  intro trees
  have below : index < modules.size := by
    obtain ⟨before, -, -, stored, -⟩ := report_becomes bare made found
    exact (Array.getElem?_eq_some_iff.1 stored).1
  obtain ⟨k, stands⟩ := ImportGraph.mem_scheduled.1 (clean.scheduled bare below)
  -- What a module imports stands at an earlier level.
  induction k using Nat.strongRecOn generalizing index m with
  | ind k ih =>
    refine (clean.status_report bare made found).2.1.2 ⟨trees index .refl, fun target imports => ?_⟩
    have edge := (imports_report bare made).1 imports
    obtain ⟨earlier, less, stands'⟩ := ImportGraph.standsAt_imports stands edge
    have inside := Modules.whole_graph_link session.names bare.links index target edge
    have inside : target < modules.size := by
      rw [Modules.size_graph] at inside
      simpa [Modules.link, Modules.failDuplicates] using inside
    obtain ⟨m', found'⟩ := exists_report bare made inside
    exact ⟨m', found', ih earlier less found' (fun other way => trees other (.head imports way))
      inside stands'⟩

end CleanReport

theorem length_silences (session : Session) (lexer : Lexer) (parser : Parser)
    (files : List SourceFile) : (session.silences lexer parser files).length = files.length := by
  induction files generalizing session with
  | nil => rfl
  | cons file rest ih => exact congrArg (· + 1) (ih _)

/-- If no module that was parsed has an error, those without a tree are the silent ones. -/
theorem treeless_parseFiles {session : Session} {lexer : Lexer} {parser : Parser}
    {files : List SourceFile} (clean : ∀ (index : Nat) (m : Module),
      (session.parseFiles lexer parser files).1[index]? = some m → m.queue.hasErrors = false) :
    Treeless (session.parseFiles lexer parser files).1.toArray index ↔
      (session.silences lexer parser files)[index]? = some true := by
  constructor
  · rintro ⟨m, stored, none_⟩
    rw [List.getElem?_toArray] at stored
    exact (parseFiles_silent stored).1 ⟨clean index m stored, Option.isNone_iff_eq_none.1 none_⟩
  · intro silent
    have below := (List.getElem?_eq_some_iff.1 silent).1
    rw [length_silences, ← files_parseFiles session lexer parser files, List.length_map] at below
    have stored := List.getElem?_eq_getElem below
    have none_ := ((parseFiles_silent stored).2 silent).2
    exact ⟨_, List.getElem?_toArray.trans stored, Option.isNone_iff_eq_none.2 none_⟩

/-- If the report of a build holds no error, exactly the modules fail of which there is no tree
though neither the lexer nor the parser told an error; exactly the others are blocked that import
such a module, directly or not; and all that reach none are ready. -/
theorem build_silence (session : Session) (lexer : Lexer) (parser : Parser) (ids : List SourceId)
    (none_ : (session.build lexer parser ids).1.hasErrors = false) :
    let report := (session.build lexer parser ids).1
    let Silent (index : Nat) : Prop :=
      (session.silences lexer parser (session.filesOf ids))[index]? = some true
    ∀ index m, report.modules[index]? = some m →
      (m.status = .failed ↔ Silent index) ∧
      (m.status = .blocked ↔ ¬ Silent index ∧
        ∃ target, Relation.TransGen report.Imports index target ∧ Silent target) ∧
      (m.status = .ready ↔
        ∀ target, Relation.ReflTransGen report.Imports index target → ¬ Silent target) := by
  intro report Silent index m found
  obtain ⟨modules, parsed, parses⟩ := session.exists_parsesTo lexer parser ids
  have bare := parses.bare
  have made : report.modules = _ := parses.report
  have clean := clean_of_report bare made none_
  have parsedTo : (session.parseFiles lexer parser (session.filesOf ids)).1.toArray = modules := by
    rw [parses.ran, Array.toArray_toList]
  have silent : ∀ index, Treeless modules index ↔ Silent index := by
    intro index
    rw [← parsedTo]
    refine treeless_parseFiles fun place m stored => ?_
    rw [← List.getElem?_toArray, parsedTo] at stored
    exact (clean.parsed stored).1
  have status := clean.status_report bare made found
  have ready := clean.isReady_iff bare made found
  simp only [silent] at status ready
  refine ⟨status.1, ?_, ready⟩
  rw [status.2.2, ne_eq, ne_eq, ready, status.1]
  refine and_congr_right fun told => ?_
  push Not
  constructor
  · rintro ⟨target, way, silent⟩
    rcases Relation.reflTransGen_iff_eq_or_transGen.1 way with rfl | reaches
    · exact absurd silent told
    · exact ⟨target, reaches, silent⟩
  · rintro ⟨target, reaches, silent⟩
    exact ⟨target, reaches.to_reflTransGen, silent⟩

/-- A session with one source, which has no tokens yet. -/
def ofOneSource : Session := { names := .bare, sources := ⟨#[⟨default, "", "", none, none⟩]⟩ }

/-- A lexer that finds no tokens. -/
def emptyLexer : Lexer := ⟨fun names _ => (.ok .empty, names)⟩

/-- A parser that gives nothing, not even an error. -/
def mute : Parser := ⟨fun names _ _ => ({}, names)⟩

/-- A parser that gives nothing leaves a report without an error and with a module that failed. -/
theorem build_silence_mute :
    let report := (ofOneSource.build emptyLexer mute [⟨0⟩]).1
    report.hasErrors = false ∧ ∃ m, report.modules[0]? = some m ∧ m.status = .failed := by
  intro report
  have none_ : report.hasErrors = false := by cbv
  have size : report.modules.length = 1 := by cbv
  have silent : ofOneSource.silences emptyLexer mute (ofOneSource.filesOf [⟨0⟩]) = [true] := by cbv
  have found := List.getElem?_eq_getElem (show 0 < report.modules.length by rw [size]; decide)
  refine ⟨none_, _, found, ?_⟩
  exact (build_silence ofOneSource emptyLexer mute [⟨0⟩] none_ 0 _ found).1.2 (by rw [silent]; rfl)

end Session

end FrontEnd
