import FrontEnd.Build.Session
import FrontEnd.Proofs.Diagnostic.Queue

/-!
The first phase of a build: every source is a module, and has a tree exactly if its parser gave one
with a module at the root.
-/

namespace FrontEnd

/-- The tree that a parser gave, if there is a module at its root. -/
def ParsedSource.moduleTree? (parsed : ParsedSource) : Option ItemTree :=
  parsed.tree.filter fun tree => tree.kind? tree.root == some .module

namespace Session

/-- What the parser gives for a source, unless the lexer fails. -/
def parsedSource? (session : Session) (lexer : Lexer) (parser : Parser) (file : SourceFile) :
    Option ParsedSource :=
  match session.sources.lexWith file lexer (stemName session.names file).2 with
  | (.error _, _, _) => none
  | (.ok tokens, _, names) => some (parser.parse names file tokens.stream).1

/-- What the parser gives for sources that are parsed one after the other. -/
def parsedSources (session : Session) (lexer : Lexer) (parser : Parser) :
    List SourceFile → List (Option ParsedSource)
  | [] => []
  | file :: rest => session.parsedSource? lexer parser file ::
      (session.parseFile lexer parser file).2.parsedSources lexer parser rest

end Session

namespace Module

variable {m : Module} {file : SourceFile} {given : Option ParsedSource}

/-- A module is as its parser gave it, and neither linked nor declared. -/
structure AsParsed (m : Module) (file : SourceFile) (given : Option ParsedSource) : Prop where
  file : m.file = file
  tree : m.tree = given.bind (·.moduleTree?)
  imports : m.imports = (given.map (·.imports)).getD []
  status : m.status = if m.tree.isSome then .parsed else .failed
  links : m.links = []
  exports : m.exports = {}
  honest : m.queue.Honest

theorem asParsed_ofFile (file : SourceFile) (name : Name) (config : QueueConfig) :
    AsParsed (.ofFile file name { config }) file none :=
  ⟨rfl, rfl, rfl, rfl, rfl, rfl, DiagnosticQueue.honest_new config⟩

theorem AsParsed.report (parsed : m.AsParsed file given) (diag : Diagnostic) :
    (m.report diag).AsParsed file given :=
  { parsed with honest := parsed.honest.push diag }

/-- Reports do not change what the parser gave. -/
theorem AsParsed.reports (parsed : m.AsParsed file given) (errs : List ε)
    (diag : SourceId → ε → Diagnostic) :
    (errs.foldl (fun m err => m.report (diag m.id err)) m).AsParsed file given := by
  induction errs generalizing m with
  | nil => exact parsed
  | cons err rest ih => exact ih (parsed.report _)

/-- A tree is taken exactly if there is a module at its root. -/
theorem AsParsed.withTree {parsed : ParsedSource} (bare : m.AsParsed file (some { parsed with tree := none }))
    {tree : ItemTree} (given : parsed.tree = some tree) :
    (m.withTree tree).AsParsed file (some parsed) := by
  have refused : (tree.kind? tree.root == some .module) = false →
      m.AsParsed file (some parsed) := by
    intro different
    have none_ : parsed.moduleTree? = none := by
      rw [ParsedSource.moduleTree?, given, Option.filter_some, different]
      rfl
    exact { bare with tree := bare.tree.trans none_.symm }
  have taken : (tree.kind? tree.root == some .module) = true →
      ∀ name, AsParsed { m with tree, status := .parsed, name } file (some parsed) := by
    intro same name
    have some_ : parsed.moduleTree? = some tree := by
      rw [ParsedSource.moduleTree?, given, Option.filter_some, same]
      rfl
    exact { bare with tree := some_.symm, status := rfl }
  unfold Module.withTree
  split
  · rename_i nowhere
    refine refused ?_
    rw [ItemTree.kind?, nowhere]
    rfl
  · rename_i root found
    have kind : tree.kind? tree.root = some root.kind := by rw [ItemTree.kind?, found]; rfl
    unfold ItemTree.cast
    split
    · rename_i wrong
      split at wrong
      · cases wrong
      · rename_i different
        refine (refused ?_).report _
        rw [kind]
        simpa [ItemView.accepts] using different
    · rename_i right
      split at right
      · rename_i same
        have isModule : (tree.kind? tree.root == some .module) = true := by
          rw [kind]
          simpa [ItemView.accepts] using same
        split
        · exact taken isModule _
        · exact taken isModule m.name
      · cases right

theorem AsParsed.withParsed (blank : m.AsParsed file none) (parsed : ParsedSource) :
    (m.withParsed parsed).AsParsed file (some parsed) := by
  have reported := blank.reports parsed.errors fun id err => err.report id
  have bare : AsParsed { parsed.errors.foldl (fun m err => m.report (err.report m.id)) m with
      imports := parsed.imports } file (some { parsed with tree := none }) :=
    { reported with imports := rfl }
  unfold Module.withParsed
  dsimp only
  split
  · rename_i tree given
    exact bare.withTree given
  · rename_i none_
    have same : { parsed with tree := none } = parsed := by rw [← none_]
    rw [same] at bare
    exact bare

end Module

namespace Session

variable {lexer : Lexer} {parser : Parser} {m : Module} {index : Nat}

theorem parseFile_asParsed (session : Session) (lexer : Lexer) (parser : Parser)
    (file : SourceFile) : (session.parseFile lexer parser file).1.AsParsed file
      (session.parsedSource? lexer parser file) := by
  unfold parseFile parsedSource?
  generalize stemName session.names file = stem
  obtain ⟨name, names⟩ := stem
  dsimp only
  have blank := Module.asParsed_ofFile file name session.config.diagnostics
  rcases session.sources.lexWith file lexer names with ⟨errs | tokens, sources, names⟩
  · exact blank.reports errs fun id err => err.report id
  · exact blank.withParsed _

/-- Every module is as its parser gave it. -/
theorem parseFiles_asParsed {session : Session} {files : List SourceFile}
    (found : (session.parseFiles lexer parser files).1[index]? = some m) :
    ∃ file given, files[index]? = some file ∧
      (session.parsedSources lexer parser files)[index]? = some given ∧ m.AsParsed file given := by
  induction files generalizing session index with
  | nil => cases found
  | cons file rest ih =>
    cases index with
    | zero =>
      cases found
      exact ⟨file, _, rfl, rfl, parseFile_asParsed session lexer parser file⟩
    | succ index => exact ih found

/-- There is a module for every source, in the order of the sources. -/
theorem files_parseFiles (session : Session) (lexer : Lexer) (parser : Parser)
    (files : List SourceFile) :
    (session.parseFiles lexer parser files).1.map (·.file) = files := by
  induction files generalizing session with
  | nil => rfl
  | cons file rest ih =>
    have first := (parseFile_asParsed session lexer parser file).file
    exact List.cons_eq_cons.2 ⟨first, ih _⟩

end Session

end FrontEnd
