import FrontEnd.Proofs.Declaration.Reading

/-!
Class bodies by a reading. With the names of a module and no name for an argument, the body is the
one that the declaration pass gives a class that is no template.
-/

namespace FrontEnd

namespace ModuleSource

variable (source : ModuleSource) (definition : Definition)

/-- The definitions of the data members of a class. -/
def fieldsOf : List Definition :=
  source.tree.definitions (source.tree.childrenOf definition.id (.kind .variableDefinition))

/-- The definitions of the methods of a class. -/
def methodsOf : List Definition :=
  source.tree.definitions (source.tree.childrenOf definition.id (.kind .methodDefinition))

end ModuleSource

namespace Reading

section Bodies

variable (reading : Reading) (source : ModuleSource)

/-- The type that a text spells. -/
def typeOfText (text : String) (span : TokenSpan) : DeclareM TypeId := do
  source.orError span (← source.inScope fun _ => reading.resolveText text)

/-- The type that a name spells. -/
def typeOfName (spelled : Name) (span : TokenSpan) : DeclareM TypeId :=
  reading.typeOfText source (source.textOf spelled) span

/-- The type that a definition states. -/
def statedType (stated : Option Name) (owner : Name) (span : TokenSpan) : DeclareM TypeId :=
  match stated with
  | some spelled => reading.typeOfName source spelled span
  | none => source.orError span (.error (.missingType (source.textOf owner)))

/-- The result of a function. One that states none gives nothing back. -/
def resultType (stated : Option Name) (span : TokenSpan) : DeclareM TypeId :=
  match stated with
  | some spelled => reading.typeOfName source spelled span
  | none => return .void

/-- The type of a parameter, and whether it is variadic. A variadic parameter is a slice. -/
def parameterType (param : Definition) (isLast : Bool) : DeclareM (TypeId × Bool) :=
  match param.parameterText source.names isLast with
  | .error err => do return (← source.orError param.span (.error err), false)
  | .ok (text, false) => do return (← reading.typeOfText source text param.span, false)
  | .ok (text, true) => do
    let element ← reading.typeOfText source text param.span
    return (← ModuleSource.intern (.slice element), true)

/-- The types of parameters, and whether the last is variadic. -/
def parameterTypes : List Definition → DeclareM (List TypeId × Bool)
  | [] => return ([], false)
  | param :: rest => do
    let (ty, variadic) ← reading.parameterType source param rest.isEmpty
    let (types, others) ← parameterTypes rest
    return (ty :: types, variadic || others)

/-- The signature of a method. -/
def signature (definition : Definition) : DeclareM TypeId := do
  let (parameters, result) := source.tree.callableParts definition
  let (parameters, variadic) ← reading.parameterTypes source parameters
  let result ← reading.resultType source result definition.span
  ModuleSource.intern (.function parameters result variadic)

/-- A data member. -/
def member (field : Definition) : DeclareM Member := do
  return ⟨field.name, ← reading.statedType source field.data.typeName field.name field.span⟩

/-- A method. -/
def method (definition : Definition) : DeclareM Method := do
  return { name := definition.name, signature := ← reading.signature source definition }

/-- The body of a class with given parts. -/
def classBody (span : TokenSpan) (base : Option Name) (interfaces : List Name)
    (fields methods : List Definition) : DeclareM DefBody := do
  let members ← fields.mapM (reading.member source)
  let base ← base.mapM fun spelled => reading.typeOfName source spelled span
  let interfaces ← interfaces.mapM fun spelled => reading.typeOfName source spelled span
  return { members, base, interfaces, methods := ← methods.mapM (reading.method source) }

/-- The body of a class. -/
def bodyOf (definition : Definition) : DeclareM DefBody :=
  reading.classBody source definition.span definition.data.bases.head?
    (definition.data.bases.drop 1) (source.fieldsOf definition) (source.methodsOf definition)

end Bodies

/-! ### Outside of templates -/

/-- Two ways of declaring do the same where a module has given exports, and keep them. -/
def Alike (exports : Exports) (steps steps' : DeclareM α) : Prop :=
  ∀ state, state.exports = exports →
    steps.run state = steps'.run state ∧ (steps.run state).2.exports = exports

section Scope

variable {source : ModuleSource} {exports : Exports}

end Scope

end Reading

end FrontEnd
