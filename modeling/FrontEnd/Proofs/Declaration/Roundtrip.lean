import FrontEnd.Proofs.Declaration.ClassTemplate
import FrontEnd.Proofs.Specialization.Keys
import FrontEnd.Proofs.Spelling.Reader
import FrontEnd.Proofs.Typing.Identity
import FrontEnd.Proofs.Typing.Text

/-!
Printed types read back. Where the names in the text of a type mean what they were printed for, the
text resolves to the type again. Reading it may add types, since the text of a type with two
qualifiers passes through the type with one of them.
-/

namespace FrontEnd

open Spelling (Reads ReadsArgument Opens IsPlain IsWord)

/-! ### What can be read back -/

/-- A source can spell each of the qualifiers. -/
def Qualifiers.Readable (quals : Qualifiers) : Prop :=
  quals.isSafe = false ∧ quals.isMutable = false

/-- The text is a plain name, and it stands for the entry. -/
structure Scope.Names (scope : Scope) (text : String) (entry : ScopeEntry) : Prop where
  plain : IsPlain text.toList
  proper : TypeId.ofPrimitiveName? text = none
  found : scope.lookup? text = some entry

/-- A type that is built from what a source can spell in a scope. Each name in its text stands for
what it was printed for. -/
inductive Spellable (ctx : TypeContext) (scope : Scope) : TypeId → Prop where
  | primitive {ty : TypeId} (primitive : ty.isPrimitive) (proper : ty ≠ .error) :
    Spellable ctx scope ty
  | named {id : DefId} {entry : TypeDef} {name : Name} (live : ctx.registry.get? id = some entry)
      (plain : entry.specialization = none) (called : entry.name = some name)
      (means : scope.Names (scope.names.textOf name) (.type entry.type)) :
    Spellable ctx scope entry.type
  | applied {id : DefId} {entry : TypeDef} {key : SpecializationKey}
      (live : ctx.registry.get? id = some entry) (carries : entry.specialization = some key)
      (means : scope.Names (ctx.templateName scope.names key.template) (.template key.template))
      (types : ∀ ty, .type ty ∈ key.arguments → Spellable ctx scope ty)
      (integers : ∀ value, .value (.int value) ∈ key.arguments → Text.fitsWide value = true)
      (templates : ∀ id, .template id ∈ key.arguments →
        scope.Names (ctx.templateName scope.names id) (.template id)) :
    Spellable ctx scope entry.type
  | pointer {ty target : TypeId} (form : ctx.pool.form? ty = some (.pointer target))
      (part : Spellable ctx scope target) : Spellable ctx scope ty
  | array {ty element : TypeId} {length : Nat}
      (form : ctx.pool.form? ty = some (.array element length)) (fits : length < UInt64.size)
      (part : Spellable ctx scope element) : Spellable ctx scope ty
  | slice {ty element : TypeId} (form : ctx.pool.form? ty = some (.slice element))
      (part : Spellable ctx scope element) : Spellable ctx scope ty
  | qualified {ty base : TypeId} {quals : Qualifiers} (made : ctx.pool.Qualifies base quals ty)
      (readable : quals.Readable) (part : Spellable ctx scope base) : Spellable ctx scope ty

variable {ctx : TypeContext} {scope : Scope} {ty base : TypeId} {quals : Qualifiers}
  {spelling : Spelling}

/-! ### What spellings mean from now on -/

/-- In all tables that come after, the steps give the value and leave tables that come after. -/
def Always (ctx : TypeContext) (steps : ResolveM α) (value : α) : Prop :=
  ∀ now, TypeContext.Leads ctx now →
    ∃ later, TypeContext.Leads now later ∧ outcome steps now = (.ok value, later)

section Always

variable {α β : Type} {steps : ResolveM α} {rest : α → ResolveM β} {value : α} {result : β}

/-- Steps that add nothing give the value in all tables that come after. -/
theorem always_known (ran : ∀ now, TypeContext.Leads ctx now →
    outcome steps now = (.ok value, now)) : Always ctx steps value :=
  fun now leads => ⟨now, .refl now, ran now leads⟩

theorem always_pure (value : α) : Always ctx (pure value) value := always_known fun _ _ => rfl

theorem Always.bind (first : Always ctx steps value) (second : Always ctx (rest value) result) :
    Always ctx (steps >>= rest) result := by
  intro now leads
  obtain ⟨middle, leads₁, ran₁⟩ := first now leads
  obtain ⟨later, leads₂, ran₂⟩ := second middle (leads.trans leads₁)
  exact ⟨later, leads₁.trans leads₂, by rw [outcome_bind_ok ran₁, ran₂]⟩

theorem always_intern {form : TypeForm} (orderly : ctx.Orderly)
    (found : ctx.pool.form? ty = some form) : Always ctx (Scope.intern form) ty :=
  always_known fun _ leads => by
    obtain ⟨orderly', -, extends_⟩ := leads.orderly orderly
    exact outcome_intern_known orderly' (TypePool.form?_kept extends_.pool found)

/-- An instance that is kept under its full arguments is always given for them. -/
theorem always_specialize {id : DefId} {entry : TypeDef} {key : SpecializationKey}
    (orderly : ctx.Orderly) (keyed : ctx.Keyed) (live : ctx.registry.get? id = some entry)
    (carries : entry.specialization = some key) :
    Always ctx (Scope.specialize key.template key.arguments) entry.type := by
  obtain ⟨template, registered, bound⟩ := keyed id entry key live carries
  have gives : Specializer.Gives { context := ctx } key.template key.arguments entry.type :=
    ⟨template, key.arguments, registered, bound, orderly.sound.owned id entry key live carries⟩
  exact always_known fun _ leads => outcome_specialize_known (gives.onward (leads.onward orderly))

/-- Qualifying a type gives the type that is made of its base with the qualifiers of both. -/
theorem TypePool.qualifies_of_form {pool : TypePool} {own : Qualifiers} (sound : pool.Sound)
    {inner : TypeId} (known : inner.index < pool.size) (parts : pool.split inner = (base, own))
    (form : pool.form? ty = some (.qualified base (own.union quals)))
    (some_ : own.union quals ≠ .empty) : pool.Qualifies inner quals ty := by
  refine ⟨known, ?_⟩
  simp only [TypePool.qualified, parts]
  rw [if_neg fun none_ => some_ (Qualifiers.isEmpty_iff.1 none_)]
  exact intern_of_form? sound.exact form

theorem always_qualified (orderly : ctx.Orderly) (qualifies : ctx.pool.Qualifies base quals ty) :
    Always ctx (Scope.qualified base quals) ty :=
  always_known fun _ leads => by
    obtain ⟨orderly', -, extends_⟩ := leads.orderly orderly
    exact outcome_qualified_known (qualifies.kept orderly.sound.indexed.pool.exact
      orderly'.sound.indexed.pool.exact extends_.pool)

/-- Qualifying a plain type twice gives the type with both qualifiers. The type with the first of
them may have to be added on the way. -/
theorem always_qualified_twice {first second : Qualifiers} (orderly : ctx.Orderly)
    (known : base.index < ctx.pool.size) (parts : ctx.pool.split base = (base, .empty))
    (some_ : first ≠ .empty) (form : ctx.pool.form? ty = some (.qualified base (first.union second)))
    (both : first.union second ≠ .empty) :
    Always ctx (Scope.qualified base first >>= fun inner => Scope.qualified inner second) ty := by
  intro now leads
  obtain ⟨orderly₁, -, extends₁⟩ := leads.orderly orderly
  have known₁ := Nat.lt_of_lt_of_le known (TypePool.size_kept extends₁.pool)
  have leads₂ : TypeContext.Leads now (now.qualified base first).2 :=
    TypeContext.leads_perform (known_qualifyRequest.2 (known_type.2 known₁))
  obtain ⟨orderly₂, -, extends₂⟩ := leads₂.orderly orderly₁
  refine ⟨_, leads₂, ?_⟩
  have ran : outcome (Scope.qualified base first) now =
      (.ok (now.qualified base first).1, (now.qualified base first).2) := rfl
  rw [outcome_bind_ok ran]
  have parts₁ : now.pool.split base = (base, .empty) :=
    (TypePool.split_kept extends₁.pool known).trans parts
  have made : (now.qualified base first).2.pool.form? (now.qualified base first).1 =
      some (.qualified base first) := by
    have filled : ¬ (Qualifiers.empty.union first).isEmpty := fun none_ =>
      some_ (Qualifiers.isEmpty_iff.1 none_)
    simp only [TypeContext.qualified, TypePool.qualified, parts₁, if_neg filled]
    exact TypePool.form?_intern orderly₁.sound.indexed.pool (.qualified base first)
  refine outcome_qualified_known (TypePool.qualifies_of_form orderly₂.sound.indexed.pool
    (TypePool.lt_size_of_form? made) ?_
    (TypePool.form?_kept (extends₁.trans extends₂).pool form) both)
  rw [TypePool.split_eq orderly₂.sound.indexed.pool.honest, made]

end Always

/-! ### Texts that spell types -/

/-- The text is that of a spelling that always means the type. -/
def Spells (ctx : TypeContext) (scope : Scope) (text : String) (ty : TypeId) : Prop :=
  ∃ spelling, Reads text.toList spelling ∧ Opens text.toList ∧
    scope.bareTemplate? spelling = none ∧ Always ctx (scope.resolve spelling) ty

/-- The text is that of a spelled argument that always means the argument. -/
def SpellsArgument (ctx : TypeContext) (scope : Scope) (text : String)
    (argument : TemplateArgument) : Prop :=
  ∃ spelled, ReadsArgument text.toList spelled ∧
    Always ctx (scope.resolveArgument spelled) argument

section Spells

variable {text : String} {target element : TypeId}

theorem Spelling.IsPlain.reads_text (plain : IsPlain text.toList) : Reads text.toList (.named text) := by
  have reads := plain.reads
  rwa [String.ofList_toList] at reads

theorem spells_name (names : scope.Names text (.type ty)) : Spells ctx scope text ty := by
  refine ⟨.named text, names.plain.reads_text, names.plain.opens, ?_, ?_⟩
  · rw [Scope.bareTemplate?, names.found]
  · rw [Scope.resolve, names.proper, Scope.resolveName, names.found]
    exact always_pure ty

/-- The name of a primitive type spells it, unless a template has taken the name. -/
theorem spells_primitive (plain : IsPlain text.toList)
    (means : TypeId.ofPrimitiveName? text = some ty)
    (untaken : ∀ id, scope.lookup? text ≠ some (.template id)) : Spells ctx scope text ty := by
  refine ⟨.named text, plain.reads_text, plain.opens, ?_, ?_⟩
  · rw [Scope.bareTemplate?]
    split
    · rename_i id found
      exact absurd found (untaken id)
    · rfl
  · rw [Scope.resolve, means]
    exact always_pure ty

theorem Spells.pointer (spells : Spells ctx scope text target) (orderly : ctx.Orderly)
    (form : ctx.pool.form? ty = some (.pointer target)) : Spells ctx scope ("*" ++ text) ty := by
  obtain ⟨spelling, reads, -, -, means⟩ := spells
  have shape : ("*" ++ text).toList = '*' :: text.toList := String.toList_append
  refine ⟨.pointer spelling, ?_, ?_, rfl, ?_⟩
  · rw [shape]
    exact reads.pointer
  · rw [shape]
    exact Spelling.opens_cons (by decide) _
  · rw [Scope.resolve]
    exact means.bind (always_intern orderly form)

theorem Spells.slice (spells : Spells ctx scope text element) (orderly : ctx.Orderly)
    (form : ctx.pool.form? ty = some (.slice element)) :
    Spells ctx scope ("[" ++ text ++ "]") ty := by
  obtain ⟨spelling, reads, -, -, means⟩ := spells
  have shape : ("[" ++ text ++ "]").toList = '[' :: (text.toList ++ [']']) := by
    rw [String.toList_append, String.toList_append]
    rfl
  refine ⟨.slice spelling, ?_, ?_, rfl, ?_⟩
  · rw [shape]
    exact reads.slice
  · rw [shape]
    exact Spelling.opens_cons (by decide) _
  · rw [Scope.resolve]
    exact means.bind (always_intern orderly form)

theorem Spells.array {length : Nat} (spells : Spells ctx scope text element)
    (orderly : ctx.Orderly) (fits : length < UInt64.size)
    (form : ctx.pool.form? ty = some (.array element length)) :
    Spells ctx scope ("[" ++ text ++ "; " ++ toString length ++ "]") ty := by
  obtain ⟨spelling, reads, -, -, means⟩ := spells
  have digits : Nat.toDigits 10 length = Text.decimal length := rfl
  have shape : ("[" ++ text ++ "; " ++ toString length ++ "]").toList =
      '[' :: (text.toList ++ (';' :: ' ' :: (Text.decimal length ++ [']']))) := by
    simp only [String.toList_append, Text.toList_toString_nat, digits, List.append_assoc]
    rfl
  refine ⟨.array spelling (.literal length), ?_, ?_, rfl, ?_⟩
  · rw [shape]
    exact reads.array fits
  · rw [shape]
    exact Spelling.opens_cons (by decide) _
  · rw [Scope.resolve]
    exact means.bind (always_intern orderly form)

/-- The word of a qualifier before the text of a type reads as a qualified spelling. -/
private theorem reads_qualified (word : String) (reads : Reads text.toList spelling)
    (named : IsWord word.toList = true)
    (qualifies : Spelling.qualifier? (String.ofList word.toList) = some quals)
    (truth : Spelling.truth? (String.ofList word.toList) = none) :
    Reads (word ++ " " ++ text).toList (.qualified spelling quals) ∧
      Opens (word ++ " " ++ text).toList := by
  have shape : (word ++ " " ++ text).toList = word.toList ++ ' ' :: text.toList := by
    rw [String.toList_append, String.toList_append, List.append_assoc]
    rfl
  rw [shape]
  refine ⟨reads.qualified named qualifies, Spelling.opens_word named truth fun _ _ _ first => ?_⟩
  cases first
  rfl

/-- The words of the qualifiers before the text of a plain type spell the qualified type. -/
theorem Spells.qualified (spells : Spells ctx scope text base) (orderly : ctx.Orderly)
    (known : base.index < ctx.pool.size) (parts : ctx.pool.split base = (base, .empty))
    (readable : quals.Readable) (some_ : quals ≠ .empty)
    (form : ctx.pool.form? ty = some (.qualified base quals)) :
    Spells ctx scope (quals.text ++ " " ++ text) ty := by
  obtain ⟨spelling, reads, -, -, means⟩ := spells
  have single : ctx.pool.Qualifies base quals ty :=
    TypePool.qualifies_of_form orderly.sound.indexed.pool known parts form some_
  have volatile := reads_qualified "volatile" reads (by decide) rfl rfl
  obtain ⟨isConst, isVolatile, isSafe, isMutable⟩ := quals
  obtain ⟨rfl, rfl⟩ : isSafe = false ∧ isMutable = false := readable
  cases isConst <;> cases isVolatile
  case false.false => exact absurd rfl some_
  case true.false =>
    obtain ⟨read, opens⟩ := reads_qualified "const" reads (by decide) rfl rfl
    refine ⟨_, read, opens, rfl, ?_⟩
    rw [Scope.resolve]
    exact means.bind (always_qualified orderly single)
  case false.true =>
    obtain ⟨read, opens⟩ := volatile
    refine ⟨_, read, opens, rfl, ?_⟩
    rw [Scope.resolve]
    exact means.bind (always_qualified orderly single)
  case true.true =>
    obtain ⟨read, opens⟩ := reads_qualified "const" volatile.1 (by decide) rfl rfl
    have shape : Qualifiers.text ⟨true, true, false, false⟩ ++ " " ++ text =
        "const" ++ " " ++ ("volatile" ++ " " ++ text) := by
      rw [← String.append_assoc, ← String.append_assoc]
      rfl
    rw [shape]
    refine ⟨_, read, opens, rfl, ?_⟩
    rw [Scope.resolve, Scope.resolve, bind_assoc]
    exact means.bind (always_qualified_twice orderly known parts (by decide) form some_)

/-! ### Arguments -/

/-- The texts of arguments, one by one, spell the list of arguments. -/
theorem spells_arguments {texts : TemplateArgument → String} {arguments : List TemplateArgument}
    (each : ∀ argument ∈ arguments, SpellsArgument ctx scope (texts argument) argument) :
    ∃ spelled, List.Forall₂ ReadsArgument ((arguments.map texts).map String.toList) spelled ∧
      Always ctx (scope.resolveArguments spelled) arguments := by
  induction arguments with
  | nil =>
    refine ⟨[], .nil, ?_⟩
    rw [Scope.resolveArguments]
    exact always_pure []
  | cons argument rest ih =>
    obtain ⟨first, others⟩ := List.forall_mem_cons.1 each
    obtain ⟨spelled, reads, means⟩ := first
    obtain ⟨further, reads', means'⟩ := ih others
    refine ⟨spelled :: further, .cons reads reads', ?_⟩
    rw [Scope.resolveArguments]
    exact means.bind (means'.bind (always_pure _))

theorem Spells.argument (spells : Spells ctx scope text ty) :
    SpellsArgument ctx scope text (.type ty) := by
  obtain ⟨spelling, reads, opens, bare, means⟩ := spells
  refine ⟨.type spelling, reads.argument opens, ?_⟩
  rw [Scope.resolveArgument, bare]
  exact means.bind (always_pure _)

theorem spellsArgument_template {id : TemplateId} (names : scope.Names text (.template id)) :
    SpellsArgument ctx scope text (.template id) := by
  refine ⟨.type (.named text), names.plain.reads_text.argument names.plain.opens, ?_⟩
  rw [Scope.resolveArgument, Scope.bareTemplate?, names.found]
  exact always_pure _

theorem spellsArgument_int {value : Int} (fits : Text.fitsWide value = true) :
    SpellsArgument ctx scope (toString value) (.value (.int value)) := by
  refine ⟨.int value, ?_, ?_⟩
  · rw [Text.toList_toString_int]
    exact Spelling.readsArgument_int fits
  · rw [Scope.resolveArgument]
    exact always_pure _

theorem spellsArgument_bool (value : Bool) :
    SpellsArgument ctx scope (toString value) (.value (.bool value)) := by
  refine ⟨.bool value, ?_, ?_⟩
  · cases value <;> exact Spelling.readsArgument_bool (by decide) (by decide)
  · rw [Scope.resolveArgument]
    exact always_pure _

/-- The name of a template with the texts of the arguments of a key spells the instance of it. -/
theorem spells_applied {id : DefId} {entry : TypeDef} {key : SpecializationKey}
    {texts : TemplateArgument → String} (orderly : ctx.Orderly) (keyed : ctx.Keyed)
    (live : ctx.registry.get? id = some entry) (carries : entry.specialization = some key)
    (names : scope.Names text (.template key.template))
    (each : ∀ argument ∈ key.arguments, SpellsArgument ctx scope (texts argument) argument) :
    Spells ctx scope (text ++ "<" ++ ", ".intercalate (key.arguments.map texts) ++ ">")
      entry.type := by
  obtain ⟨spelled, reads, means⟩ := spells_arguments each
  have shape : (text ++ "<" ++ ", ".intercalate (key.arguments.map texts) ++ ">").toList =
      text.toList ++ '<' :: ([',', ' '].intercalate ((key.arguments.map texts).map String.toList) ++
        ['>']) := by
    simp only [String.toList_append, String.toList_intercalate, List.append_assoc]
    rfl
  refine ⟨.applied (String.ofList text.toList) spelled, ?_, ?_, rfl, ?_⟩
  · rw [shape]
    exact names.plain.reads_applied reads
  · rw [shape]
    exact names.plain.opens_applied _
  · rw [Scope.resolve, String.ofList_toList, Scope.resolveName, names.found]
    exact means.bind (always_specialize orderly keyed live carries)

end Spells

/-! ### Types that read back -/

/-- The text of a type spells it. -/
structure ReadsBack (ctx : TypeContext) (scope : Scope) (ty : TypeId) : Prop where
  known : ty.index < ctx.pool.size
  ends : Acc ctx.Part ty
  spells : Spells ctx scope (ctx.display scope.names ty) ty

/-- The text of a type without its qualifiers spells that type, and a source can spell the
qualifiers. -/
inductive BaseReadsBack (ctx : TypeContext) (scope : Scope) (ty : TypeId) : Prop where
  | plain (parts : ctx.pool.split ty = (ty, .empty)) (back : ReadsBack ctx scope ty)
  | qualified {base : TypeId} {quals : Qualifiers}
      (form : ctx.pool.form? ty = some (.qualified base quals)) (some_ : quals ≠ .empty)
      (readable : quals.Readable) (parts : ctx.pool.split base = (base, .empty))
      (back : ReadsBack ctx scope base)

/-- The primitive types have the forms that they had from the start. -/
theorem form?_primitive (start : TypePool.Kept .new ctx.pool) (primitive : ty.isPrimitive) :
    ∃ form ∈ TypeForm.primitives, ctx.pool.form? ty = some form := by
  have listed : ty.index < TypeForm.primitives.length := of_decide_eq_true primitive
  refine ⟨_, List.getElem_mem listed, TypePool.form?_kept start ?_⟩
  rw [TypePool.form?_new_eq, List.getElem?_eq_getElem listed]

/-- No types of the pool but the primitive ones have their forms. -/
theorem primitiveName?_of_form {form : TypeForm} (start : TypePool.Kept .new ctx.pool)
    (found : ctx.pool.form? ty = some form) (other : form ∉ TypeForm.primitives) :
    ty.primitiveName? = none := by
  refine Option.eq_none_iff_forall_ne_some.2 fun name named => other ?_
  obtain ⟨below, -⟩ := List.getElem?_eq_some_iff.1 named
  obtain ⟨own, listed, form⟩ := form?_primitive start (decide_eq_true below)
  cases found.symm.trans form
  exact listed

/-- The names of the primitive types are plain, and each means its type. -/
theorem primitive_named (primitive : ty.isPrimitive) (proper : ty ≠ .error) :
    ∃ name, ty.primitiveName? = some name ∧ TypeId.ofPrimitiveName? name = some ty ∧
      IsPlain name.toList := by
  have names : ∀ index : Fin 12, ∃ name, (TypeId.mk index).primitiveName? = some name := by
    intro index
    exact ⟨_, List.getElem?_eq_getElem (Nat.lt_trans index.isLt (by decide))⟩
  have each : ∀ index : Fin 12, ∀ name ∈ (TypeId.mk index).primitiveName?,
      TypeId.ofPrimitiveName? name = some ⟨index⟩ ∧ Spelling.IsWord name.toList = true ∧
        Spelling.qualifier? (String.ofList name.toList) = none ∧
        Spelling.truth? (String.ofList name.toList) = none := by decide
  obtain ⟨index⟩ := ty
  have below : index < 12 := by
    have bound : index < 13 := of_decide_eq_true primitive
    have other : index ≠ 12 := fun same => proper (congrArg TypeId.mk same)
    omega
  obtain ⟨name, named⟩ := names ⟨index, below⟩
  obtain ⟨means, word, qualifier, truth⟩ := each ⟨index, below⟩ name named
  exact ⟨name, named, means, word, qualifier, truth⟩

section ReadsBack

variable {element : TypeId} {form : TypeForm}

/-- A type that is neither primitive nor qualified reads back if its form does. -/
theorem readsBack_form (start : TypePool.Kept .new ctx.pool)
    (found : ctx.pool.form? ty = some form) (other : form ∉ TypeForm.primitives)
    (ends : ∀ inner ∈ ctx.shown form, Acc ctx.Part inner)
    (spells : Spells ctx scope (ctx.formText scope.names (ctx.display scope.names) form) ty) :
    ReadsBack ctx scope ty := by
  have finite := TypeContext.acc_of_form found ends
  refine ⟨TypePool.lt_size_of_form? found, finite, ?_⟩
  rw [TypeContext.display_eq finite (primitiveName?_of_form start found other) found]
  exact spells

theorem BaseReadsBack.readsBack (base : BaseReadsBack ctx scope ty) (orderly : ctx.Orderly)
    (start : TypePool.Kept .new ctx.pool) : ReadsBack ctx scope ty := by
  cases base with
  | plain parts back => exact back
  | qualified form some_ readable parts back =>
    refine readsBack_form start form (by simp [TypeForm.primitives]) ?_ ?_
    · exact List.forall_mem_singleton.2 back.ends
    · exact back.spells.qualified orderly back.known parts readable some_ form

/-- What is plain is split into itself and no qualifiers. -/
theorem split_of_form (orderly : ctx.Orderly) (found : ctx.pool.form? ty = some form)
    (plain : ∀ base quals, form ≠ .qualified base quals) :
    ctx.pool.split ty = (ty, .empty) := by
  rw [TypePool.split_eq orderly.sound.indexed.pool.honest, found]
  split
  · rename_i base quals same
    exact absurd (Option.some.inj same) (plain base quals)
  · rfl

/-- Qualifying a type adds to the qualifiers of its base. -/
theorem BaseReadsBack.qualify (inner : BaseReadsBack ctx scope base) (orderly : ctx.Orderly)
    (readable : quals.Readable) (made : ctx.pool.Qualifies base quals ty) :
    BaseReadsBack ctx scope ty := by
  obtain ⟨root, own, parts, rootParts, back, ownReadable⟩ : ∃ root own,
      ctx.pool.split base = (root, own) ∧ ctx.pool.split root = (root, .empty) ∧
        ReadsBack ctx scope root ∧ own.Readable := by
    cases inner with
    | plain parts back => exact ⟨base, .empty, parts, parts, back, rfl, rfl⟩
    | qualified form some_ readable parts back =>
      refine ⟨_, _, ?_, parts, back, readable⟩
      rw [TypePool.split_eq orderly.sound.indexed.pool.honest, form]
  obtain ⟨-, made⟩ := made
  simp only [TypePool.qualified, parts] at made
  split at made
  · cases made
    exact .plain rootParts back
  · rename_i filled
    refine .qualified (TypePool.form?_of_intern_eq orderly.sound.indexed.pool.exact made)
      (fun none_ => filled (Qualifiers.isEmpty_iff.2 none_)) ?_ rootParts back
    exact ⟨by rw [Qualifiers.union, ownReadable.1, readable.1]; rfl,
      by rw [Qualifiers.union, ownReadable.2, readable.2]; rfl⟩

/-- A type that is neither primitive nor qualified is its own base. -/
theorem baseReadsBack_form (orderly : ctx.Orderly) (start : TypePool.Kept .new ctx.pool)
    (found : ctx.pool.form? ty = some form) (other : form ∉ TypeForm.primitives)
    (bare : ∀ base quals, form ≠ .qualified base quals)
    (ends : ∀ inner ∈ ctx.shown form, Acc ctx.Part inner)
    (spells : Spells ctx scope (ctx.formText scope.names (ctx.display scope.names) form) ty) :
    BaseReadsBack ctx scope ty :=
  .plain (split_of_form orderly found bare) (readsBack_form start found other ends spells)

/-- A primitive type reads back unless a template has taken its name. -/
theorem baseReadsBack_primitive (orderly : ctx.Orderly) (start : TypePool.Kept .new ctx.pool)
    (primitive : ty.isPrimitive) (proper : ty ≠ .error)
    (untaken : ∀ name, (TypeId.ofPrimitiveName? name).isSome →
      ∀ id, scope.lookup? name ≠ some (.template id)) : BaseReadsBack ctx scope ty := by
  obtain ⟨name, named, means, plain⟩ := primitive_named primitive proper
  obtain ⟨own, listed, form⟩ := form?_primitive start primitive
  have bare : ∀ form ∈ TypeForm.primitives, (∀ base quals, form ≠ .qualified base quals) ∧
      ctx.shown form = [] := by
    simp [TypeForm.primitives, TypeContext.shown, TypeForm.children]
  obtain ⟨unqualified, alone⟩ := bare own listed
  refine .plain (split_of_form orderly form unqualified)
    ⟨TypePool.lt_size_of_form? form, TypeContext.acc_of_form form ?_, ?_⟩
  · rw [alone]
    exact fun _ member => absurd member List.not_mem_nil
  · rw [TypeContext.display_primitive named]
    exact spells_primitive plain means (untaken name (by rw [means]; rfl))

/-- An instance reads back if the types among its arguments do. -/
theorem baseReadsBack_applied {id : DefId} {entry : TypeDef} {key : SpecializationKey}
    (orderly : ctx.Orderly) (keyed : ctx.Keyed) (start : TypePool.Kept .new ctx.pool)
    (live : ctx.registry.get? id = some entry) (carries : entry.specialization = some key)
    (means : scope.Names (ctx.templateName scope.names key.template) (.template key.template))
    (types : ∀ ty, .type ty ∈ key.arguments → ReadsBack ctx scope ty)
    (integers : ∀ value, .value (.int value) ∈ key.arguments → Text.fitsWide value = true)
    (templates : ∀ id, .template id ∈ key.arguments →
      scope.Names (ctx.templateName scope.names id) (.template id)) :
    BaseReadsBack ctx scope entry.type := by
  obtain ⟨-, form⟩ := orderly.sound.indexed.defs id entry live
  refine baseReadsBack_form orderly start form (by simp [TypeForm.primitives]) (by simp) ?_ ?_
  · intro inner member
    simp only [TypeContext.shown, live, Option.bind_some, carries] at member
    obtain ⟨argument, present, same⟩ := List.mem_filterMap.1 member
    cases argument with
    | type ty =>
      cases same
      exact (types _ present).ends
    | value value => cases same
    | template id => cases same
  · simp only [TypeContext.formText, TypeContext.defText, live, carries]
    refine spells_applied orderly keyed live carries means fun argument member => ?_
    cases argument with
    | type ty => exact (types ty member).spells.argument
    | value value =>
      cases value with
      | int value => exact spellsArgument_int (integers value member)
      | bool value => exact spellsArgument_bool value
    | template id => exact spellsArgument_template (templates id member)

/-- Every type that a source can spell reads back once its qualifiers are taken off. -/
theorem Spellable.baseReadsBack (spellable : Spellable ctx scope ty) (orderly : ctx.Orderly)
    (keyed : ctx.Keyed) (start : TypePool.Kept .new ctx.pool)
    (untaken : ∀ name, (TypeId.ofPrimitiveName? name).isSome →
      ∀ id, scope.lookup? name ≠ some (.template id)) : BaseReadsBack ctx scope ty := by
  induction spellable with
  | primitive primitive proper =>
    exact baseReadsBack_primitive orderly start primitive proper untaken
  | @named id entry name live own called means =>
    obtain ⟨-, form⟩ := orderly.sound.indexed.defs id entry live
    refine baseReadsBack_form orderly start form (by simp [TypeForm.primitives]) (by simp) ?_ ?_
    · simp [TypeContext.shown, live, own]
    · simp only [TypeContext.formText, TypeContext.defText, live, own, called]
      exact spells_name means
  | applied live carries means types integers templates ih =>
    exact baseReadsBack_applied orderly keyed start live carries means
      (fun ty member => (ih ty member).readsBack orderly start) integers templates
  | pointer form part ih =>
    obtain ⟨-, ends, spells⟩ := ih.readsBack orderly start
    exact baseReadsBack_form orderly start form (by simp [TypeForm.primitives]) (by simp)
      (List.forall_mem_singleton.2 ends) (spells.pointer orderly form)
  | array form fits part ih =>
    obtain ⟨-, ends, spells⟩ := ih.readsBack orderly start
    exact baseReadsBack_form orderly start form (by simp [TypeForm.primitives]) (by simp)
      (List.forall_mem_singleton.2 ends) (spells.array orderly fits form)
  | slice form part ih =>
    obtain ⟨-, ends, spells⟩ := ih.readsBack orderly start
    exact baseReadsBack_form orderly start form (by simp [TypeForm.primitives]) (by simp)
      (List.forall_mem_singleton.2 ends) (spells.slice orderly form)
  | qualified made readable part ih => exact ih.qualify orderly readable made

end ReadsBack

/-- Where the names in the text of a type mean what they were printed for, the text resolves to the
type, in all tables that requests lead to. -/
theorem Scope.resolveText_display {config : TypeConfig}
    (leads : TypeContext.Leads { config } ctx)
    (untaken : ∀ name, (TypeId.ofPrimitiveName? name).isSome →
      ∀ id, scope.lookup? name ≠ some (.template id))
    (spellable : Spellable ctx scope ty) :
    ∃ later, TypeContext.Leads ctx later ∧
      outcome (scope.resolveText (ctx.display scope.names ty)) ctx = (.ok ty, later) := by
  have initial := TypeContext.orderly_initial config
  obtain ⟨orderly, -, extends_⟩ := leads.orderly initial
  have keyed := leads.keyed initial (TypeContext.keyed_initial config)
  have base := spellable.baseReadsBack orderly keyed extends_.pool untaken
  obtain ⟨spelling, reads, -, -, means⟩ := (base.readsBack orderly extends_.pool).spells
  rw [Scope.resolveText, reads.ofText]
  exact means ctx (.refl ctx)

/-! ### An instance with a type and an integer -/

/-- A table that holds the name of a template. -/
def boxNames : Interner := (Interner.bare.intern "Box").2

def boxName : Name := ⟨Interner.shardOf "Box", ⟨0, by decide⟩⟩

/-- A class template without parts, which takes a type and an integer. -/
def boxTemplate : TemplateDef where
  name := boxName
  parameters := [{ name := .empty, kind := .type }, { name := .empty, kind := .value .i32 }]
  body := .classType none [] []

/-- A scope in which only the template has a name. -/
def boxScope : Scope where
  names := boxNames
  own := ({} : Exports).addTemplate boxName ⟨0⟩
  imports := []

/-- The tables with the instance for pointers and a negative number. -/
def boxTables : TypeContext :=
  ({} : TypeContext).after [.register boxTemplate,
    .specialize ⟨0⟩ [.type .i32, .value (.int (-3))]]

theorem boxNames_eq : boxNames = Interner.bare.push "Box" 0 := by
  have absent : Interner.bare.get? "Box" = none := by
    simp [Interner.get?, Interner.bare, Shard.get?]
  have empty : Interner.bare.shards[(Interner.shardOf "Box").val].texts.size = 0 := by
    simp [Interner.bare]
  unfold boxNames Interner.intern
  simp [absent, empty]

theorem get?_boxNames (text : String) :
    boxNames.get? text = if text = "Box" then some boxName else none := by
  rw [boxNames_eq]
  by_cases same : text = "Box"
  · subst same
    simp [Interner.get?, Interner.push, Shard.get?, Shard.push, Interner.bare, boxName,
      Array.getElem_modify]
  · have other : "Box" ≠ text := fun equal => same equal.symm
    simp only [Interner.get?, Interner.push, Shard.get?, Shard.push, Interner.bare,
      if_neg same, Fin.getElem_fin, Vector.getElem_mk, Array.getElem_modify]
    split <;> simp [other]

theorem textOf_boxName : boxNames.textOf boxName = "Box" := by
  rw [boxNames_eq]
  simp [Interner.textOf, Interner.text?, Interner.push, Shard.push, Interner.bare, boxName,
    Array.getElem_modify]

theorem lookup?_boxScope (text : String) :
    boxScope.lookup? text = if text = "Box" then some (.template ⟨0⟩) else none := by
  have names : boxScope.names.get? text = if text = "Box" then some boxName else none :=
    get?_boxNames text
  unfold Scope.lookup?
  rw [names]
  by_cases same : text = "Box"
  · simp [same, boxScope, Exports.lookup?, Exports.addTemplate]
  · simp [same]

/-- The instance of the template for an integer type and a negative number is shown as a source
spells it, and what is shown resolves to the instance. -/
theorem resolveText_display_instance : ∃ ty later,
    boxTables.display boxScope.names ty = "Box<i32, -3>" ∧ TypeContext.Leads {} boxTables ∧
      Spellable boxTables boxScope ty ∧
      outcome (boxScope.resolveText "Box<i32, -3>") boxTables = (.ok ty, later) := by
  let arguments : List TemplateArgument := [.type .i32, .value (.int (-3))]
  let start : TypeContext := ({} : TypeContext).after [.register boxTemplate]
  have registered : start.templates.get? ⟨0⟩ = some boxTemplate := rfl
  have bound : start.bind ⟨0⟩ boxTemplate arguments = .ok arguments := rfl
  have absent : Specializer.find? { context := start } ⟨⟨0⟩, arguments⟩ = none := by
    change ({} : Std.HashMap SpecializationKey Instance)[_]? = none
    simp
  obtain ⟨ty, ran⟩ := ModuleSource.specializeType_empty (by decide) registered bound absent
  -- The tables come from two requests that mention nothing but primitive types.
  have known : Known ({} : TypeContext).extent boxTemplate :=
    known_templateDef.2 ⟨known_cons.2 ⟨known_parameter.2 ⟨fun _ _ _ => rfl, known_none⟩,
      known_cons.2 ⟨known_parameter.2 ⟨known_valueParam.2 (known_type.2 (by decide)), known_none⟩,
        known_nil⟩⟩, fun _ _ _ => rfl⟩
  have known' : Known start.extent arguments :=
    known_cons.2 ⟨known_typeArgument.2 (known_type.2 (by decide)),
      known_cons.2 ⟨known_valueArgument, known_nil⟩⟩
  have first : TypeContext.Leads {} start :=
    TypeContext.leads_perform (known_registerRequest.2 known)
  have second : TypeContext.Leads start boxTables :=
    TypeContext.leads_perform (known_specializeRequest.2 known')
  have leads := first.trans second
  have initial := TypeContext.orderly_initial {}
  obtain ⟨started, -, -⟩ := first.orderly initial
  obtain ⟨orderly, -, extends_⟩ := leads.orderly initial
  -- The instance is kept, and it is the type of a live definition.
  obtain ⟨template, registered', kept⟩ := TypeContext.instance_kept started.sound.indexed
    (TypeContext.specialize_of_specializeType ran)
  cases registered.symm.trans registered'
  obtain ⟨template, stored, nominal⟩ := orderly.sound.cached _ _ kept
  have stored' : boxTables.templates.get? ⟨0⟩ = some boxTemplate :=
    (second.orderly started).2.2.templates _ _ registered
  cases stored'.symm.trans stored
  obtain ⟨id, entry, live, same, shape, -⟩ := nominal rfl
  cases same
  have carries : entry.specialization = some ⟨⟨0⟩, arguments⟩ := shape.specialization
  have named : boxTables.templateName boxScope.names ⟨0⟩ = "Box" := by
    rw [TypeContext.templateName, stored']
    exact textOf_boxName
  have spellable : Spellable boxTables boxScope entry.type := by
    refine .applied live carries ⟨?_, ?_, ?_⟩ ?_ ?_ ?_
    · rw [named]
      exact ⟨by decide, by decide, by decide⟩
    · rw [named]
      decide
    · rw [named, lookup?_boxScope, if_pos rfl]
    · intro ty member
      obtain rfl : ty = .i32 := by simpa [arguments] using member
      exact .primitive (by decide) (by decide)
    · intro value member
      obtain rfl : value = -3 := by simpa [arguments] using member
      decide
    · intro id member
      exact absurd member (by simp [arguments])
  have untaken : ∀ name, (TypeId.ofPrimitiveName? name).isSome →
      ∀ id, boxScope.lookup? name ≠ some (.template id) := by
    intro name primitive id
    rw [lookup?_boxScope, if_neg]
    · simp
    · rintro rfl
      exact absurd primitive (by decide)
  have shown : boxTables.display boxScope.names entry.type = "Box<i32, -3>" := by
    obtain ⟨-, form⟩ := orderly.sound.indexed.defs id entry live
    have keyed := leads.keyed initial (TypeContext.keyed_initial {})
    obtain ⟨-, ends, -⟩ := (spellable.baseReadsBack orderly keyed extends_.pool untaken).readsBack
      orderly extends_.pool
    have part : boxTables.display boxScope.names .i32 = "i32" :=
      TypeContext.display_primitive rfl
    rw [TypeContext.display_eq ends
      (primitiveName?_of_form extends_.pool form (by simp [TypeForm.primitives])) form]
    simp only [TypeContext.formText, TypeContext.defText, live, carries, TypeContext.keyText, named,
      arguments, List.map_cons, List.map_nil, TypeContext.argumentText, part]
    rfl
  obtain ⟨later, -, resolved⟩ := Scope.resolveText_display leads untaken spellable
  rw [shown] at resolved
  exact ⟨entry.type, later, shown, leads, spellable, resolved⟩

end FrontEnd
