import FrontEnd.Proofs.Declaration.Translation
import FrontEnd.Proofs.Renaming.Stated
import FrontEnd.Proofs.Specialization.Living

/-!
Resolving names, whatever account is kept of the types that are in hand. Names stand for types in
hand, and what is made of them by the requests that resolving makes is in hand again. So an account
that is kept for single requests is kept whether or not a spelling has a meaning. One such account
is that of the types that the tables gave out: resolving makes requests for them and nothing else.
-/

namespace FrontEnd

open TypeContext (Leads)

/-- An account of the types in hand: what holds of the tables, what may become of them, and what
holds of the types. -/
structure Custody where
  fine : TypeContext → Prop
  onward : TypeContext → TypeContext → Prop
  holds : TypeContext → TypeId → Prop
  refl : ∀ {ctx}, fine ctx → onward ctx ctx
  trans : ∀ {before middle after}, onward before middle → onward middle after → onward before after
  fine_onward : ∀ {before after}, fine before → onward before after → fine after
  holds_onward : ∀ {before after ty}, fine before → onward before after → holds before ty →
    holds after ty
  primitive : ∀ {ctx} {ty : TypeId}, fine ctx → ty.index < TypeId.primitiveCount → holds ctx ty
  intern : ∀ {ctx form}, fine ctx → (∀ kind id, form ≠ .nominal kind id) →
    (∀ part ∈ form.children, holds ctx part) →
    onward ctx (ctx.intern form).2 ∧ holds (ctx.intern form).2 (ctx.intern form).1
  qualified : ∀ {ctx ty} quals, fine ctx → holds ctx ty →
    onward ctx (ctx.qualified ty quals).2 ∧ holds (ctx.qualified ty quals).2 (ctx.qualified ty quals).1
  specialize : ∀ {ctx arguments} id, fine ctx →
    (∀ ty ∈ arguments.flatMap TemplateArgument.stated, holds ctx ty) →
    onward ctx (ctx.specializeType id arguments).2 ∧
      ∀ ty, (ctx.specializeType id arguments).1 = .ok ty →
        holds (ctx.specializeType id arguments).2 ty

namespace Custody

variable {custody : Custody} {ctx middle : TypeContext} {reading : Reading}

/-- All types that names stand for are in hand. -/
structure Covers (custody : Custody) (reading : Reading) (ctx : TypeContext) : Prop where
  argument : ∀ name argument, reading.argument? name = some argument →
    ∀ ty ∈ argument.stated, custody.holds ctx ty
  lookup : ∀ name ty, reading.lookup? name = some (.type ty) → custody.holds ctx ty

theorem Covers.onward (covers : custody.Covers reading ctx) (fine : custody.fine ctx)
    (onward : custody.onward ctx middle) : custody.Covers reading middle where
  argument name argument found ty member :=
    custody.holds_onward fine onward (covers.argument name argument found ty member)
  lookup name ty found := custody.holds_onward fine onward (covers.lookup name ty found)

/-- The account is kept by the steps, and covers what they give. -/
def Keeps (custody : Custody) (ctx : TypeContext) (steps : ResolveM α)
    (means : TypeContext → α → Prop) : Prop :=
  custody.onward ctx (outcome steps ctx).2 ∧
    ∀ value, (outcome steps ctx).1 = .ok value → means (outcome steps ctx).2 value

/-- All types among arguments are in hand. -/
def HoldsAll (custody : Custody) (ctx : TypeContext) (arguments : List TemplateArgument) : Prop :=
  ∀ ty ∈ arguments.flatMap TemplateArgument.stated, custody.holds ctx ty

section Steps

variable {means : TypeContext → α → Prop} {means' : TypeContext → β → Prop} {steps : ResolveM α}
  {rest : α → ResolveM β}

theorem keeps_pure {value : α} (fine : custody.fine ctx) (holds : means ctx value) :
    custody.Keeps ctx (pure value) means := by
  refine ⟨custody.refl fine, fun result same => ?_⟩
  cases same
  exact holds

theorem keeps_throw (fine : custody.fine ctx) (err : DeclareError) :
    custody.Keeps ctx (throw err) means := by
  refine ⟨custody.refl fine, fun result same => ?_⟩
  cases same

theorem keeps_bind (fine : custody.fine ctx) (first : custody.Keeps ctx steps means)
    (second : ∀ value middle, custody.fine middle → custody.onward ctx middle →
      means middle value → custody.Keeps middle (rest value) means') :
    custody.Keeps ctx (steps >>= rest) means' := by
  obtain ⟨onward, holds⟩ := first
  unfold Keeps
  rw [outcome_bind]
  rcases ran : outcome steps ctx with ⟨err | value, middle⟩ <;> rw [ran] at onward holds
  · exact ⟨onward, fun result same => by cases same⟩
  · obtain ⟨onward', holds'⟩ := second value middle (custody.fine_onward fine onward) onward
      (holds value rfl)
    exact ⟨custody.trans onward onward', holds'⟩

theorem keeps_intern {form : TypeForm} (fine : custody.fine ctx)
    (plain : ∀ kind id, form ≠ .nominal kind id) (parts : ∀ part ∈ form.children, custody.holds ctx part) :
    custody.Keeps ctx (Scope.intern form) custody.holds := by
  obtain ⟨onward, holds⟩ := custody.intern fine plain parts
  refine ⟨onward, fun ty same => ?_⟩
  cases same
  exact holds

/-- Steps that give a type, of which a form is made. -/
theorem keeps_form {steps : ResolveM TypeId} {form : TypeId → TypeForm} (fine : custody.fine ctx)
    (first : custody.Keeps ctx steps custody.holds) (plain : ∀ ty kind id, form ty ≠ .nominal kind id)
    (parts : ∀ ty, (form ty).children = [ty]) :
    custody.Keeps ctx (do Scope.intern (form (← steps))) custody.holds := by
  refine keeps_bind fine first fun ty middle fine _ holds => keeps_intern fine (plain ty) ?_
  rw [parts]
  exact List.forall_mem_singleton.2 holds

theorem keeps_qualified {ty : TypeId} (fine : custody.fine ctx) (holds : custody.holds ctx ty)
    (quals : Qualifiers) : custody.Keeps ctx (Scope.qualified ty quals) custody.holds := by
  obtain ⟨onward, holds⟩ := custody.qualified quals fine holds
  refine ⟨onward, fun ty same => ?_⟩
  cases same
  exact holds

theorem keeps_specialize {arguments : List TemplateArgument} (fine : custody.fine ctx)
    (all : custody.HoldsAll ctx arguments) (id : TemplateId) :
    custody.Keeps ctx (Scope.specialize id arguments) custody.holds := by
  obtain ⟨onward, holds⟩ := custody.specialize id fine all
  have after : (outcome (Scope.specialize id arguments) ctx).2 =
    (ctx.specializeType id arguments).2 := congrArg Prod.snd (outcome_specialize id arguments ctx)
  refine ⟨after ▸ onward, fun ty same => ?_⟩
  rw [after]
  exact holds ty (congrArg Prod.fst (specialize_ok_iff.1 (Prod.ext same rfl)))

end Steps

/-! ### Spellings -/

private theorem keeps_name (fine : custody.fine ctx) (covers : custody.Covers reading ctx)
    {name : String} {isBare : Bool} {arguments : ResolveM (List TemplateArgument)}
    (given : custody.Keeps ctx arguments custody.HoldsAll) :
    custody.Keeps ctx (reading.resolveName name isBare arguments) custody.holds := by
  unfold Reading.resolveName
  split
  · rename_i ty found
    split
    · exact keeps_pure fine (covers.lookup name ty found)
    · exact keeps_throw fine _
  · rename_i id found
    exact keeps_bind fine given fun value middle fine _ all => keeps_specialize fine all id
  · exact keeps_throw fine _

mutual

theorem keeps_resolve : (spelling : Spelling) → ∀ {ctx : TypeContext}, custody.fine ctx →
    custody.Covers reading ctx → custody.Keeps ctx (reading.resolve spelling) custody.holds
  | .pointer target, ctx, fine, covers => by
    rw [Reading.resolve]
    exact keeps_form fine (keeps_resolve target fine covers) nofun fun _ => rfl
  | .slice element, ctx, fine, covers => by
    rw [Reading.resolve]
    exact keeps_form fine (keeps_resolve element fine covers) nofun fun _ => rfl
  | .array element (.literal length), ctx, fine, covers => by
    rw [Reading.resolve]
    exact keeps_form fine (keeps_resolve element fine covers) nofun fun _ => rfl
  | .array element (.parameter name), ctx, fine, covers => by
    rw [Reading.resolve]
    split
    · exact keeps_form fine (keeps_resolve element fine covers) nofun fun _ => rfl
    · exact keeps_throw fine _
  | .qualified base quals, ctx, fine, covers => by
    rw [Reading.resolve]
    exact keeps_bind fine (keeps_resolve base fine covers) fun ty middle fine _ holds =>
      keeps_qualified fine holds quals
  | .named name, ctx, fine, covers => by
    rw [Reading.resolve]
    split
    · rename_i ty stands
      exact keeps_pure fine (covers.argument name _ stands ty (List.mem_singleton.2 rfl))
    · exact keeps_throw fine _
    · split
      · rename_i ty named
        exact keeps_pure fine
          (custody.primitive fine (TypeId.lt_primitiveCount_of_ofPrimitiveName? named))
      · exact keeps_name fine covers (keeps_pure fine nofun)
  | .applied name arguments, ctx, fine, covers => by
    rw [Reading.resolve]
    split
    · rename_i id stands
      exact keeps_bind fine (keeps_arguments arguments fine covers) fun given middle fine _ all =>
        keeps_specialize fine all id
    · exact keeps_throw fine _
    · exact keeps_name fine covers (keeps_arguments arguments fine covers)

theorem keeps_argument : (argument : SpelledArgument) → ∀ {ctx : TypeContext}, custody.fine ctx →
    custody.Covers reading ctx → custody.Keeps ctx (reading.resolveArgument argument)
      fun ctx given => ∀ ty ∈ given.stated, custody.holds ctx ty
  | .int value, ctx, fine, _ => by
    rw [Reading.resolveArgument]
    exact keeps_pure fine nofun
  | .bool value, ctx, fine, _ => by
    rw [Reading.resolveArgument]
    exact keeps_pure fine nofun
  | .type spelling, ctx, fine, covers => by
    rw [Reading.resolveArgument]
    split
    · rename_i argument bare
      refine keeps_pure fine ?_
      cases spelling with
      | named name =>
        cases stands : reading.argument? name with
        | some given =>
          simp only [Reading.bare?, stands, Option.some_or, Option.some.injEq] at bare
          exact bare ▸ covers.argument name given stands
        | none =>
          simp only [Reading.bare?, stands, Option.none_or, Option.map_eq_some_iff] at bare
          obtain ⟨id, -, rfl⟩ := bare
          exact nofun
      | _ => cases bare
    · exact keeps_bind fine (keeps_resolve spelling fine covers) fun ty middle fine _ holds =>
        keeps_pure fine (List.forall_mem_singleton.2 holds)

theorem keeps_arguments : (arguments : List SpelledArgument) → ∀ {ctx : TypeContext},
    custody.fine ctx → custody.Covers reading ctx →
    custody.Keeps ctx (reading.resolveArguments arguments) custody.HoldsAll
  | [], ctx, fine, _ => by
    rw [Reading.resolveArguments]
    exact keeps_pure fine nofun
  | argument :: rest, ctx, fine, covers => by
    rw [Reading.resolveArguments]
    refine keeps_bind fine (keeps_argument argument fine covers)
      fun given middle fine' onward holds => ?_
    refine keeps_bind fine' (keeps_arguments rest fine' (covers.onward fine onward))
      fun others last fine'' onward' all => keeps_pure fine'' ?_
    exact List.forall_mem_append.2
      ⟨fun ty member => custody.holds_onward fine' onward' (holds ty member), all⟩

end

theorem keeps_text (text : String) (fine : custody.fine ctx) (covers : custody.Covers reading ctx) :
    custody.Keeps ctx (reading.resolveText text) custody.holds := by
  unfold Reading.resolveText
  split
  · exact keeps_resolve _ fine covers
  · exact keeps_throw fine _

end Custody

variable {ctx : TypeContext} {reading : Reading} {inner outer extent : Extent}

/-- All types and arguments that names stand for were given out. -/
structure Reading.Inside (reading : Reading) (extent : Extent) : Prop where
  argument : ∀ name argument, reading.argument? name = some argument → Known extent argument
  lookup : ∀ name ty, reading.lookup? name = some (.type ty) → Known extent ty

theorem Reading.Inside.within (inside : reading.Inside inner) (within : inner.Within outer) :
    reading.Inside outer where
  argument name argument found := (inside.argument name argument found).within within
  lookup name ty found := (inside.lookup name ty found).within within

theorem TypeContext.Orderly.primitive {ty : TypeId} (orderly : ctx.Orderly)
    (small : ty.index < TypeId.primitiveCount) : Known ctx.extent ty :=
  known_type.2 (orderly.twin.primitive ty small).1

/-! ### Requests and nothing else -/

/-- The steps make requests of the tables only, and what they give was given out. -/
def Requests [Renames α] (ctx : TypeContext) (steps : ResolveM α) : Prop :=
  Leads ctx (outcome steps ctx).2 ∧ ∀ value, (outcome steps ctx).1 = .ok value →
    Known (outcome steps ctx).2.extent value

/-- A form is known if its parts are. -/
theorem known_form {form : TypeForm} (plain : ∀ kind id, form ≠ .nominal kind id)
    (parts : ∀ part ∈ form.children, Known extent part) : Known extent form := by
  cases form with
  | nominal kind id => exact absurd rfl (plain kind id)
  | pointer target => exact known_pointer.2 (parts target (List.mem_singleton.2 rfl))
  | array element length => exact known_array.2 (parts element (List.mem_singleton.2 rfl))
  | slice element => exact known_slice.2 (parts element (List.mem_singleton.2 rfl))
  | function parameters result variadic =>
    exact known_function.2 ⟨known_list.2 fun ty member => parts ty (List.mem_cons_of_mem _ member),
      parts result List.mem_cons_self⟩
  | qualified base quals => exact known_qualified.2 (parts base (List.mem_singleton.2 rfl))
  | _ => exact fun _ _ _ => rfl

/-- The account of the types that were given out, by requests that mention only such types. -/
def givenOut : Custody where
  fine := TypeContext.Orderly
  onward := Leads
  holds ctx ty := Known ctx.extent ty
  refl _ := .refl _
  trans := .trans
  fine_onward orderly leads := (leads.orderly orderly).1
  holds_onward orderly leads known := known.within (leads.orderly orderly).2.1
  primitive orderly small := orderly.primitive small
  intern orderly plain parts := by
    have known := known_form plain parts
    obtain ⟨-, -, -, -, given, -⟩ := orderly.twin.intern known
    exact ⟨TypeContext.leads_perform (known_internRequest.2 known), given⟩
  qualified quals orderly known := by
    obtain ⟨-, -, -, -, given, -⟩ := orderly.twin.qualified known quals
    exact ⟨TypeContext.leads_perform (known_qualifyRequest.2 known), given⟩
  specialize id orderly all := by
    have known := known_allStated.2 all
    refine ⟨TypeContext.leads_perform (known_specializeRequest.2 known), fun ty given => ?_⟩
    obtain ⟨-, -, -, -, inner, -⟩ := orderly.twin.specialize known
    rw [TypeContext.specialize_of_specializeType given] at inner
    exact known_instanceType.1 (known_ok.1 inner)

theorem resolveText_requests (text : String) (orderly : ctx.Orderly)
    (inside : reading.Inside ctx.extent) : Requests ctx (reading.resolveText text) :=
  Custody.keeps_text text (show givenOut.fine ctx from orderly)
    ⟨fun name argument found => known_stated.1 (inside.argument name argument found), inside.lookup⟩

/-- Looking up among what is declared so far changes the tables and nothing else. -/
theorem inScope_run {source : ModuleSource} {state : Declaring} (steps : Scope → ResolveM α) :
    (source.inScope steps).run state =
      ((outcome (steps ⟨source.names, state.exports, source.imports⟩) state.types).1,
        { state with types :=
          (outcome (steps ⟨source.names, state.exports, source.imports⟩) state.types).2 }) := rfl

end FrontEnd
