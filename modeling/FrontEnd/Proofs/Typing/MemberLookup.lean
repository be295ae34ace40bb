import FrontEnd.Proofs.Outcome
import FrontEnd.Proofs.Typing.Inheritance

/-!
Looking a member up. The types in the order of search are asked one after the other for the first
field of a name, or else for the first method; if none of them has one, each name that any of them
declares is told once.
-/

namespace FrontEnd

/-- The names that a body declares, those of the fields first. -/
def DefBody.declaredNames (body : DefBody) : List Name :=
  body.members.map (·.name) ++ body.methods.map (·.name)

namespace TypeContext

variable {ctx : TypeContext} {ty owner : TypeId} {name : Name} {body : DefBody}
  {found : MemberRef} {known names : List Name} {bodies : List (TypeId × DefBody)}

/-! ### One type -/

/-- The first field of a name, or the first method if no field has the name. -/
inductive Declares (owner : TypeId) (body : DefBody) (name : Name) : MemberRef → Prop where
  | field {index : Nat} {member : Member} (here : body.members[index]? = some member)
      (named : member.name = name)
      (first : ∀ earlier < index, ∀ other, body.members[earlier]? = some other → other.name ≠ name) :
      Declares owner body name (.field owner index member.type)
  | method {index : Nat} {method : Method} (fieldless : ∀ member ∈ body.members, member.name ≠ name)
      (here : body.methods[index]? = some method) (named : method.name = name)
      (first : ∀ earlier < index, ∀ other, body.methods[earlier]? = some other → other.name ≠ name) :
      Declares owner body name (.method owner index method.signature)

theorem findIdx?_name {values : List α} {nameOf : α → Name} {index : Nat} :
    values.findIdx? (nameOf · == name) = some index ↔
      (∃ value, values[index]? = some value ∧ nameOf value = name) ∧
        ∀ earlier < index, ∀ other, values[earlier]? = some other → nameOf other ≠ name := by
  rw [List.findIdx?_eq_some_iff_getElem]
  constructor
  · rintro ⟨inside, named, first⟩
    refine ⟨⟨values[index], by simp, by simpa using named⟩, fun earlier less other there => ?_⟩
    obtain ⟨_, rfl⟩ := List.getElem?_eq_some_iff.1 there
    simpa using first earlier less
  · rintro ⟨⟨value, here, named⟩, first⟩
    obtain ⟨inside, rfl⟩ := List.getElem?_eq_some_iff.1 here
    exact ⟨inside, by simpa using named, fun earlier less => by
      simpa using first earlier less _ (List.getElem?_eq_getElem (by omega))⟩

theorem findIdx?_nameless {values : List α} {nameOf : α → Name} :
    values.findIdx? (nameOf · == name) = none ↔ ∀ value ∈ values, nameOf value ≠ name := by
  simp

theorem ownMember?_eq_some : ownMember? owner body name = some found ↔
    Declares owner body name found := by
  unfold ownMember?
  cases field : body.members.findIdx? (·.name == name) with
  | some index =>
    obtain ⟨⟨member, here, named⟩, first⟩ := findIdx?_name.1 field
    simp only [here, Option.map_some, Option.some.injEq]
    refine ⟨fun same => same ▸ .field here named first, ?_⟩
    rintro (⟨here', named', first'⟩ | ⟨fieldless, -, -, -⟩)
    · have same := findIdx?_name.2 ⟨⟨_, here', named'⟩, first'⟩
      obtain rfl := Option.some.inj (field.symm.trans same)
      rw [Option.some.inj (here.symm.trans here')]
    · exact absurd named (fieldless member (List.mem_of_getElem? here))
  | none =>
    have fieldless := findIdx?_nameless.1 field
    simp only [Option.bind_eq_some_iff, Option.map_eq_some_iff]
    constructor
    · rintro ⟨index, there, method, here, rfl⟩
      obtain ⟨⟨_, here', named⟩, first⟩ := findIdx?_name.1 there
      obtain rfl := Option.some.inj (here.symm.trans here')
      exact .method fieldless here named first
    · rintro (⟨here, named, -⟩ | ⟨-, here, named, first⟩)
      · exact absurd named (fieldless _ (List.mem_of_getElem? here))
      · exact ⟨_, findIdx?_name.2 ⟨⟨_, here, named⟩, first⟩, _, here, rfl⟩

theorem ownMember?_eq_none : ownMember? owner body name = none ↔ name ∉ body.declaredNames := by
  have undeclared : name ∉ body.declaredNames ↔
      (∀ member ∈ body.members, member.name ≠ name) ∧
        ∀ method ∈ body.methods, method.name ≠ name := by
    simp [DefBody.declaredNames]
  rw [undeclared, ← findIdx?_nameless, ← findIdx?_nameless, ownMember?]
  cases field : body.members.findIdx? (·.name == name) with
  | some index =>
    obtain ⟨⟨member, here, -⟩, -⟩ := findIdx?_name.1 field
    simp [here]
  | none =>
    cases there : body.methods.findIdx? (·.name == name) with
    | some index =>
      obtain ⟨⟨method, here, -⟩, -⟩ := findIdx?_name.1 there
      simp [here]
    | none => simp

/-! ### Names -/

theorem foldl_addNames (known : List Name) (lists : List (List Name)) :
    lists.foldl addNames known = addNames known lists.flatten :=
  List.foldl_flatten.symm

theorem addNames_cons (known : List Name) (name : Name) (rest : List Name) :
    addNames known (name :: rest) =
      addNames (if name ∈ known then known else known ++ [name]) rest := rfl

/-- Only names that are not there are added, and each of them once. -/
theorem addNames_eq (known names : List Name) :
    addNames known names = known ++ (names.filter (· ∉ known)).eraseDups := by
  induction names generalizing known with
  | nil => simp [addNames]
  | cons name rest ih =>
    rw [addNames_cons, ih]
    by_cases seen : name ∈ known
    · simp [seen]
    · -- A new name is passed over in the rest, as those that were known before.
      have fresh : (rest.filter (· ∉ known)).filter (fun other => !other == name) =
          rest.filter (· ∉ known ++ [name]) := by
        rw [List.filter_filter]
        exact List.filter_congr fun other _ => by grind
      simp only [seen, if_false]
      rw [List.filter_cons_of_pos (by simpa using seen), List.eraseDups_cons, fresh]
      simp

theorem addNames_nil (names : List Name) : addNames [] names = names.eraseDups := by
  simp [addNames_eq]

theorem nodup_addNames (distinct : known.Nodup) (names : List Name) :
    (addNames known names).Nodup := by
  induction names generalizing known with
  | nil => exact distinct
  | cons name rest ih =>
    rw [addNames_cons]
    refine ih ?_
    split
    · exact distinct
    · rename_i fresh
      exact List.nodup_append.2 ⟨distinct, List.nodup_singleton _, by grind⟩

/-! ### The types in the order of search -/

/-- It is known of each type in the order of search whether it has a body. -/
def Searchable (ctx : TypeContext) (ty : TypeId) : Prop :=
  ∀ owner ∈ ctx.searchOrder ty, owner.index < ctx.pool.size ∧ ∃ body, ctx.bodyOf owner = .ok body

/-- A type with its body, if it has one. -/
def withBody? (ctx : TypeContext) (owner : TypeId) : Option (TypeId × DefBody) :=
  (ctx.bodyOf owner).toOption.join.map (owner, ·)

theorem withBody?_of_bodyOf (behind : ctx.bodyOf owner = .ok (some body)) :
    ctx.withBody? owner = some (owner, body) := by
  rw [withBody?, behind]
  rfl

/-- The types in the order of search that have a body. -/
def searched (ctx : TypeContext) (ty : TypeId) : List (TypeId × DefBody) :=
  (ctx.searchOrder ty).filterMap ctx.withBody?

theorem mem_searched : (owner, body) ∈ ctx.searched ty ↔
    owner ∈ ctx.searchOrder ty ∧ ctx.bodyOf owner = .ok (some body) := by
  simp only [searched, withBody?, List.mem_filterMap, Option.map_eq_some_iff, Prod.mk.injEq]
  constructor
  · rintro ⟨other, listed, _, there, rfl, rfl⟩
    refine ⟨listed, ?_⟩
    cases answer : ctx.bodyOf other with
    | error err => rw [answer] at there; cases there
    | ok answer' =>
      rw [answer] at there
      exact congrArg _ there
  · rintro ⟨listed, there⟩
    exact ⟨owner, listed, body, by rw [there]; rfl, rfl, rfl⟩

theorem bodiesInOrder_of_searchable (searchable : ctx.Searchable ty) :
    ctx.bodiesInOrder ty = .ok (ctx.searched ty) := by
  have rooted : ctx.Rooted ty := rooted_iff.2 fun owner listed => (searchable owner listed).1
  have each : (ctx.searchOrder ty).mapM (fun owner => do return (owner, ← ctx.bodyOf owner)) =
      .ok ((ctx.searchOrder ty).map fun owner => (owner, (ctx.bodyOf owner).toOption.join)) := by
    refine (mapM_congr fun owner listed => ?_).trans List.mapM_pure
    obtain ⟨-, body, there⟩ := searchable owner listed
    rw [there]
    rfl
  rw [bodiesInOrder, knownOrder_of_rooted rooted]
  dsimp only [Bind.bind, Except.bind] at each ⊢
  rw [each]
  exact congrArg Except.ok List.filterMap_map

theorem searchable_of_bodiesInOrder (there : ctx.bodiesInOrder ty = .ok bodies) :
    ctx.Searchable ty := by
  obtain ⟨order, first, there⟩ := bind_eq_ok there
  obtain ⟨answers, each, -⟩ := bind_eq_ok there
  have rooted := rooted_of_knownOrder first
  obtain rfl := Except.ok.inj ((knownOrder_of_rooted rooted).symm.trans first)
  refine fun owner listed => ⟨rooted_iff.1 rooted owner listed, ?_⟩
  obtain ⟨pair, given⟩ := exists_of_mapM_eq_ok each owner listed
  obtain ⟨body, behind, -⟩ := bind_eq_ok given
  exact ⟨body, behind⟩

theorem bodiesInOrder_foreign (foreign : ¬ ctx.Searchable ty) :
    ∃ foreign, ctx.bodiesInOrder ty = .error (.foreignType foreign) := by
  cases answer : ctx.bodiesInOrder ty with
  | ok bodies => exact absurd (searchable_of_bodiesInOrder answer) foreign
  | error err =>
    obtain ⟨foreign, rfl⟩ := onlyForeign_bodiesInOrder ctx ty err answer
    exact ⟨foreign, rfl⟩

/-! ### The lookup -/

/-- The declaration of a name in the first type in the order of search that has one. -/
def FindsFirst (ctx : TypeContext) (ty : TypeId) (name : Name) (found : MemberRef) : Prop :=
  ∃ before owner body after, ctx.searched ty = before ++ (owner, body) :: after ∧
    (∀ passed ∈ before, name ∉ passed.2.declaredNames) ∧ Declares owner body name found

/-- The names that the types in the order of search declare, each of them once. -/
def searchedNames (ctx : TypeContext) (ty : TypeId) : List Name :=
  ((ctx.searched ty).flatMap (·.2.declaredNames)).eraseDups

theorem findSome?_ownMember? : (ctx.searched ty).findSome?
      (fun (owner, body) => ownMember? owner body name) = some found ↔
    ctx.FindsFirst ty name found := by
  rw [List.findSome?_eq_some_iff]
  constructor
  · rintro ⟨before, ⟨owner, body⟩, after, split, own, passed⟩
    exact ⟨before, owner, body, after, split, fun pair listed => ownMember?_eq_none.1 (passed pair listed),
      ownMember?_eq_some.1 own⟩
  · rintro ⟨before, owner, body, after, split, passed, own⟩
    exact ⟨before, (owner, body), after, split, ownMember?_eq_some.2 own,
      fun pair listed => ownMember?_eq_none.2 (passed pair listed)⟩

theorem findSome?_ownMember?_none : (ctx.searched ty).findSome?
      (fun (owner, body) => ownMember? owner body name) = none ↔
    ∀ pair ∈ ctx.searched ty, name ∉ pair.2.declaredNames := by
  rw [List.findSome?_eq_none_iff]
  exact forall₂_congr fun pair _ => ownMember?_eq_none

theorem lookupMember_of_searchable (searchable : ctx.Searchable ty) (name : Name) :
    ctx.lookupMember ty name =
      match (ctx.searched ty).findSome? fun (owner, body) => ownMember? owner body name with
      | some found => .ok found
      | none => .error (.memberNotFound ty name (ctx.searchedNames ty)) := by
  have names : ((ctx.searched ty).map (·.2.declaredNames)).foldl addNames [] =
      ctx.searchedNames ty := by
    rw [foldl_addNames, addNames_nil, searchedNames, List.flatMap_def]
  rw [lookupMember, bodiesInOrder_of_searchable searchable, ← names]
  rfl

theorem lookupMember_foreign (name : Name) (foreign : ¬ ctx.Searchable ty) :
    ∃ foreign, ctx.lookupMember ty name = .error (.foreignType foreign) := by
  obtain ⟨foreign, there⟩ := bodiesInOrder_foreign foreign
  rw [lookupMember, there]
  exact ⟨foreign, rfl⟩

/-- A member is found that the first type in the order of search declares, if any does. -/
theorem lookupMember_eq_ok_iff : ctx.lookupMember ty name = .ok found ↔
    ctx.Searchable ty ∧ ctx.FindsFirst ty name found := by
  by_cases searchable : ctx.Searchable ty
  · rw [lookupMember_of_searchable searchable, ← findSome?_ownMember?]
    split <;> simp [*]
  · obtain ⟨foreign, there⟩ := lookupMember_foreign name searchable
    simp [there, searchable]

/-- If no type in the order of search declares the name, each name that they declare is told. -/
theorem lookupMember_missing_iff : ctx.lookupMember ty name = .error (.memberNotFound ty name names) ↔
    ctx.Searchable ty ∧ (∀ pair ∈ ctx.searched ty, name ∉ pair.2.declaredNames) ∧
      names = ctx.searchedNames ty := by
  by_cases searchable : ctx.Searchable ty
  · rw [lookupMember_of_searchable searchable, ← findSome?_ownMember?_none]
    split <;> simp [*, eq_comm]
  · obtain ⟨foreign, there⟩ := lookupMember_foreign name searchable
    simp [there, searchable]

theorem nodup_searchedNames (ctx : TypeContext) (ty : TypeId) : (ctx.searchedNames ty).Nodup := by
  rw [searchedNames, ← addNames_nil]
  exact nodup_addNames List.nodup_nil _

end TypeContext

end FrontEnd
