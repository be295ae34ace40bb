import FrontEnd.Proofs.Overload.OtherMethods
import FrontEnd.Proofs.Overload.Resolution
import FrontEnd.Proofs.Typing.MemberLookup

/-!
Calls of methods. A call means the methods of its name in one type alone: the first in the order of
search that has any. Where no field has the name, this is the type in which a lookup finds it. The
methods of the types further on in the order make no difference.
-/

namespace FrontEnd

/-- The signatures of the methods of a name, in the order of declaration. -/
def DefBody.overloads (body : DefBody) (name : Name) : List TypeId :=
  (body.methods.filter (·.name == name)).map (·.signature)

namespace TypeContext

variable {ctx ctx' : TypeContext} {receiver owner : TypeId} {name : Name} {body : DefBody}
  {arguments : List TypeId} {call : MethodMatch} {before after : List (TypeId × DefBody)}

/-! ### The methods of a name -/

theorem mem_methodsNamed {index : Nat} {method : Method} : (index, method) ∈ methodsNamed body name ↔
    body.methods[index]? = some method ∧ method.name = name := by
  simp [methodsNamed, List.mem_zipIdx_iff_getElem?]

theorem methodsNamed_methods (body : DefBody) (name : Name) :
    (methodsNamed body name).map Prod.snd = body.methods.filter (·.name == name) := by
  rw [methodsNamed, List.map_map]
  exact filter_zipIdx_fst body.methods (·.name == name)

theorem methodsNamed_signatures (body : DefBody) (name : Name) :
    (methodsNamed body name).map (·.2.signature) = body.overloads name := by
  rw [DefBody.overloads, ← methodsNamed_methods, List.map_map]
  rfl

theorem methodsNamed_eq_nil : methodsNamed body name = [] ↔
    ∀ method ∈ body.methods, method.name ≠ name := by
  rw [← List.map_eq_nil_iff (f := Prod.snd), methodsNamed_methods]
  simp

/-! ### Calls -/

/-- A call means the methods of the first type in the order of search that has any of the name. -/
theorem resolveMethodCall_of_searchable (searchable : ctx.Searchable receiver) (name : Name)
    (arguments : List TypeId) : ctx.resolveMethodCall receiver name arguments =
      match (ctx.searched receiver).find? fun (_, body) => methodsNamed body name ≠ [] with
      | none => .error (.memberNotFound receiver name
          ((ctx.searched receiver).flatMap (·.2.methods.map (·.name))).eraseDups)
      | some (owner, body) => (ctx.resolveOverload name (body.overloads name) arguments).map
          fun overload =>
            ⟨owner, (((methodsNamed body name)[overload.index]?).map Prod.fst).getD 0, overload⟩ := by
  have names : ((ctx.searched receiver).map (·.2.methods.map (·.name))).foldl addNames [] =
      ((ctx.searched receiver).flatMap (·.2.methods.map (·.name))).eraseDups := by
    rw [foldl_addNames, addNames_nil, List.flatMap_def]
  rw [resolveMethodCall, bodiesInOrder_of_searchable searchable, ← names]
  dsimp only [Bind.bind, Except.bind]
  generalize (ctx.searched receiver).find? _ = first
  obtain _ | ⟨owner, body⟩ := first
  · rfl
  · dsimp only
    rw [methodsNamed_signatures]
    cases ctx.resolveOverload name (body.overloads name) arguments <;> rfl

theorem resolveMethodCall_foreign (name : Name) (arguments : List TypeId)
    (foreign : ¬ ctx.Searchable receiver) :
    ∃ foreign, ctx.resolveMethodCall receiver name arguments = .error (.foreignType foreign) := by
  obtain ⟨foreign, there⟩ := bodiesInOrder_foreign foreign
  rw [resolveMethodCall, there]
  exact ⟨foreign, rfl⟩

theorem resolveOverload_ne_memberNotFound {candidates : List TypeId} {ty : TypeId}
    {missing : List Name} :
    ctx.resolveOverload name candidates arguments ≠ .error (.memberNotFound ty name missing) := by
  by_cases ranked : ctx.Ranked candidates arguments
  · rcases resolveOverload_cases name ranked with ⟨found, same⟩ | same | ⟨signatures, same⟩ <;>
      simp [same]
  · obtain ⟨foreign, same⟩ := resolveOverload_foreign name ranked
    simp [same]

/-- The owner of a call is the first type in the order of search that has methods of the name, and
the candidates are these methods. -/
theorem resolveMethodCall_owner (searchable : ctx.Searchable receiver)
    (split : ctx.searched receiver = before ++ (owner, body) :: after)
    (passed : ∀ pair ∈ before, ∀ method ∈ pair.2.methods, method.name ≠ name)
    (own : ∃ method ∈ body.methods, method.name = name) :
    (ctx.resolveMethodCall receiver name arguments).map MethodMatch.overload =
        ctx.resolveOverload name (body.overloads name) arguments ∧
      ∀ call, ctx.resolveMethodCall receiver name arguments = .ok call → call.owner = owner := by
  have first : (ctx.searched receiver).find? (fun (_, body) => methodsNamed body name ≠ []) =
      some (owner, body) := by
    rw [List.find?_eq_some_iff_append]
    refine ⟨?_, before, after, split, fun pair listed => ?_⟩
    · obtain ⟨method, listed, named⟩ := own
      simpa [methodsNamed_eq_nil] using ⟨method, listed, named⟩
    · simpa [methodsNamed_eq_nil] using passed pair listed
  rw [resolveMethodCall_of_searchable searchable, first]
  dsimp only
  cases ctx.resolveOverload name (body.overloads name) arguments with
  | error err => exact ⟨rfl, fun call answered => by cases answered⟩
  | ok overload =>
    refine ⟨rfl, fun call answered => ?_⟩
    cases answered
    rfl

/-- A call that is answered means a method of its owner that has the name and the signature. -/
theorem designates (answered : ctx.resolveMethodCall receiver name arguments = .ok call) :
    ∃ body method, (call.owner, body) ∈ ctx.searched receiver ∧
      body.methods[call.method]? = some method ∧ method.name = name ∧
      method.signature = call.overload.signature ∧
      ctx.resolveOverload name (body.overloads name) arguments = .ok call.overload := by
  have searchable : ctx.Searchable receiver := by
    by_contra foreign
    obtain ⟨ty, refused⟩ := resolveMethodCall_foreign name arguments foreign
    rw [refused] at answered
    cases answered
  rw [resolveMethodCall_of_searchable searchable] at answered
  split at answered
  · cases answered
  rename_i owner body first
  cases resolved : ctx.resolveOverload name (body.overloads name) arguments with
  | error err => rw [resolved] at answered; cases answered
  | ok overload =>
    rw [resolved] at answered
    obtain rfl := Except.ok.inj answered
    have place := (resolveOverload_eq_ok_iff.1 resolved).2.1.place
    rw [← methodsNamed_signatures, List.getElem?_map, Option.map_eq_some_iff] at place
    obtain ⟨⟨index, method⟩, here, signature⟩ := place
    obtain ⟨there, named⟩ := mem_methodsNamed.1 (List.mem_of_getElem? here)
    refine ⟨body, method, List.mem_of_find?_eq_some first, ?_, named, signature, resolved⟩
    simpa [here] using there

theorem resolveMethodCall_missing_iff {names : List Name} :
    ctx.resolveMethodCall receiver name arguments = .error (.memberNotFound receiver name names) ↔
      ctx.Searchable receiver ∧
        (∀ pair ∈ ctx.searched receiver, ∀ method ∈ pair.2.methods, method.name ≠ name) ∧
        names = ((ctx.searched receiver).flatMap (·.2.methods.map (·.name))).eraseDups := by
  by_cases searchable : ctx.Searchable receiver
  · have none : (ctx.searched receiver).find? (fun (_, body) => methodsNamed body name ≠ []) = none ↔
        ∀ pair ∈ ctx.searched receiver, ∀ method ∈ pair.2.methods, method.name ≠ name := by
      simp [methodsNamed_eq_nil]
    rw [resolveMethodCall_of_searchable searchable, ← none]
    cases (ctx.searched receiver).find? fun (_, body) => methodsNamed body name ≠ [] with
    | none => simp [searchable, eq_comm]
    | some first =>
      obtain ⟨owner, body⟩ := first
      refine ⟨fun refused => ?_, fun missing => by cases missing.2.1⟩
      dsimp only at refused
      cases resolved : ctx.resolveOverload name (body.overloads name) arguments with
      | ok overload => rw [resolved] at refused; cases refused
      | error err =>
        rw [resolved] at refused
        cases refused
        exact absurd resolved resolveOverload_ne_memberNotFound
  · obtain ⟨foreign, there⟩ := resolveMethodCall_foreign name arguments searchable
    simp [there, searchable]

/-! ### Hidden methods -/

theorem find?_searched {front back : List TypeId}
    (order : ctx.searchOrder receiver = front ++ owner :: back)
    (behind : ctx.bodyOf owner = .ok (some body)) (own : ∃ method ∈ body.methods, method.name = name) :
    (ctx.searched receiver).find? (fun (_, body) => methodsNamed body name ≠ []) =
      ((front.filterMap ctx.withBody?).find? fun (_, body) => methodsNamed body name ≠ []).or
        (some (owner, body)) := by
  have here : methodsNamed body name ≠ [] := fun none => by
    obtain ⟨method, listed, named⟩ := own
    exact methodsNamed_eq_nil.1 none method listed named
  rw [searched, order, List.filterMap_append,
    List.filterMap_cons_some (withBody?_of_bodyOf behind), List.find?_append]
  simp [here]

/-- What methods the types have that come after the owner of a call makes no difference to it. -/
theorem resolveMethodCall_hidden {front back : List TypeId} (same : ctx.SameButMethods ctx')
    (order : ctx.searchOrder receiver = front ++ owner :: back)
    (agree : ∀ other ∈ front ++ [owner], ctx'.bodyOf other = ctx.bodyOf other)
    (behind : ctx.bodyOf owner = .ok (some body)) (own : ∃ method ∈ body.methods, method.name = name) :
    ctx'.resolveMethodCall receiver name arguments =
      ctx.resolveMethodCall receiver name arguments := by
  have bodies := same.bodiesInOrder receiver
  by_cases searchable : ctx.Searchable receiver
  · have searchable' : ctx'.Searchable receiver := by
      rw [bodiesInOrder_of_searchable searchable] at bodies
      cases there : ctx'.bodiesInOrder receiver with
      | error err => rw [there] at bodies; cases bodies
      | ok answers => exact searchable_of_bodiesInOrder there
    -- Up to the owner the bodies are the same, and the search goes no further.
    have first := find?_searched order behind own
    have first' := find?_searched ((same.searchOrder receiver).trans order)
      ((agree owner (by simp)).trans behind) own
    have passed : front.filterMap ctx'.withBody? = front.filterMap ctx.withBody? :=
      List.filterMap_congr fun other listed => by
        rw [withBody?, withBody?, agree other (List.mem_append_left _ listed)]
    rw [passed, ← first] at first'
    obtain ⟨⟨holder, body'⟩, chosen⟩ : ∃ pair, (ctx.searched receiver).find?
        (fun (_, body) => methodsNamed body name ≠ []) = some pair :=
      Option.isSome_iff_exists.1 (by rw [first]; simp)
    rw [resolveMethodCall_of_searchable searchable, resolveMethodCall_of_searchable searchable',
      first', chosen]
    dsimp only
    rw [same.resolveOverload]
  · obtain ⟨foreign, there⟩ := bodiesInOrder_foreign searchable
    rw [there] at bodies
    cases there' : ctx'.bodiesInOrder receiver with
    | ok answers => rw [there'] at bodies; cases bodies
    | error err =>
      rw [there'] at bodies
      obtain rfl := Except.error.inj bodies
      rw [resolveMethodCall, resolveMethodCall, there, there']
      rfl

/-! ### Lookups and calls -/

/-- No type in the order of search has a field of the name. -/
def Fieldless (ctx : TypeContext) (ty : TypeId) (name : Name) : Prop :=
  ∀ pair ∈ ctx.searched ty, ∀ member ∈ pair.2.members, member.name ≠ name

theorem Fieldless.declared_iff {pair : TypeId × DefBody} (fieldless : ctx.Fieldless receiver name)
    (listed : pair ∈ ctx.searched receiver) :
    name ∉ pair.2.declaredNames ↔ ∀ method ∈ pair.2.methods, method.name ≠ name := by
  have none := fieldless pair listed
  simp only [DefBody.declaredNames, List.mem_append, List.mem_map, not_or, not_exists, not_and]
  exact ⟨fun undeclared => undeclared.2, fun undeclared => ⟨none, undeclared⟩⟩

/-- Where no field has the name, a call means the methods of the type that a lookup finds. -/
theorem lookup_means (fieldless : ctx.Fieldless receiver name) {found : MemberRef}
    (looked : ctx.lookupMember receiver name = .ok found) :
    ∃ owner body index signature, found = .method owner index signature ∧
      (owner, body) ∈ ctx.searched receiver ∧
      (ctx.resolveMethodCall receiver name arguments).map MethodMatch.overload =
        ctx.resolveOverload name (body.overloads name) arguments ∧
      ∀ call, ctx.resolveMethodCall receiver name arguments = .ok call → call.owner = owner := by
  obtain ⟨searchable, before, owner, body, after, split, passed, own⟩ := lookupMember_eq_ok_iff.1 looked
  have listed : (owner, body) ∈ ctx.searched receiver := by simp [split]
  have hidden : ∀ pair ∈ before, ∀ method ∈ pair.2.methods, method.name ≠ name := fun pair earlier =>
    (fieldless.declared_iff (by simp [split, earlier])).1 (passed pair earlier)
  cases own with
  | field here named _ => exact absurd named (fieldless _ listed _ (List.mem_of_getElem? here))
  | method _ here named _ =>
    exact ⟨owner, body, _, _, rfl, listed, resolveMethodCall_owner searchable split hidden
      ⟨_, List.mem_of_getElem? here, named⟩⟩

/-- Where no field has the name, a call misses the member exactly if a lookup does. -/
theorem call_missing_iff (fieldless : ctx.Fieldless receiver name) (arguments : List TypeId) :
    (∃ names, ctx.resolveMethodCall receiver name arguments =
        .error (.memberNotFound receiver name names)) ↔
      ∃ names, ctx.lookupMember receiver name = .error (.memberNotFound receiver name names) := by
  have undeclared : (∀ pair ∈ ctx.searched receiver, name ∉ pair.2.declaredNames) ↔
      ∀ pair ∈ ctx.searched receiver, ∀ method ∈ pair.2.methods, method.name ≠ name :=
    forall₂_congr fun pair listed => fieldless.declared_iff listed
  simp only [resolveMethodCall_missing_iff, lookupMember_missing_iff, undeclared, exists_and_left,
    exists_eq]

theorem searchable_of_leads {config : TypeConfig} (leads : Leads { config } ctx)
    (known : receiver.index < ctx.pool.size) : ctx.Searchable receiver := by
  have twin : Twin .id ctx ctx := (leads.orderly (orderly_initial config)).1.twin
  intro owner listed
  have inside := rooted_iff.1 (rooted_of_twin twin known) owner listed
  exact ⟨inside, (bodyOf_answers twin inside).2⟩

/-- How members of a name are looked up in a type and its supertypes, and methods called on it. -/
structure FindsMembers (ctx : TypeContext) (receiver : TypeId) (name : Name) : Prop where
  searched : ∀ owner body, (owner, body) ∈ ctx.searched receiver ↔
    owner ∈ ctx.searchOrder receiver ∧ ctx.bodyOf owner = .ok (some body)
  /-- The first type in the order of search that declares the name has the member: its first field
  of the name, or else its first method. -/
  found : ∀ found, ctx.lookupMember receiver name = .ok found ↔
    ctx.Searchable receiver ∧ ctx.FindsFirst receiver name found
  /-- If there is none, all names that are declared are told, in the order of search. -/
  missing : ∀ names, ctx.lookupMember receiver name = .error (.memberNotFound receiver name names) ↔
    ctx.Searchable receiver ∧ (∀ pair ∈ ctx.searched receiver, name ∉ pair.2.declaredNames) ∧
      names = ctx.searchedNames receiver
  once : (ctx.searchedNames receiver).Nodup
  otherwise : ctx.Searchable receiver →
    (∃ found, ctx.lookupMember receiver name = .ok found) ∨
      ctx.lookupMember receiver name =
        .error (.memberNotFound receiver name (ctx.searchedNames receiver))
  /-- The candidates of a call are the methods of the name in the type that a lookup finds. -/
  means : ctx.Fieldless receiver name → ∀ found, ctx.lookupMember receiver name = .ok found →
    ∀ arguments, ∃ owner body index signature, found = .method owner index signature ∧
      (owner, body) ∈ ctx.searched receiver ∧
      (ctx.resolveMethodCall receiver name arguments).map MethodMatch.overload =
        ctx.resolveOverload name (body.overloads name) arguments ∧
      ∀ call, ctx.resolveMethodCall receiver name arguments = .ok call → call.owner = owner
  misses : ctx.Fieldless receiver name → ∀ arguments,
    ((∃ names, ctx.resolveMethodCall receiver name arguments =
        .error (.memberNotFound receiver name names)) ↔
      ∃ names, ctx.lookupMember receiver name = .error (.memberNotFound receiver name names))
  /-- The place in a call is that of a method of the name with the signature that was chosen. -/
  designates : ∀ arguments call, ctx.resolveMethodCall receiver name arguments = .ok call →
    ∃ body method, (call.owner, body) ∈ ctx.searched receiver ∧
      body.methods[call.method]? = some method ∧ method.name = name ∧
      method.signature = call.overload.signature ∧
      ctx.resolveOverload name (body.overloads name) arguments = .ok call.overload
  /-- Methods of types further on in the order make no difference. -/
  hidden : ∀ ctx' front owner back body, ctx.SameButMethods ctx' →
    ctx.searchOrder receiver = front ++ owner :: back →
    (∀ other ∈ front ++ [owner], ctx'.bodyOf other = ctx.bodyOf other) →
    ctx.bodyOf owner = .ok (some body) → (∃ method ∈ body.methods, method.name = name) →
    ∀ arguments, ctx'.resolveMethodCall receiver name arguments =
      ctx.resolveMethodCall receiver name arguments
  /-- Types from the pool can be searched. -/
  known : ∀ config, Leads { config } ctx → receiver.index < ctx.pool.size → ctx.Searchable receiver
  foreign : ¬ ctx.Searchable receiver →
    (∃ ty, ctx.lookupMember receiver name = .error (.foreignType ty)) ∧
      ∀ arguments, ∃ ty, ctx.resolveMethodCall receiver name arguments = .error (.foreignType ty)

/-- Lookups of members and calls of methods agree on the type that a name belongs to, whatever the
types inherit. -/
theorem members_found (ctx : TypeContext) (receiver : TypeId) (name : Name) :
    ctx.FindsMembers receiver name where
  searched _ _ := mem_searched
  found _ := lookupMember_eq_ok_iff
  missing _ := lookupMember_missing_iff
  once := nodup_searchedNames ctx receiver
  otherwise searchable := by
    rw [lookupMember_of_searchable searchable]
    split
    · exact .inl ⟨_, rfl⟩
    · exact .inr rfl
  means fieldless _ looked _ := lookup_means fieldless looked
  misses := call_missing_iff
  designates _ _ := designates
  hidden _ _ _ _ _ same order agree behind own _ :=
    resolveMethodCall_hidden same order agree behind own
  known _ := searchable_of_leads
  foreign foreign :=
    ⟨lookupMember_foreign name foreign, fun arguments =>
      resolveMethodCall_foreign name arguments foreign⟩

end TypeContext

end FrontEnd
