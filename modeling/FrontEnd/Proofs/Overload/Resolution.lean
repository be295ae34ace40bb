import FrontEnd.Proofs.Overload.Ranking
import Mathlib.Data.List.Sort
import Mathlib.Logic.Equiv.Defs

/-!
Which candidate is called. It is the viable one that costs less than every other, whatever the order
of the candidates; if several cost least the call is ambiguous between exactly these. Candidates that
are not viable make no difference.
-/

namespace FrontEnd

/-- A match whose candidate stands at another place. -/
def OverloadMatch.movedTo (found : OverloadMatch) (place : Nat → Nat) : OverloadMatch :=
  { found with index := place found.index }

@[simp] theorem OverloadMatch.movedTo_signature (found : OverloadMatch) (place : Nat → Nat) :
    (found.movedTo place).signature = found.signature := rfl

namespace TypeContext

variable {ctx : TypeContext} {name : Name} {signature : TypeId}
  {candidates more arguments : List TypeId} {viable tied tied' : List OverloadMatch}
  {found other : OverloadMatch} {answer answer' : Except TypeError OverloadMatch}

/-- The candidate at a place of the list takes the arguments with these ranks. -/
structure Viable (ctx : TypeContext) (candidates arguments : List TypeId) (found : OverloadMatch) :
    Prop where
  place : candidates[found.index]? = some found.signature
  fits : ctx.Fits found.signature arguments found.ranks

/-- No viable candidate costs less. -/
structure Cheapest (ctx : TypeContext) (candidates arguments : List TypeId) (found : OverloadMatch) :
    Prop extends ctx.Viable candidates arguments found where
  least : ∀ other, ctx.Viable candidates arguments other → found.cost ≤ other.cost

/-- The answer to a call whose candidates are viable at given places and costs. -/
inductive Resolves (ctx : TypeContext) (name : Name) (candidates arguments : List TypeId) :
    Except TypeError OverloadMatch → Prop where
  | one {found : OverloadMatch} (viable : ctx.Viable candidates arguments found)
      (less : ∀ other, ctx.Viable candidates arguments other → other.index ≠ found.index →
        found.cost < other.cost) : Resolves ctx name candidates arguments (.ok found)
  | none (none : ∀ found, ¬ ctx.Viable candidates arguments found) :
      Resolves ctx name candidates arguments
        (.error (.noMatchingOverload name arguments candidates))
  | several {tied : List OverloadMatch}
      (cheapest : ∀ found, found ∈ tied ↔ ctx.Cheapest candidates arguments found)
      (order : tied.Pairwise (·.index < ·.index)) (many : 2 ≤ tied.length) :
      Resolves ctx name candidates arguments (.error (.ambiguousCall name (tied.map (·.signature))))

/-- At one place a candidate is viable in one way. -/
theorem Viable.unique (viable : ctx.Viable candidates arguments found)
    (viable' : ctx.Viable candidates arguments other) (same : found.index = other.index) :
    found = other := by
  have place := viable.place
  rw [same, viable'.place] at place
  have ranked := rankCandidate_iff.2 viable.fits
  rw [← Option.some.inj place, rankCandidate_iff.2 viable'.fits] at ranked
  cases found
  cases other
  simp_all

/-! ### Viable candidates -/

theorem getElem?_cons_behind {values : List α} {value : α} {index later : Nat}
    (behind : index + 1 ≤ later) : (value :: values)[later - index]? = values[later - (index + 1)]? := by
  have next : later - index = later - (index + 1) + 1 := by omega
  rw [next, List.getElem?_cons_succ]

/-- The viable candidates are found in the order of the list. -/
theorem viableFrom_ranked (ranked : ctx.Ranked candidates arguments) (index : Nat) :
    ∃ viable, ctx.viableFrom index arguments candidates = .ok viable ∧
      viable.Pairwise (·.index < ·.index) ∧
      ∀ found, found ∈ viable ↔ index ≤ found.index ∧
        candidates[found.index - index]? = some found.signature ∧
        ctx.Fits found.signature arguments found.ranks := by
  -- The place of the first candidate grows along the list.
  induction candidates generalizing index with
  | nil => exact ⟨[], rfl, .nil, by simp⟩
  | cons signature rest ih =>
    obtain ⟨⟨answer, first⟩, ranked⟩ := List.forall_mem_cons.1 ranked
    obtain ⟨others, there, order, exact⟩ := ih ranked (index + 1)
    refine ⟨(answer.map (OverloadMatch.mk index signature)).toList ++ others, ?_, ?_, ?_⟩
    · rw [viableFrom, first]
      dsimp only [Bind.bind, Except.bind]
      rw [there]
      rfl
    · refine List.pairwise_append.2 ⟨by cases answer <;> simp, order, ?_⟩
      intro head listed later among
      obtain ⟨ranks, -, rfl⟩ := Option.map_eq_some_iff.1 (Option.mem_toList.1 listed)
      exact Nat.lt_of_succ_le ((exact later).1 among).1
    · intro found
      rw [List.mem_append, exact, Option.mem_toList, Option.map_eq_some_iff]
      constructor
      · rintro (⟨ranks, given, rfl⟩ | ⟨later, place, fits⟩)
        · subst given
          exact ⟨le_refl index, by simp, rankCandidate_iff.1 first⟩
        · exact ⟨Nat.le_of_succ_le later, by rw [getElem?_cons_behind later, place], fits⟩
      · rintro ⟨later, place, fits⟩
        obtain here | beyond := Nat.eq_or_lt_of_le later
        · subst here
          rw [Nat.sub_self, List.getElem?_cons_zero, Option.some.injEq] at place
          subst place
          rw [rankCandidate_iff.2 fits, Except.ok.injEq] at first
          exact .inl ⟨found.ranks, first.symm, rfl⟩
        · rw [getElem?_cons_behind beyond] at place
          exact .inr ⟨beyond, place, fits⟩

theorem viableFrom_foreign (foreign : ¬ ctx.Ranked candidates arguments) (index : Nat) :
    ∃ foreign, ctx.viableFrom index arguments candidates = .error (.foreignType foreign) := by
  induction candidates generalizing index with
  | nil => exact absurd (fun _ listed => absurd listed List.not_mem_nil) foreign
  | cons signature rest ih =>
    rw [viableFrom]
    cases first : ctx.rankCandidate signature arguments with
    | error err =>
      obtain ⟨foreign, rfl⟩ := onlyForeign_rankCandidate ctx signature arguments err first
      exact ⟨foreign, rfl⟩
    | ok answer =>
      have beyond : ¬ ctx.Ranked rest arguments :=
        fun ranked => foreign (List.forall_mem_cons.2 ⟨⟨answer, first⟩, ranked⟩)
      obtain ⟨foreign, there⟩ := ih beyond (index + 1)
      dsimp only [Bind.bind, Except.bind]
      rw [there]
      exact ⟨foreign, rfl⟩

/-! ### The choice -/

theorem resolveOverload_foreign (name : Name) (foreign : ¬ ctx.Ranked candidates arguments) :
    ∃ foreign, ctx.resolveOverload name candidates arguments = .error (.foreignType foreign) := by
  obtain ⟨foreign, there⟩ := viableFrom_foreign foreign 0
  rw [resolveOverload, there]
  exact ⟨foreign, rfl⟩

/-- Of the viable candidates, those that cost least are kept. -/
theorem mem_cheapest {best : Nat}
    (exact : ∀ found, found ∈ viable ↔ ctx.Viable candidates arguments found)
    (least : (viable.map OverloadMatch.cost).min? = some best) :
    found ∈ viable.filter (·.cost == best) ↔ ctx.Cheapest candidates arguments found := by
  obtain ⟨among, below⟩ := List.min?_eq_some_iff.1 least
  obtain ⟨first, listed, rfl⟩ := List.mem_map.1 among
  rw [List.mem_filter, exact, beq_iff_eq]
  constructor
  · rintro ⟨there, same⟩
    exact ⟨there, fun other viable => same ▸ below _ (List.mem_map_of_mem ((exact other).2 viable))⟩
  · intro cheapest
    have up := cheapest.least first ((exact first).1 listed)
    have down := below _ (List.mem_map_of_mem ((exact found).2 cheapest.toViable))
    exact ⟨cheapest.toViable, Nat.le_antisymm up down⟩

theorem resolveOverload_resolves (name : Name) (ranked : ctx.Ranked candidates arguments) :
    ctx.Resolves name candidates arguments (ctx.resolveOverload name candidates arguments) := by
  obtain ⟨viable, there, order, exact⟩ := viableFrom_ranked ranked 0
  have exact : ∀ found, found ∈ viable ↔ ctx.Viable candidates arguments found := fun found =>
    (exact found).trans ⟨fun ⟨_, place, fits⟩ => ⟨place, fits⟩,
      fun ⟨place, fits⟩ => ⟨Nat.zero_le _, place, fits⟩⟩
  rw [resolveOverload, there]
  dsimp only [Bind.bind, Except.bind]
  split
  · rename_i none
    have empty : viable = [] := List.map_eq_nil_iff.1 (List.min?_eq_none_iff.1 none)
    refine .none fun found there => ?_
    rw [← exact, empty] at there
    exact List.not_mem_nil there
  · rename_i best least
    have exact' (found : OverloadMatch) : found ∈ viable.filter (·.cost == best) ↔
        ctx.Cheapest candidates arguments found := mem_cheapest exact least
    have order := order.filter (·.cost == best)
    obtain ⟨first, listed, low⟩ := List.mem_map.1 (List.min?_eq_some_iff.1 least).1
    have some : first ∈ viable.filter (·.cost == best) := by simp [listed, low]
    revert exact' order some
    generalize viable.filter (·.cost == best) = chosen
    intro exact' order some
    split
    · rename_i winner
      have wins := (exact' winner).1 (List.mem_singleton_self winner)
      refine .one wins.toViable fun other viable apart =>
        Nat.lt_of_le_of_ne (wins.least other viable) fun same => apart ?_
      have also := (exact' other).2 ⟨viable, fun third third' => same ▸ wins.least third third'⟩
      rw [List.mem_singleton.1 also]
    · rename_i several
      refine .several exact' order ?_
      match chosen, several, some with
      | [], _, some => exact absurd some List.not_mem_nil
      | [winner], several, _ => exact absurd rfl (several winner)
      | _ :: _ :: _, _, _ => simp

/-- Several candidates that cost least are at several places. -/
theorem exists_cheapest_apart
    (cheapest : ∀ found, found ∈ tied ↔ ctx.Cheapest candidates arguments found)
    (order : tied.Pairwise (·.index < ·.index)) (many : 2 ≤ tied.length) (index : Nat) :
    ∃ other, ctx.Cheapest candidates arguments other ∧ other.index ≠ index := by
  match tied, cheapest, order, many with
  | first :: second :: _, cheapest, order, _ =>
    have less := (List.pairwise_cons.1 order).1 second (by simp)
    by_cases here : first.index = index
    · exact ⟨second, (cheapest second).1 (by simp), by omega⟩
    · exact ⟨first, (cheapest first).1 (by simp), here⟩

theorem nodup_of_order (order : tied.Pairwise (·.index < ·.index)) : tied.Nodup :=
  order.imp fun {_ _} less here => absurd (congrArg _ here) (Nat.ne_of_lt less)

theorem eq_of_order (order : tied.Pairwise (·.index < ·.index))
    (order' : tied'.Pairwise (·.index < ·.index)) (same : ∀ found, found ∈ tied ↔ found ∈ tied') :
    tied = tied' :=
  ((List.perm_ext_iff_of_nodup (nodup_of_order order) (nodup_of_order order')).2 same).eq_of_pairwise
    (fun _ _ _ _ less less' => absurd less (Nat.lt_asymm less')) order order'

theorem filter_zipIdx_fst (values : List α) (p : α → Bool) :
    (values.zipIdx.filter (p ·.1)).map Prod.fst = values.filter p := by
  calc (values.zipIdx.filter (p ·.1)).map Prod.fst
      = (values.zipIdx.map Prod.fst).filter p := List.filter_map.symm
    _ = values.filter p := by rw [List.zipIdx_map_fst]

/-- There is one answer to a call. -/
theorem Resolves.unique
    (resolves : ctx.Resolves name candidates arguments answer)
    (resolves' : ctx.Resolves name candidates arguments answer') : answer = answer' := by
  cases resolves with
  | one viable less =>
    rename_i found
    cases resolves' with
    | one viable' less' =>
      rename_i other
      by_cases same : other.index = found.index
      · rw [viable.unique viable' same.symm]
      · exact absurd (less other viable' same) (Nat.lt_asymm (less' found viable (Ne.symm same)))
    | none none => exact absurd viable (none found)
    | several cheapest order many =>
      obtain ⟨other, least, apart⟩ := exists_cheapest_apart cheapest order many found.index
      exact absurd (less other least.toViable apart) (Nat.not_lt_of_le (least.least found viable))
  | none none =>
    cases resolves' with
    | one viable' _ => exact absurd viable' (none _)
    | none => rfl
    | several cheapest order many =>
      obtain ⟨other, least, -⟩ := exists_cheapest_apart cheapest order many 0
      exact absurd least.toViable (none other)
  | several cheapest order many =>
    cases resolves' with
    | one viable' less' =>
      obtain ⟨other, least, apart⟩ := exists_cheapest_apart cheapest order many _
      exact absurd (less' other least.toViable apart) (Nat.not_lt_of_le (least.least _ viable'))
    | none none =>
      obtain ⟨other, least, -⟩ := exists_cheapest_apart cheapest order many 0
      exact absurd least.toViable (none other)
    | several cheapest' order' _ =>
      rw [eq_of_order order order' fun found => (cheapest found).trans (cheapest' found).symm]

/-- A call is answered as said, and not otherwise. -/
theorem resolveOverload_eq_iff (ranked : ctx.Ranked candidates arguments) :
    ctx.resolveOverload name candidates arguments = answer ↔
      ctx.Resolves name candidates arguments answer :=
  ⟨fun answered => answered ▸ resolveOverload_resolves name ranked,
    (resolveOverload_resolves name ranked).unique⟩

/-! ### Candidates at other places -/

variable {place : Nat → Nat} {same : List TypeId → List TypeId → Prop}

/-- Every candidate stands in another list at a place of its own, and whatever else stands there is
not viable. -/
structure Keeps (ctx : TypeContext) (arguments : List TypeId) (place : Nat → Nat)
    (candidates more : List TypeId) : Prop where
  apart : place.Injective
  kept : ∀ index < candidates.length, more[place index]? = candidates[index]?
  others : ∀ index signature, more[index]? = some signature →
    (∃ before < candidates.length, place before = index) ∨
      ctx.rankCandidate signature arguments = .ok none

/-- The answers to two calls whose candidates stand at different places. -/
inductive Moved (place : Nat → Nat) (same : List TypeId → List TypeId → Prop) :
    Except TypeError OverloadMatch → Except TypeError OverloadMatch → Prop where
  | one (found : OverloadMatch) :
      Moved place same (.ok found) (.ok (found.movedTo place))
  | none (name : Name) (arguments candidates more : List TypeId) :
      Moved place same (.error (.noMatchingOverload name arguments candidates))
        (.error (.noMatchingOverload name arguments more))
  | several (name : Name) {signatures signatures' : List TypeId}
      (tie : same signatures signatures') :
      Moved place same (.error (.ambiguousCall name signatures))
        (.error (.ambiguousCall name signatures'))
  | foreign (ty ty' : TypeId) :
      Moved place same (.error (.foreignType ty)) (.error (.foreignType ty'))

theorem Keeps.of_signature (keeps : ctx.Keeps arguments place candidates more) {index : Nat}
    {signature : TypeId} (there : candidates[index]? = some signature) :
    more[place index]? = some signature := by
  rw [keeps.kept index (List.getElem?_eq_some_iff.1 there).1, there]

theorem Keeps.ranked_iff (keeps : ctx.Keeps arguments place candidates more) :
    ctx.Ranked more arguments ↔ ctx.Ranked candidates arguments := by
  constructor
  · intro ranked signature listed
    obtain ⟨index, there⟩ := List.mem_iff_getElem?.1 listed
    exact ranked signature (List.mem_of_getElem? (keeps.of_signature there))
  · intro ranked signature listed
    obtain ⟨index, there⟩ := List.mem_iff_getElem?.1 listed
    obtain ⟨before, inside, rfl⟩ | unfit := keeps.others index signature there
    · rw [keeps.kept before inside] at there
      exact ranked signature (List.mem_of_getElem? there)
    · exact ⟨none, unfit⟩

/-- The viable candidates are the same. -/
theorem Keeps.viable_iff (keeps : ctx.Keeps arguments place candidates more) :
    ctx.Viable more arguments other ↔ ∃ found, ctx.Viable candidates arguments found ∧
      found.movedTo place = other := by
  constructor
  · intro viable
    obtain ⟨before, inside, here⟩ | unfit := keeps.others other.index other.signature viable.place
    · have there := viable.place
      rw [← here, keeps.kept before inside] at there
      exact ⟨{ other with index := before }, ⟨there, viable.fits⟩, by simp [OverloadMatch.movedTo, here]⟩
    · rw [rankCandidate_iff.2 viable.fits] at unfit
      cases unfit
  · rintro ⟨found, viable, rfl⟩
    exact ⟨keeps.of_signature viable.place, viable.fits⟩

theorem Keeps.cheapest_iff (keeps : ctx.Keeps arguments place candidates more) :
    ctx.Cheapest more arguments other ↔ ∃ found, ctx.Cheapest candidates arguments found ∧
      found.movedTo place = other := by
  constructor
  · intro cheapest
    obtain ⟨found, viable, rfl⟩ := keeps.viable_iff.1 cheapest.toViable
    exact ⟨found, ⟨viable, fun third viable' =>
      cheapest.least (third.movedTo place)
        (keeps.viable_iff.2 ⟨third, viable', rfl⟩)⟩, rfl⟩
  · rintro ⟨found, cheapest, rfl⟩
    refine ⟨keeps.viable_iff.2 ⟨found, cheapest.toViable, rfl⟩, fun third viable' => ?_⟩
    obtain ⟨before, viable, rfl⟩ := keeps.viable_iff.1 viable'
    exact cheapest.least before viable

/-- The answers differ in the places alone, if the lists of those that cost least compare as they
should. -/
theorem Keeps.moved (keeps : ctx.Keeps arguments place candidates more) (name : Name)
    (tie : ∀ tied tied' : List OverloadMatch, tied.Pairwise (·.index < ·.index) →
      tied'.Pairwise (·.index < ·.index) →
      (∀ other, other ∈ tied' ↔ ∃ found ∈ tied, found.movedTo place = other) →
      same (tied.map (·.signature)) (tied'.map (·.signature))) :
    Moved place same (ctx.resolveOverload name candidates arguments)
      (ctx.resolveOverload name more arguments) := by
  by_cases ranked : ctx.Ranked candidates arguments
  swap
  · obtain ⟨ty, foreign⟩ := resolveOverload_foreign name ranked
    obtain ⟨ty', foreign'⟩ := resolveOverload_foreign name (mt keeps.ranked_iff.1 ranked)
    rw [foreign, foreign']
    exact .foreign ty ty'
  have resolves := resolveOverload_resolves name ranked
  have resolves' := resolveOverload_resolves name (keeps.ranked_iff.2 ranked)
  generalize ctx.resolveOverload name candidates arguments = answer at resolves ⊢
  cases resolves with
  | one viable less =>
    rename_i found
    rw [resolves'.unique (.one (keeps.viable_iff.2 ⟨found, viable, rfl⟩) fun other viable' apart => ?_)]
    · exact .one found
    · obtain ⟨third, viable, rfl⟩ := keeps.viable_iff.1 viable'
      exact less third viable fun here => apart (congrArg place here)
  | none none =>
    rw [resolves'.unique (.none fun other viable' => ?_)]
    · exact .none name arguments candidates more
    · obtain ⟨found, viable, -⟩ := keeps.viable_iff.1 viable'
      exact none found viable
  | several cheapest order many =>
    rename_i tied
    -- How the tie is ordered among the others is known only of the answer that they get.
    generalize ctx.resolveOverload name more arguments = answer' at resolves' ⊢
    cases resolves' with
    | one viable' less' =>
      obtain ⟨found, viable, rfl⟩ := keeps.viable_iff.1 viable'
      obtain ⟨other, least, apart⟩ := exists_cheapest_apart cheapest order many found.index
      have less := less' (other.movedTo place)
        (keeps.viable_iff.2 ⟨other, least.toViable, rfl⟩) fun here => apart (keeps.apart here)
      exact absurd less (Nat.not_lt_of_le (least.least found viable))
    | none none =>
      obtain ⟨other, least, -⟩ := exists_cheapest_apart cheapest order many 0
      exact absurd (keeps.viable_iff.2 ⟨other, least.toViable, rfl⟩) (none _)
    | several cheapest' order' many' =>
      refine .several name (tie _ _ order order' fun other => ?_)
      rw [cheapest', keeps.cheapest_iff]
      exact exists_congr fun found => and_congr_left' (cheapest found).symm

/-- Candidates in another order are answered alike, the signatures of an ambiguous call in another
order as well. -/
theorem resolveOverload_permuted (name : Name) (arguments : List TypeId) (order : Equiv.Perm Nat)
    (same : ∀ index, more[order index]? = candidates[index]?) :
    Moved order List.Perm (ctx.resolveOverload name candidates arguments)
      (ctx.resolveOverload name more arguments) := by
  have keeps : ctx.Keeps arguments order candidates more := by
    refine ⟨order.injective, fun index _ => same index, fun index signature there => .inl ?_⟩
    have before := same (order.symm index)
    rw [order.apply_symm_apply, there] at before
    exact ⟨order.symm index, (List.getElem?_eq_some_iff.1 before.symm).1, order.apply_symm_apply _⟩
  refine keeps.moved name fun tied tied' sorted sorted' exact => ?_
  have distinct : (tied.map (·.movedTo order)).Nodup := by
    refine List.Nodup.map_on (fun found listed other listed' here => ?_) (nodup_of_order sorted)
    injection here with index signature ranks
    cases found
    cases other
    simp_all
  have tie := (List.perm_ext_iff_of_nodup distinct (nodup_of_order sorted')).2 fun other =>
    List.mem_map.trans (exact other).symm
  simpa [Function.comp_def] using tie.map (·.signature)

/-- Candidates that are not viable make no difference among others that keep their order. -/
theorem resolveOverload_scattered (name : Name) (keeps : ctx.Keeps arguments place candidates more)
    (increases : StrictMono place) :
    Moved place Eq (ctx.resolveOverload name candidates arguments)
      (ctx.resolveOverload name more arguments) := by
  refine keeps.moved name fun tied tied' sorted sorted' exact => ?_
  have sorted : (tied.map (·.movedTo place)).Pairwise
      (·.index < ·.index) :=
    List.pairwise_map.2 (sorted.imp fun {_ _} less => increases less)
  rw [← eq_of_order sorted sorted' fun other => List.mem_map.trans (exact other).symm]
  simp [Function.comp_def]

/-- To insert candidates that are not viable moves those behind them. -/
theorem keeps_inserted {front extra back : List TypeId}
    (unfit : ∀ signature ∈ extra, ctx.rankCandidate signature arguments = .ok none) :
    ctx.Keeps arguments (fun index => if index < front.length then index else index + extra.length)
      (front ++ back) (front ++ extra ++ back) := by
  refine ⟨fun index index' here => by grind, fun index _ => by grind, fun index signature there => ?_⟩
  · by_cases before : index < front.length
    · exact .inl ⟨index, by grind, if_pos before⟩
    by_cases beyond : front.length + extra.length ≤ index
    · exact .inl ⟨index - extra.length, by grind, by grind⟩
    · refine .inr (unfit signature ?_)
      grind

/-! ### Resolution -/

/-- An answer other than that a type is foreign is given where it is known which candidates are
viable. -/
theorem resolveOverload_iff (own : ∀ ty, answer ≠ .error (.foreignType ty)) :
    ctx.resolveOverload name candidates arguments = answer ↔
      ctx.Ranked candidates arguments ∧ ctx.Resolves name candidates arguments answer := by
  constructor
  · intro answered
    by_cases ranked : ctx.Ranked candidates arguments
    · exact ⟨ranked, (resolveOverload_eq_iff ranked).1 answered⟩
    · obtain ⟨ty, foreign⟩ := resolveOverload_foreign name ranked
      exact absurd (answered.symm.trans foreign) (own ty)
  · rintro ⟨ranked, resolves⟩
    exact (resolveOverload_eq_iff ranked).2 resolves

theorem resolveOverload_eq_ok_iff : ctx.resolveOverload name candidates arguments = .ok found ↔
    ctx.Ranked candidates arguments ∧ ctx.Viable candidates arguments found ∧
      ∀ other, ctx.Viable candidates arguments other → other.index ≠ found.index →
        found.cost < other.cost := by
  refine (resolveOverload_iff (by simp)).trans
    (and_congr_right fun _ => ⟨?_, fun ⟨viable, less⟩ => .one viable less⟩)
  rintro ⟨viable, less⟩
  exact ⟨viable, less⟩

/-- A call means a candidate, or none, or several. -/
theorem resolveOverload_cases (name : Name) (ranked : ctx.Ranked candidates arguments) :
    (∃ found, ctx.resolveOverload name candidates arguments = .ok found) ∨
    ctx.resolveOverload name candidates arguments =
      .error (.noMatchingOverload name arguments candidates) ∨
    ∃ signatures, ctx.resolveOverload name candidates arguments =
      .error (.ambiguousCall name signatures) := by
  have resolves := resolveOverload_resolves name ranked
  generalize ctx.resolveOverload name candidates arguments = answer at resolves ⊢
  cases resolves with
  | one => exact .inl ⟨_, rfl⟩
  | none => exact .inr (.inl rfl)
  | several => exact .inr (.inr ⟨_, rfl⟩)

/-- How a call of a name is resolved. -/
structure ResolvesOverloads (ctx : TypeContext) (name : Name) (arguments : List TypeId) : Prop where
  /-- A candidate is viable if every argument converts to its parameter, or to the elements of a
  variadic last one. -/
  ranks : ∀ signature ranks, ctx.rankCandidate signature arguments = .ok (some ranks) ↔
    ctx.Fits signature arguments ranks
  each : ∀ signature ranks, ctx.Fits signature arguments ranks → ranks.length = arguments.length
  /-- The viable candidate is called that costs less than all others. -/
  picks : ∀ candidates found, ctx.resolveOverload name candidates arguments = .ok found ↔
    ctx.Ranked candidates arguments ∧ ctx.Viable candidates arguments found ∧
      ∀ other, ctx.Viable candidates arguments other → other.index ≠ found.index →
        found.cost < other.cost
  refuses : ∀ candidates, ctx.resolveOverload name candidates arguments =
      .error (.noMatchingOverload name arguments candidates) ↔
    ctx.Ranked candidates arguments ∧ ∀ found, ¬ ctx.Viable candidates arguments found
  /-- A call is ambiguous between all that cost least, in the order of the list. -/
  ties : ∀ candidates signatures, ctx.resolveOverload name candidates arguments =
      .error (.ambiguousCall name signatures) ↔
    ctx.Ranked candidates arguments ∧ ∃ tied : List OverloadMatch,
      (∀ found, found ∈ tied ↔ ctx.Cheapest candidates arguments found) ∧
      tied.Pairwise (·.index < ·.index) ∧ 2 ≤ tied.length ∧
      tied.map (·.signature) = signatures
  otherwise : ∀ candidates, ctx.Ranked candidates arguments →
    (∃ found, ctx.resolveOverload name candidates arguments = .ok found) ∨
    ctx.resolveOverload name candidates arguments =
      .error (.noMatchingOverload name arguments candidates) ∨
    ∃ signatures, ctx.resolveOverload name candidates arguments =
      .error (.ambiguousCall name signatures)
  permuted : ∀ (order : Equiv.Perm Nat) (candidates more : List TypeId),
    (∀ index, more[order index]? = candidates[index]?) →
    Moved order List.Perm (ctx.resolveOverload name candidates arguments)
      (ctx.resolveOverload name more arguments)
  /-- Candidates that are not viable make no difference, wherever they are inserted. -/
  inserted : ∀ front extra back,
    (∀ signature ∈ extra, ctx.rankCandidate signature arguments = .ok none) →
    Moved (fun index => if index < front.length then index else index + extra.length) Eq
      (ctx.resolveOverload name (front ++ back) arguments)
      (ctx.resolveOverload name (front ++ extra ++ back) arguments)
  scattered : ∀ place candidates more, ctx.Keeps arguments place candidates more →
    StrictMono place → Moved place Eq (ctx.resolveOverload name candidates arguments)
      (ctx.resolveOverload name more arguments)
  /-- Of types from the pool it is known which candidates are viable. -/
  known : ∀ config candidates, Leads { config } ctx →
    (∀ signature ∈ candidates, signature.index < ctx.pool.size) →
    (∀ argument ∈ arguments, argument.index < ctx.pool.size) → ctx.Ranked candidates arguments
  foreign : ∀ candidates, ¬ ctx.Ranked candidates arguments →
    ∃ ty, ctx.resolveOverload name candidates arguments = .error (.foreignType ty)

/-- The one viable candidate that costs least is called, whatever the order of the candidates and
whatever others are not viable. -/
theorem overload_resolved (ctx : TypeContext) (name : Name) (arguments : List TypeId) :
    ctx.ResolvesOverloads name arguments where
  ranks _ _ := rankCandidate_iff
  each _ _ := Fits.length
  picks _ _ := resolveOverload_eq_ok_iff
  refuses candidates := by
    refine (resolveOverload_iff (by simp)).trans (and_congr_right fun _ => ⟨?_, .none⟩)
    rintro ⟨⟩
    assumption
  ties candidates signatures := by
    refine (resolveOverload_iff (by simp)).trans (and_congr_right fun _ => ⟨?_, ?_⟩)
    · rintro ⟨⟩
      exact ⟨_, ‹_›, ‹_›, ‹_›, rfl⟩
    · rintro ⟨tied, cheapest, order, many, rfl⟩
      exact .several cheapest order many
  otherwise _ := resolveOverload_cases name
  permuted order _ _ := resolveOverload_permuted name arguments order
  inserted _ _ _ unfit := resolveOverload_scattered name (keeps_inserted unfit) fun _ _ _ => by grind
  scattered _ _ _ := resolveOverload_scattered name
  known _ _ := ranked_of_leads
  foreign _ := resolveOverload_foreign name

end TypeContext

end FrontEnd
