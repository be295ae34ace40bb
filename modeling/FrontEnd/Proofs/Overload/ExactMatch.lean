import FrontEnd.Proofs.Overload.Resolution

/-!
Candidates that cost nothing. A candidate whose parameters are the arguments costs nothing, and so
does a variadic one whose last parameter is given no argument. A call that one fixed candidate
matches exactly means that candidate, unless a variadic one costs nothing as well.
-/

namespace FrontEnd

theorem Rank.cost_eq_zero_iff {rank : Rank} : rank.cost = 0 ↔ rank = .exact := by
  cases rank <;> simp [Rank.cost]

theorem OverloadMatch.cost_eq_sum (found : OverloadMatch) :
    found.cost = (found.ranks.map Rank.cost).sum := by
  rw [OverloadMatch.cost, List.sum_eq_foldl, List.foldl_map]

theorem OverloadMatch.cost_eq_zero_iff {found : OverloadMatch} :
    found.cost = 0 ↔ ∀ rank ∈ found.ranks, rank = .exact := by
  simp [OverloadMatch.cost_eq_sum, List.sum_eq_zero_iff_forall_eq_nat, Rank.cost_eq_zero_iff]

namespace TypeContext

variable {ctx : TypeContext} {name : Name} {signature other : TypeId}
  {candidates arguments parameters : List TypeId} {ranks : List Rank} {found : OverloadMatch}
  {position : Nat}

/-- A function type takes a fixed number of parameters, of just the types of the arguments. -/
def MatchesFixed (ctx : TypeContext) (arguments : List TypeId) (signature : TypeId) : Prop :=
  ∃ result, ctx.pool.form? signature = some (.function arguments result false)

/-- A variadic function type takes arguments of just these types and none for its tail, or has no
tail that could take any. -/
inductive MatchesVariadic (ctx : TypeContext) (arguments : List TypeId) (signature : TypeId) :
    Prop where
  | unfilled {last element result : TypeId}
      (form : ctx.pool.form? signature = some (.function (arguments ++ [last]) result true))
      (slice : ctx.pool.form? (ctx.pool.unqualified last) = some (.slice element))
  | tailless {result : TypeId}
      (form : ctx.pool.form? signature = some (.function arguments result true))
      (single : ctx.TakesNoRest arguments true)

/-- A candidate takes the arguments as they are. -/
def Matches (ctx : TypeContext) (arguments : List TypeId) (signature : TypeId) : Prop :=
  ctx.MatchesFixed arguments signature ∨ ctx.MatchesVariadic arguments signature

theorem passes_exact (arguments : List TypeId) :
    ctx.Passes arguments arguments (List.replicate arguments.length .exact) := by
  induction arguments with
  | nil => exact .nil
  | cons argument arguments ih => exact .cons (conversion_exact_iff.2 rfl) ih

theorem Passes.eq_of_exact (passes : ctx.Passes arguments parameters ranks)
    (exact : ∀ rank ∈ ranks, rank = .exact) : arguments = parameters := by
  induction passes with
  | nil => rfl
  | cons fits others ih =>
    obtain ⟨rfl, behind⟩ := List.forall_mem_cons.1 exact
    rw [conversion_exact_iff.1 fits, ih behind]

/-- To cost nothing is to take the arguments as they are. -/
theorem Fits.matches_of_exact (fits : ctx.Fits signature arguments ranks)
    (exact : ∀ rank ∈ ranks, rank = .exact) : ctx.Matches arguments signature := by
  cases fits with
  | @fixed parameters result variadic _ _ form single passes =>
    obtain rfl := passes.eq_of_exact exact
    cases variadic with
    | false => exact .inl ⟨result, form⟩
    | true => exact .inr (.tailless form single)
  | @rest fixed last element result first rest ranks form slice passes others =>
    obtain ⟨own, tail⟩ := List.forall_mem_append.1 exact
    obtain rfl := passes.eq_of_exact own
    cases rest with
    | nil => exact .inr (.unfilled (by simpa using form) slice)
    | cons => exact absurd (tail .variadic (by simp)) nofun

theorem Matches.fits (free : ctx.Matches arguments signature) :
    ctx.Fits signature arguments (List.replicate arguments.length .exact) := by
  obtain ⟨result, form⟩ | ⟨form, slice⟩ | ⟨form, single⟩ := free
  · exact .fixed form nofun (passes_exact arguments)
  · simpa using Fits.rest form slice (passes_exact arguments) (List.forall_mem_nil _)
  · exact .fixed form single (passes_exact arguments)

/-- The viable candidates that cost nothing. -/
theorem viable_free_iff : ctx.Viable candidates arguments found ∧ found.cost = 0 ↔
    candidates[found.index]? = some found.signature ∧ ctx.Matches arguments found.signature ∧
      found.ranks = List.replicate arguments.length .exact := by
  rw [OverloadMatch.cost_eq_zero_iff]
  constructor
  · rintro ⟨⟨place, fits⟩, exact⟩
    exact ⟨place, fits.matches_of_exact exact, List.eq_replicate_iff.2 ⟨fits.length, exact⟩⟩
  · rintro ⟨place, free, same⟩
    refine ⟨⟨place, ?_⟩, fun rank listed => List.eq_of_mem_replicate (same ▸ listed)⟩
    rw [same]
    exact free.fits

theorem Matches.viable (free : ctx.Matches arguments signature)
    (there : candidates[position]? = some signature) :
    ctx.Viable candidates arguments ⟨position, signature, List.replicate arguments.length .exact⟩ ∧
      OverloadMatch.cost ⟨position, signature, List.replicate arguments.length .exact⟩ = 0 :=
  viable_free_iff.2 ⟨there, free, rfl⟩

end TypeContext

end FrontEnd
