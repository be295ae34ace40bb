import FrontEnd.Proofs.Overload.Conversion
import FrontEnd.Proofs.Specialization.Tables
import FrontEnd.Proofs.Typing.Inheritance
import FrontEnd.Typing.Overload

/-!
Which candidates are viable. A candidate takes one argument for each of its parameters, or, if it is
variadic and its last parameter is a slice, as many further ones as there are for the elements of the
slice. What is said of how well the arguments fit is exactly what follows from these two rules.
-/

namespace FrontEnd

namespace TypeContext

variable {ctx : TypeContext} {signature element : TypeId} {arguments parameters : List TypeId}
  {ranks : List Rank} {variadic : Bool}

/-- Each argument passes as its parameter, with a rank. -/
inductive Passes (ctx : TypeContext) : List TypeId → List TypeId → List Rank → Prop where
  | nil : Passes ctx [] [] []
  | cons {argument parameter rank arguments parameters ranks}
      (fits : ctx.conversion argument parameter = .ok (some rank))
      (others : Passes ctx arguments parameters ranks) :
      Passes ctx (argument :: arguments) (parameter :: parameters) (rank :: ranks)

/-- The last parameter is none that takes all further arguments. -/
def TakesNoRest (ctx : TypeContext) (parameters : List TypeId) (variadic : Bool) : Prop :=
  variadic = true → ∀ last, parameters.getLast? = some last →
    ∃ form, ctx.pool.form? (ctx.pool.unqualified last) = some form ∧ ∀ element, form ≠ .slice element

/-- A candidate takes arguments with these ranks. -/
inductive Fits (ctx : TypeContext) (signature : TypeId) : List TypeId → List Rank → Prop where
  | fixed {parameters result variadic arguments ranks}
      (form : ctx.pool.form? signature = some (.function parameters result variadic))
      (single : ctx.TakesNoRest parameters variadic)
      (passes : ctx.Passes arguments parameters ranks) : Fits ctx signature arguments ranks
  | rest {fixed last element result first rest ranks}
      (form : ctx.pool.form? signature = some (.function (fixed ++ [last]) result true))
      (slice : ctx.pool.form? (ctx.pool.unqualified last) = some (.slice element))
      (passes : ctx.Passes first fixed ranks)
      (others : ∀ argument ∈ rest, ctx.ConvertsTo argument element) :
      Fits ctx signature (first ++ rest) (ranks ++ List.replicate rest.length .variadic)

theorem Passes.lengths (passes : ctx.Passes arguments parameters ranks) :
    arguments.length = parameters.length ∧ ranks.length = arguments.length := by
  induction passes with
  | nil => exact ⟨rfl, rfl⟩
  | cons _ _ ih => simp [ih.1, ih.2]

/-- There is one rank for each argument. -/
theorem Fits.length (fits : ctx.Fits signature arguments ranks) :
    ranks.length = arguments.length := by
  cases fits with
  | fixed _ _ passes => exact passes.lengths.2
  | rest _ _ passes _ => simp [passes.lengths.2]

/-! ### The rules -/

theorem rankFixed_iff (same : arguments.length = parameters.length) :
    ctx.rankFixed arguments parameters = .ok (some ranks) ↔
      ctx.Passes arguments parameters ranks := by
  induction arguments generalizing parameters ranks with
  | nil =>
    cases parameters with
    | nil =>
      constructor
      · intro ranked
        cases ranked
        exact .nil
      · rintro ⟨⟩
        rfl
    | cons => cases same
  | cons argument arguments ih =>
    cases parameters with
    | nil => cases same
    | cons parameter parameters =>
      have same := Nat.succ.inj same
      constructor
      · intro ranked
        obtain ⟨_ | rank, fits, ranked⟩ := bind_eq_ok ranked
        · cases ranked
        obtain ⟨others, behind, given⟩ := bind_eq_ok ranked
        obtain ⟨others, rfl, rfl⟩ := Option.map_eq_some_iff.1 (Except.ok.inj given)
        exact .cons fits ((ih same).1 behind)
      · rintro (_ | ⟨fits, others⟩)
        rw [rankFixed, fits]
        show ctx.rankFixed arguments parameters >>= _ = _
        rw [(ih same).2 others]
        rfl

theorem rankVariadic_iff : ctx.rankVariadic element arguments = .ok (some ranks) ↔
    (∀ argument ∈ arguments, ctx.ConvertsTo argument element) ∧
      ranks = List.replicate arguments.length .variadic := by
  induction arguments generalizing ranks with
  | nil => simp [rankVariadic, pure, Except.pure, eq_comm]
  | cons argument arguments ih =>
    constructor
    · intro ranked
      obtain ⟨_ | rank, fits, ranked⟩ := bind_eq_ok ranked
      · cases ranked
      obtain ⟨others, behind, given⟩ := bind_eq_ok ranked
      obtain ⟨others, rfl, rfl⟩ := Option.map_eq_some_iff.1 (Except.ok.inj given)
      obtain ⟨each, rfl⟩ := ih.1 behind
      exact ⟨List.forall_mem_cons.2 ⟨⟨rank, fits⟩, each⟩, rfl⟩
    · rintro ⟨each, rfl⟩
      obtain ⟨⟨rank, fits⟩, each⟩ := List.forall_mem_cons.1 each
      rw [rankVariadic, fits]
      show ctx.rankVariadic element arguments >>= _ = _
      rw [ih.2 ⟨each, rfl⟩]
      rfl

theorem variadicElement?_some : ctx.variadicElement? parameters variadic = .ok (some element) ↔
    variadic = true ∧ ∃ fixed last, parameters = fixed ++ [last] ∧
      ctx.pool.form? (ctx.pool.unqualified last) = some (.slice element) := by
  unfold variadicElement?
  cases found : parameters.getLast? with
  | none =>
    rw [List.getLast?_eq_none_iff] at found
    simp [found, pure, Except.pure]
  | some last =>
    obtain ⟨fixed, rfl⟩ := List.getLast?_eq_some_iff.1 found
    cases variadic with
    | false => simp [pure, Except.pure]
    | true =>
      simp only [↓reduceIte, bind_eq_ok_iff, form_eq_ok_iff, true_and, List.append_singleton_inj]
      constructor
      · rintro ⟨form, there, given⟩
        split at given <;> cases given
        exact ⟨fixed, last, ⟨rfl, rfl⟩, there⟩
      · rintro ⟨_, _, ⟨rfl, rfl⟩, there⟩
        exact ⟨_, there, rfl⟩

theorem variadicElement?_none : ctx.variadicElement? parameters variadic = .ok none ↔
    ctx.TakesNoRest parameters variadic := by
  unfold variadicElement? TakesNoRest
  cases found : parameters.getLast? with
  | none => simp [pure, Except.pure]
  | some last =>
    cases variadic with
    | false => simp [pure, Except.pure]
    | true =>
      simp only [↓reduceIte, bind_eq_ok_iff, form_eq_ok_iff, Option.some.injEq, forall_const,
        forall_eq']
      refine exists_congr fun form => and_congr_right fun _ => ?_
      cases form <;> simp [pure, Except.pure]

/-- A candidate is ranked as these rules say. -/
theorem rankCandidate_iff : ctx.rankCandidate signature arguments = .ok (some ranks) ↔
    ctx.Fits signature arguments ranks := by
  constructor
  · intro ranked
    obtain ⟨form, found, answered⟩ := bind_eq_ok ranked
    rw [form_eq_ok_iff] at found
    split at answered
    · obtain ⟨rest, further, given⟩ := bind_eq_ok answered
      clear ranked answered
      cases rest with
      | none =>
        dsimp only at given
        split at given
        · cases given
        rename_i same
        exact .fixed found (variadicElement?_none.1 further)
          ((rankFixed_iff (not_not.1 same)).1 given)
      | some element =>
        obtain ⟨rfl, fixed, last, rfl, slice⟩ := variadicElement?_some.1 further
        dsimp only at given
        rw [List.dropLast_concat] at given
        split at given
        · cases given
        obtain ⟨own, passes, given⟩ := bind_eq_ok given
        cases own with
        | none => cases given
        | some own =>
          obtain ⟨others, rest, given⟩ := bind_eq_ok given
          obtain ⟨others, rfl, rfl⟩ := Option.map_eq_some_iff.1 (Except.ok.inj given)
          obtain ⟨each, rfl⟩ := rankVariadic_iff.1 rest
          have taken := (rankFixed_iff (by simp; omega)).1 passes
          have fits := Fits.rest found slice taken each
          rwa [List.take_append_drop] at fits
    · cases answered
  · intro fits
    cases fits with
    | fixed form single passes =>
      rw [rankCandidate, form_eq_ok_iff.2 form]
      show ctx.variadicElement? _ _ >>= _ = _
      rw [variadicElement?_none.2 single]
      show ite _ _ _ = _
      rw [if_neg (not_not.2 passes.lengths.1), (rankFixed_iff passes.lengths.1).2 passes]
    | @rest fixed last element result first others own form slice passes each =>
      have further : ctx.variadicElement? (fixed ++ [last]) true = .ok (some element) :=
        variadicElement?_some.2 ⟨rfl, fixed, last, rfl, slice⟩
      have same := passes.lengths.1
      rw [rankCandidate, form_eq_ok_iff.2 form]
      show ctx.variadicElement? _ _ >>= _ = _
      rw [further]
      show ite _ _ _ = _
      rw [List.dropLast_concat, if_neg (by simp; omega), ← same, List.take_left, List.drop_left,
        (rankFixed_iff same).2 passes]
      show ctx.rankVariadic element others >>= _ = _
      rw [rankVariadic_iff.2 ⟨each, rfl⟩]
      rfl

/-! ### Refusals -/

theorem onlyForeign_targetConverts (ctx : TypeContext) (inner toInner : TypeId) :
    OnlyForeign (ctx.targetConverts inner toInner) := by
  unfold targetConverts
  dsimp only
  split
  · exact onlyForeign_ok _
  split
  · exact onlyForeign_ok _
  refine OnlyForeign.bind ((onlyForeign_defOf _ _).bind fun entry => ?_) fun record => ?_
  · split <;> exact onlyForeign_ok _
  · split
    · exact (onlyForeign_knownOrder _ _).bind fun _ => onlyForeign_ok _
    · exact onlyForeign_ok _

theorem onlyForeign_converts (ctx : TypeContext) (source target : TypeId) :
    OnlyForeign (ctx.converts source target) := by
  refine (onlyForeign_form _ _).bind fun form => (onlyForeign_form _ _).bind fun toForm => ?_
  split
  case h_4 =>
    refine (onlyForeign_bodyOf _ _).bind fun body => ?_
    split <;> exact onlyForeign_ok _
  case h_5 => exact onlyForeign_targetConverts _ _ _
  all_goals exact onlyForeign_ok _

theorem onlyForeign_conversion (ctx : TypeContext) (source target : TypeId) :
    OnlyForeign (ctx.conversion source target) := by
  unfold conversion
  split
  · exact onlyForeign_ok _
  dsimp only
  split
  · exact onlyForeign_ok _
  split
  · exact onlyForeign_ok _
  refine (onlyForeign_converts _ _ _).bind fun answer => ?_
  split <;> exact onlyForeign_ok _

theorem onlyForeign_rankFixed (ctx : TypeContext) (arguments parameters : List TypeId) :
    OnlyForeign (ctx.rankFixed arguments parameters) := by
  induction arguments generalizing parameters with
  | nil => exact onlyForeign_ok _
  | cons argument arguments ih =>
    cases parameters with
    | nil => exact onlyForeign_ok _
    | cons parameter parameters =>
      refine (onlyForeign_conversion _ _ _).bind fun rank => ?_
      split
      · exact onlyForeign_ok _
      · exact (ih parameters).bind fun _ => onlyForeign_ok _

theorem onlyForeign_rankVariadic (ctx : TypeContext) (element : TypeId)
    (arguments : List TypeId) : OnlyForeign (ctx.rankVariadic element arguments) := by
  induction arguments with
  | nil => exact onlyForeign_ok _
  | cons argument arguments ih =>
    refine (onlyForeign_conversion _ _ _).bind fun rank => ?_
    split
    · exact onlyForeign_ok _
    · exact ih.bind fun _ => onlyForeign_ok _

theorem onlyForeign_rankCandidate (ctx : TypeContext) (signature : TypeId)
    (arguments : List TypeId) : OnlyForeign (ctx.rankCandidate signature arguments) := by
  refine (onlyForeign_form _ _).bind fun form => ?_
  split
  · refine OnlyForeign.bind ?_ fun element => ?_
    · unfold variadicElement?
      split
      · split
        · refine (onlyForeign_form _ _).bind fun form => ?_
          split <;> exact onlyForeign_ok _
        · exact onlyForeign_ok _
      · exact onlyForeign_ok _
    · split
      · split
        · exact onlyForeign_ok _
        · exact onlyForeign_rankFixed _ _ _
      · dsimp only
        split
        · exact onlyForeign_ok _
        refine (onlyForeign_rankFixed _ _ _).bind fun own => ?_
        split
        · exact onlyForeign_ok _
        · exact (onlyForeign_rankVariadic _ _ _).bind fun _ => onlyForeign_ok _
  · exact onlyForeign_ok _

/-! ### Answers -/

/-- It is known of every candidate whether it is viable. -/
def Ranked (ctx : TypeContext) (candidates arguments : List TypeId) : Prop :=
  ∀ signature ∈ candidates, ∃ answer, ctx.rankCandidate signature arguments = .ok answer

section Known

variable (twin : Twin .id ctx ctx)

include twin

theorem rankFixed_known (known : ∀ argument ∈ arguments, argument.index < ctx.pool.size)
    (known' : ∀ parameter ∈ parameters, parameter.index < ctx.pool.size) :
    ∃ answer, ctx.rankFixed arguments parameters = .ok answer := by
  induction arguments generalizing parameters with
  | nil => exact ⟨_, rfl⟩
  | cons argument arguments ih =>
    cases parameters with
    | nil => exact ⟨_, rfl⟩
    | cons parameter parameters =>
      obtain ⟨first, known⟩ := List.forall_mem_cons.1 known
      obtain ⟨first', known'⟩ := List.forall_mem_cons.1 known'
      obtain ⟨rank, fits⟩ := conversion_known twin first first'
      obtain ⟨others, ranked⟩ := ih known known'
      rw [rankFixed, fits]
      cases rank with
      | none => exact ⟨_, rfl⟩
      | some rank =>
        dsimp only [Bind.bind, Except.bind]
        rw [ranked]
        exact ⟨_, rfl⟩

theorem rankVariadic_known (known : ∀ argument ∈ arguments, argument.index < ctx.pool.size)
    (known' : element.index < ctx.pool.size) :
    ∃ answer, ctx.rankVariadic element arguments = .ok answer := by
  induction arguments with
  | nil => exact ⟨_, rfl⟩
  | cons argument arguments ih =>
    obtain ⟨first, known⟩ := List.forall_mem_cons.1 known
    obtain ⟨rank, fits⟩ := conversion_known twin first known'
    obtain ⟨others, ranked⟩ := ih known
    rw [rankVariadic, fits]
    cases rank with
    | none => exact ⟨_, rfl⟩
    | some rank =>
      dsimp only [Bind.bind, Except.bind]
      rw [ranked]
      exact ⟨_, rfl⟩

theorem variadicElement?_known (variadic : Bool)
    (known : ∀ parameter ∈ parameters, parameter.index < ctx.pool.size) :
    ∃ answer, ctx.variadicElement? parameters variadic = .ok answer ∧
      ∀ element, answer = some element → element.index < ctx.pool.size := by
  unfold variadicElement?
  split
  · rename_i last found
    have last_known := known_unqualified twin (known last (List.mem_of_getLast? found))
    obtain ⟨form, there⟩ := TypePool.exists_form? last_known
    split
    · rw [form_eq_ok_iff.2 there]
      dsimp only [Bind.bind, Except.bind]
      split
      · refine ⟨_, rfl, ?_⟩
        rintro element ⟨⟩
        exact known_type.1 (known_slice.1 (twin.pool.form _ _ there).1)
      · exact ⟨_, rfl, nofun⟩
    · exact ⟨_, rfl, nofun⟩
  · exact ⟨_, rfl, nofun⟩

theorem rankCandidate_known (known : signature.index < ctx.pool.size)
    (known' : ∀ argument ∈ arguments, argument.index < ctx.pool.size) :
    ∃ answer, ctx.rankCandidate signature arguments = .ok answer := by
  obtain ⟨form, found⟩ := TypePool.exists_form? known
  rw [rankCandidate, form_eq_ok_iff.2 found]
  dsimp only [Bind.bind, Except.bind]
  split
  · rename_i parameters result variadic
    have parts := known_list.1 (known_function.1 (twin.pool.form _ _ found).1).1
    have parts : ∀ parameter ∈ parameters, parameter.index < ctx.pool.size :=
      fun parameter listed => known_type.1 (parts parameter listed)
    obtain ⟨rest, further, inside⟩ := variadicElement?_known twin variadic parts
    rw [further]
    dsimp only
    cases rest with
    | none =>
      dsimp only
      split
      · exact ⟨_, rfl⟩
      · exact rankFixed_known twin known' parts
    | some element =>
      dsimp only
      split
      · exact ⟨_, rfl⟩
      obtain ⟨own, passes⟩ := rankFixed_known twin
        (fun argument listed => known' argument (List.mem_of_mem_take listed))
        (fun parameter listed => parts parameter (List.mem_of_mem_dropLast listed))
      rw [passes]
      cases own with
      | none => exact ⟨_, rfl⟩
      | some own =>
        obtain ⟨others, ranked⟩ := rankVariadic_known twin
          (fun argument listed => known' argument (List.mem_of_mem_drop listed)) (inside element rfl)
        dsimp only
        rw [ranked]
        exact ⟨_, rfl⟩
  · exact ⟨_, rfl⟩

end Known

/-- Tables that requests lead to know it of all candidates and arguments from the pool. -/
theorem ranked_of_leads {config : TypeConfig} {candidates : List TypeId}
    (leads : Leads { config } ctx)
    (known : ∀ signature ∈ candidates, signature.index < ctx.pool.size)
    (known' : ∀ argument ∈ arguments, argument.index < ctx.pool.size) :
    ctx.Ranked candidates arguments := by
  have twin : Twin .id ctx ctx := (leads.orderly (orderly_initial config)).1.twin
  exact fun signature listed => rankCandidate_known twin (known signature listed) known'

end TypeContext

end FrontEnd
