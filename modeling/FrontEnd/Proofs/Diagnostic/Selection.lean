import FrontEnd.Proofs.Diagnostic.Queue
import Mathlib.Data.List.Induction
import Mathlib.Data.Prod.Lex
import Mathlib.Order.WithBot

/-!
What a queue gives for the diagnostics that were added to it, said without the queue: which of them
are kept, how many errors come too late, and in what order the kept ones are listed. There is one
list only that is ordered by place and keeps the order of adding within each place.
-/

namespace FrontEnd

/-! ### Which diagnostics are kept -/

namespace QueueConfig

variable {config : QueueConfig} {diags kept : List Diagnostic} {diag : Diagnostic}

/-- No further error is kept behind others, because as many are kept as the limit allows. -/
def Full (config : QueueConfig) (kept : List Diagnostic) : Prop :=
  config.errorLimit ≠ 0 ∧ config.errorLimit ≤ kept.countP (·.isError)

instance : Decidable (config.Full kept) := inferInstanceAs (Decidable (_ ∧ _))

/-- A diagnostic is kept behind others: an error as long as fewer errors than the limit allows are
kept, and nothing that is kept already if duplicates are refused. -/
def Admits (config : QueueConfig) (kept : List Diagnostic) (diag : Diagnostic) : Prop :=
  (diag.isError = true → config.errorLimit = 0 ∨ kept.countP (·.isError) < config.errorLimit) ∧
    (config.deduplicate = true → diag ∉ kept)

instance : Decidable (config.Admits kept diag) := inferInstanceAs (Decidable (_ ∧ _))

/-- What is kept of a list of diagnostics. -/
def select (config : QueueConfig) (diags : List Diagnostic) : List Diagnostic :=
  diags.foldl (fun kept diag => if config.Admits kept diag then kept ++ [diag] else kept) []

/-- How many errors of a list come when no further error is kept. -/
def unreported (config : QueueConfig) (diags : List Diagnostic) : Nat :=
  (List.range diags.length).countP fun index =>
    diags[index]?.any (·.isError) && config.Full (config.select (diags.take index))

theorem select_concat (diags : List Diagnostic) (diag : Diagnostic) :
    config.select (diags ++ [diag]) =
      if config.Admits (config.select diags) diag then config.select diags ++ [diag]
      else config.select diags := by
  rw [select, List.foldl_append]
  rfl

theorem unreported_concat (diags : List Diagnostic) (diag : Diagnostic) :
    config.unreported (diags ++ [diag]) = config.unreported diags +
      if diag.isError = true ∧ config.Full (config.select diags) then 1 else 0 := by
  have early : (List.range diags.length).countP (fun index =>
      (diags ++ [diag])[index]?.any (·.isError) &&
        config.Full (config.select ((diags ++ [diag]).take index))) = config.unreported diags := by
    refine List.countP_congr fun index listed => ?_
    have below := List.mem_range.1 listed
    rw [List.getElem?_append_left below, List.take_append_of_le_length below.le]
  rw [unreported, List.length_append, List.length_singleton, List.range_succ, List.countP_append,
    early, List.countP_singleton]
  simp

/-- Only what was added is kept. -/
theorem mem_of_mem_select (listed : diag ∈ config.select diags) : diag ∈ diags := by
  induction diags using List.reverseRecOn with
  | nil => exact listed
  | append_singleton rest last ih =>
    rw [select_concat] at listed
    split at listed
    · exact (List.mem_append.1 listed).elim (fun early => List.mem_append_left _ (ih early))
        (List.mem_append_right _)
    · exact List.mem_append_left _ (ih listed)

end QueueConfig

namespace DiagnosticQueue

variable {queue : DiagnosticQueue} {diags : List Diagnostic}

theorem extend_concat (queue : DiagnosticQueue) (diags : List Diagnostic) (diag : Diagnostic) :
    queue.extend (diags ++ [diag]) = (queue.extend diags).push diag := by
  rw [extend, List.foldl_append]
  rfl

theorem limitReached_iff_full :
    queue.limitReached = true ↔ queue.config.Full queue.kept := by
  rw [limitReached_iff, QueueConfig.Full, Nat.pos_iff_ne_zero]
  rfl

/-- What is kept after one more diagnostic, and how many errors were dropped. -/
theorem push_eq (queue : DiagnosticQueue) (diag : Diagnostic) : queue.push diag =
    { queue with
      kept := if queue.config.Admits queue.kept diag then queue.kept ++ [diag] else queue.kept
      dropped := queue.dropped +
        if diag.isError = true ∧ queue.config.Full queue.kept then 1 else 0 } := by
  have room : ¬ queue.config.Full queue.kept ↔
      queue.config.errorLimit = 0 ∨ queue.kept.countP (·.isError) < queue.config.errorLimit := by
    rw [QueueConfig.Full, not_and_or, not_ne_iff, Nat.not_le]
  unfold push add
  by_cases late : diag.isError = true ∧ queue.config.Full queue.kept
  · have refused : ¬ queue.config.Admits queue.kept diag := fun admitted =>
      room.2 (admitted.1 late.1) late.2
    rw [if_pos (by simpa [limitReached_iff_full] using late), if_neg refused, if_pos late]
  · rw [if_neg (by simpa [limitReached_iff_full] using late), if_neg late]
    have admits : queue.config.Admits queue.kept diag ↔
        ¬ (queue.config.deduplicate && queue.kept.contains diag) = true := by
      rw [QueueConfig.Admits, ← room, and_iff_right fun isError full => late ⟨isError, full⟩]
      simp
    by_cases known : (queue.config.deduplicate && queue.kept.contains diag) = true
    · rw [if_pos known, if_neg fun admitted => admits.1 admitted known]
      rfl
    · rw [if_neg known, if_pos (admits.2 known)]
      rfl

/-- A queue that was new keeps what the configuration selects, and drops the rest of the errors. -/
theorem extend_eq (config : QueueConfig) (diags : List Diagnostic) :
    ({ config } : DiagnosticQueue).extend diags =
      ⟨config, config.select diags, config.unreported diags⟩ := by
  induction diags using List.reverseRecOn with
  | nil => rfl
  | append_singleton rest last ih =>
    rw [extend_concat, ih, push_eq, QueueConfig.select_concat, QueueConfig.unreported_concat]

end DiagnosticQueue

/-! ### The order of the list -/

/-- Where a diagnostic is listed: by source and start of its first primary label, and before all
others if it has none. -/
def Diagnostic.position (diag : Diagnostic) : WithBot (ℕ ×ₗ ℕ) :=
  match diag.primaryLabel? with
  | none => ⊥
  | some label => (toLex (label.source.number.val, label.span.start) : ℕ ×ₗ ℕ)

/-- The stable sort: diagnostics in the order of their positions, and those of one position in the
order in which they were kept. -/
structure SortedByPosition (kept listed : List Diagnostic) : Prop where
  ordered : listed.Pairwise fun first second => first.position ≤ second.position
  stable : ∀ position, listed.filter (·.position = position) = kept.filter (·.position = position)

/-- An ordered list is determined by what it holds at each position. -/
theorem eq_of_filter_position {first second : List Diagnostic}
    (ordered : first.Pairwise fun one other => one.position ≤ other.position)
    (ordered' : second.Pairwise fun one other => one.position ≤ other.position)
    (same : ∀ position, first.filter (·.position = position) =
      second.filter (·.position = position)) : first = second := by
  have mem_iff : ∀ diag, diag ∈ first ↔ diag ∈ second := fun diag => by
    have listed := congrArg (diag ∈ ·) (same diag.position)
    simpa [List.mem_filter] using listed
  induction first generalizing second with
  | nil =>
    refine (List.eq_nil_iff_forall_not_mem.2 fun diag listed => ?_).symm
    exact List.not_mem_nil ((mem_iff diag).2 listed)
  | cons one rest ih =>
    cases second with
    | nil => exact absurd ((mem_iff one).1 List.mem_cons_self) List.not_mem_nil
    | cons other behind =>
      obtain ⟨least, tail⟩ := List.pairwise_cons.1 ordered
      obtain ⟨least', tail'⟩ := List.pairwise_cons.1 ordered'
      have below : one.position ≤ other.position :=
        (List.mem_cons.1 ((mem_iff other).2 List.mem_cons_self)).elim
          (fun equal => (congrArg Diagnostic.position equal).ge) (least other)
      have above : other.position ≤ one.position :=
        (List.mem_cons.1 ((mem_iff one).1 List.mem_cons_self)).elim
          (fun equal => (congrArg Diagnostic.position equal).ge) (least' one)
      have level : one.position = other.position := le_antisymm below above
      have heads := same one.position
      rw [List.filter_cons_of_pos (by simp), List.filter_cons_of_pos (by simp [level])] at heads
      obtain ⟨rfl, tails⟩ := List.cons.inj heads
      have same' : ∀ position, rest.filter (·.position = position) =
          behind.filter (·.position = position) := fun position => by
        by_cases here : one.position = position
        · exact here ▸ tails
        · simpa [List.filter_cons, here] using same position
      refine congrArg (one :: ·) (ih tail tail' same' fun diag => ?_)
      have listed := congrArg (diag ∈ ·) (same' diag.position)
      simpa [List.mem_filter] using listed

theorem SortedByPosition.unique {kept first second : List Diagnostic}
    (sorted : SortedByPosition kept first) (sorted' : SortedByPosition kept second) :
    first = second :=
  eq_of_filter_position sorted.ordered sorted'.ordered fun position =>
    (sorted.stable position).trans (sorted'.stable position).symm

namespace DiagnosticQueue

theorem placeLE_iff (first second : Diagnostic) :
    placeLE (place first) (place second) = true ↔ first.position ≤ second.position := by
  unfold place Diagnostic.position
  cases first.primaryLabel? with
  | none => simp [placeLE]
  | some label =>
    cases second.primaryLabel? with
    | none => simp [placeLE]
    | some label' => simp [placeLE, Prod.Lex.toLex_le_toLex]

/-- What was kept, in the order in which it is given in the end. -/
def listed (kept : List Diagnostic) : List Diagnostic :=
  kept.mergeSort fun first second => placeLE (place first) (place second)

theorem sortedByPosition_listed (kept : List Diagnostic) : SortedByPosition kept (listed kept) := by
  have trans (one other third : Diagnostic) (before : placeLE (place one) (place other) = true)
      (before' : placeLE (place other) (place third) = true) :
      placeLE (place one) (place third) = true := by
    rw [placeLE_iff] at before before' ⊢
    exact before.trans before'
  have total (one other : Diagnostic) :
      (placeLE (place one) (place other) || placeLE (place other) (place one)) = true := by
    rw [Bool.or_eq_true, placeLE_iff, placeLE_iff]
    exact le_total ..
  refine ⟨(List.pairwise_mergeSort trans total kept).imp (placeLE_iff ..).1, fun position => ?_⟩
  -- what is kept at one position is in order already, so that sorting leaves it as it is
  have level : (kept.filter (·.position = position)).Pairwise fun one other =>
      placeLE (place one) (place other) := by
    refine List.pairwise_of_forall_mem_list fun one here other there => ?_
    simp only [List.mem_filter, decide_eq_true_eq] at here there
    exact (placeLE_iff ..).2 (here.2.trans there.2.symm).le
  have stays := (List.sublist_mergeSort trans total level List.filter_sublist).filter
    (·.position = position)
  rw [List.filter_filter] at stays
  simp only [Bool.and_self] at stays
  exact (stays.eq_of_length ((List.mergeSort_perm kept _).filter _).length_eq.symm).symm

/-- What a queue gives in the end is the one list that is sorted by position, and behind it the
report on what was dropped. -/
theorem flush_eq_iff (queue : DiagnosticQueue) (sorted : List Diagnostic) :
    SortedByPosition queue.kept sorted ↔
      queue.flush.1 = sorted ++ if 0 < queue.dropped then
        [tooManyErrors queue.config.errorLimit queue.dropped] else [] := by
  have own := sortedByPosition_listed queue.kept
  constructor
  · intro given
    rw [given.unique own]
    rfl
  · intro given
    have same : listed queue.kept = sorted := List.append_cancel_right given
    exact same ▸ own

end DiagnosticQueue

end FrontEnd
