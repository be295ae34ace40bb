import FrontEnd.Diagnostic.Queue

/-!
Errors of a queue. A queue drops errors only after it has kept some, so that what it gives in the end
holds an error exactly if it kept one.
-/

namespace FrontEnd

namespace DiagnosticQueue

variable {queue : DiagnosticQueue} {diag : Diagnostic}

/-- Errors were dropped only if some were kept. -/
def Honest (queue : DiagnosticQueue) : Prop := 0 < queue.dropped → queue.hasErrors = true

theorem hasErrors_iff : queue.hasErrors = true ↔ 0 < queue.errorCount := by
  unfold hasErrors evidence? ErrorEvidence.ofCount?
  split <;> simp_all

theorem honest_new (config : QueueConfig) : Honest { config } :=
  fun dropped => absurd dropped (Nat.lt_irrefl 0)

/-- What was kept stays kept. -/
theorem hasErrors_push (diag : Diagnostic) (found : queue.hasErrors = true) :
    (queue.push diag).hasErrors = true := by
  rw [hasErrors_iff] at found ⊢
  unfold push add
  split
  · exact found
  · split
    · exact found
    · simp only [errorCount, List.countP_append] at found ⊢
      omega

theorem hasErrors_extend (diags : List Diagnostic) (found : queue.hasErrors = true) :
    (queue.extend diags).hasErrors = true := by
  induction diags generalizing queue with
  | nil => exact found
  | cons diag rest ih => exact ih (hasErrors_push diag found)

/-! ### What is kept -/

theorem mem_kept_push {other : Diagnostic} (diag : Diagnostic) (kept : other ∈ queue.kept) :
    other ∈ (queue.push diag).kept := by
  unfold push add
  split
  · exact kept
  · split
    · exact kept
    · exact List.mem_append_left _ kept

theorem mem_kept_extend {other : Diagnostic} (diags : List Diagnostic)
    (kept : other ∈ queue.kept) : other ∈ (queue.extend diags).kept := by
  induction diags generalizing queue with
  | nil => exact kept
  | cons diag rest ih => exact ih (mem_kept_push diag kept)

/-- A first report is always kept. -/
theorem kept_push_of_empty (empty : queue.kept = []) (diag : Diagnostic) :
    (queue.push diag).kept = [diag] := by
  have fewer : queue.limitReached = false := by
    rw [limitReached, errorCount, empty]
    simpa using fun more : 0 < queue.config.errorLimit => Nat.ne_of_gt more
  simp [push, add, fewer, empty]

/-- Where nothing is kept, nothing was reported. -/
theorem empty_of_extend {diags : List Diagnostic} (empty : (queue.extend diags).kept = []) :
    queue.kept = [] ∧ diags = [] := by
  have before : queue.kept = [] := by
    cases kept : queue.kept with
    | nil => rfl
    | cons first rest =>
      have stays := mem_kept_extend diags (kept ▸ List.mem_cons_self : first ∈ queue.kept)
      rw [empty] at stays
      cases stays
  refine ⟨before, ?_⟩
  cases diags with
  | nil => rfl
  | cons diag rest =>
    have first : diag ∈ (queue.push diag).kept := by
      rw [kept_push_of_empty before]
      exact List.mem_singleton.2 rfl
    have stays : diag ∈ (queue.extend (diag :: rest)).kept := mem_kept_extend rest first
    rw [empty] at stays
    cases stays

/-- After a report the queue is not empty. -/
theorem kept_push_ne_nil (queue : DiagnosticQueue) (diag : Diagnostic) :
    (queue.push diag).kept ≠ [] := fun empty =>
  List.cons_ne_nil diag [] (empty_of_extend (show (queue.extend [diag]).kept = [] from empty)).2

/-! ### Reports of one code -/

theorem config_push (queue : DiagnosticQueue) (diag : Diagnostic) :
    (queue.push diag).config = queue.config := by
  unfold push add
  split
  · rfl
  · split <;> rfl

/-- What is kept after a report was kept before or is the report. -/
theorem of_mem_kept_push {other : Diagnostic} (kept : other ∈ (queue.push diag).kept) :
    other ∈ queue.kept ∨ other = diag := by
  unfold push add at kept
  split at kept
  · exact .inl kept
  · split at kept
    · exact .inl kept
    · exact (List.mem_append.1 kept).imp_right List.mem_singleton.1

theorem limitReached_iff : queue.limitReached = true ↔
    0 < queue.config.errorLimit ∧ queue.config.errorLimit ≤ queue.errorCount := by
  simp [limitReached]

/-- An error is kept, unless there is one already. -/
theorem hasErrors_push_of_isError (isError : diag.isError = true) :
    (queue.push diag).hasErrors = true := by
  rw [hasErrors_iff]
  unfold push add
  split
  · rename_i full
    have more : 0 < queue.config.errorLimit ∧ queue.config.errorLimit ≤ queue.errorCount := by
      simpa [limitReached, isError] using full
    exact Nat.lt_of_lt_of_le more.1 more.2
  · split
    · rename_i known
      have listed : diag ∈ queue.kept := by
        simpa using (Bool.and_eq_true_iff.1 known).2
      exact List.countP_pos_iff.2 ⟨diag, listed, isError⟩
    · exact List.countP_pos_iff.2 ⟨diag, by simp, isError⟩

/-- Where only errors are reported, there are errors as soon as anything is reported. -/
theorem hasErrors_extend_iff {diags : List Diagnostic} (empty : queue.kept = [])
    (errors : ∀ diag ∈ diags, diag.isError = true) :
    (queue.extend diags).hasErrors = true ↔ (queue.extend diags).kept ≠ [] := by
  cases diags with
  | nil =>
    have none_ : (queue.extend []).kept = [] := empty
    rw [hasErrors_iff, errorCount, none_]
    simp
  | cons diag rest =>
    refine iff_of_true (hasErrors_extend rest (hasErrors_push_of_isError ?_)) fun none_ => ?_
    · exact errors diag List.mem_cons_self
    · exact List.cons_ne_nil diag rest (empty_of_extend none_).2

theorem Honest.push (honest : queue.Honest) (diag : Diagnostic) : (queue.push diag).Honest := by
  intro dropped
  by_cases isError : diag.isError = true
  · exact hasErrors_push_of_isError isError
  · have same : (queue.push diag).dropped = queue.dropped := by
      unfold DiagnosticQueue.push add
      rw [if_neg (by simp [isError])]
      split <;> rfl
    exact hasErrors_push diag (honest (same ▸ dropped))

theorem Honest.extend (honest : queue.Honest) (diags : List Diagnostic) :
    (queue.extend diags).Honest := by
  induction diags generalizing queue with
  | nil => exact honest
  | cons diag rest ih => exact ih (honest.push diag)

/-- What is given in the end holds an error exactly if one was kept. -/
theorem Honest.errors_flush (honest : queue.Honest) :
    0 < (Diagnostic.tally queue.flush.1).1 ↔ queue.hasErrors = true := by
  have sorted := (List.mergeSort_perm queue.kept
    fun first second => placeLE (place first) (place second)).countP_eq (·.isError)
  have counted : (Diagnostic.tally queue.flush.1).1 = queue.errorCount +
      if 0 < queue.dropped then 1 else 0 := by
    have closing : (if 0 < queue.dropped then
        [tooManyErrors queue.config.errorLimit queue.dropped] else []).countP (·.isError) =
        if 0 < queue.dropped then 1 else 0 := by
      split <;> rfl
    exact List.countP_append.trans (congr (congrArg _ sorted) closing)
  rw [counted, hasErrors_iff]
  split
  · rename_i dropped
    have kept := hasErrors_iff.1 (honest dropped)
    omega
  · omega

end DiagnosticQueue

end FrontEnd
