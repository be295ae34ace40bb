import FrontEnd.Proofs.Diagnostic.Selection

/-!
The queue that knows diagnostics by their digests. Its counts and digests always are those of what
it has kept, so that it answers as the queue that compares diagnostics themselves as long as no two
of the diagnostics it meets have one digest.
-/

namespace FrontEnd

namespace DigestQueue

variable {digest : Diagnostic → UInt64} {queue : DigestQueue} {diag : Diagnostic}
  {diags : List Diagnostic}

/-- The errors that are kept are counted, and their digests are there if duplicates are refused. -/
structure Sound (digest : Diagnostic → UInt64) (queue : DigestQueue) : Prop where
  counted : queue.errorCount = queue.kept.countP (·.isError)
  seen : queue.config.deduplicate = true →
    ∀ code, code ∈ queue.seen ↔ ∃ diag ∈ queue.kept, digest diag = code

theorem sound_new (digest : Diagnostic → UInt64) (config : QueueConfig) :
    Sound digest { config } where
  counted := rfl
  seen _ code := by simp

theorem Sound.keep (sound : queue.Sound digest) (diag : Diagnostic) :
    (queue.keep digest diag).Sound digest where
  counted := by
    rw [DigestQueue.keep, List.countP_append, List.countP_singleton, ← sound.counted]
  seen deduplicates code := by
    have deduplicates : queue.config.deduplicate = true := deduplicates
    simp only [DigestQueue.keep, if_pos deduplicates, Std.HashSet.mem_insert, beq_iff_eq,
      sound.seen deduplicates, List.mem_append, List.mem_singleton, or_and_right, exists_or,
      exists_eq_left, or_comm]

theorem Sound.add (sound : queue.Sound digest) (diag : Diagnostic) :
    (queue.add digest diag).2.Sound digest := by
  unfold DigestQueue.add
  split
  · exact ⟨sound.counted, sound.seen⟩
  · split
    · exact sound
    · exact sound.keep diag

theorem config_add (digest : Diagnostic → UInt64) (queue : DigestQueue) (diag : Diagnostic) :
    (queue.add digest diag).2.config = queue.config := by
  unfold add
  split
  · rfl
  · split <;> rfl

theorem extend_concat (digest : Diagnostic → UInt64) (queue : DigestQueue)
    (diags : List Diagnostic) (diag : Diagnostic) :
    queue.extend digest (diags ++ [diag]) = ((queue.extend digest diags).add digest diag).2 := by
  rw [extend, List.foldl_append]
  rfl

theorem Sound.extend (sound : queue.Sound digest) (diags : List Diagnostic) :
    (queue.extend digest diags).Sound digest := by
  induction diags generalizing queue with
  | nil => exact sound
  | cons diag rest ih => exact ih (sound.add diag)

/-! ### The plain queue -/

theorem Sound.limitReached_plain (sound : queue.Sound digest) :
    queue.plain.limitReached = queue.limitReached := by
  rw [limitReached, sound.counted]
  rfl

theorem Sound.hasErrors_plain (sound : queue.Sound digest) :
    queue.plain.hasErrors = queue.hasErrors := by
  rw [hasErrors, evidence?, sound.counted]
  rfl

theorem flush_plain (queue : DigestQueue) : queue.plain.flush.1 = queue.flush.1 := rfl

/-- The diagnostic has its digest for itself among those that are kept. -/
theorem Sound.add_plain (sound : queue.Sound digest)
    (own : ∀ other ∈ queue.kept, digest other = digest diag → other = diag) :
    queue.plain.add diag = ((queue.add digest diag).1, (queue.add digest diag).2.plain) := by
  have known : (queue.config.deduplicate && queue.kept.contains diag) =
      (queue.config.deduplicate && queue.seen.contains (digest diag)) := by
    cases deduplicates : queue.config.deduplicate with
    | false => rfl
    | true =>
      have listed : diag ∈ queue.kept ↔ digest diag ∈ queue.seen := by
        rw [sound.seen deduplicates]
        exact ⟨fun kept => ⟨diag, kept, rfl⟩, fun ⟨other, kept, same⟩ => own other kept same ▸ kept⟩
      rw [Bool.true_and, Bool.true_and, Bool.eq_iff_iff, List.contains_iff_mem, listed,
        Std.HashSet.contains_iff_mem]
  have full := sound.limitReached_plain
  unfold DiagnosticQueue.add DigestQueue.add
  rw [full, show queue.plain.config = queue.config from rfl,
    show queue.plain.kept = queue.kept from rfl, known]
  split
  · rfl
  · split <;> rfl

/-- No two of the diagnostics have one digest. -/
def Distinguishes (digest : Diagnostic → UInt64) (diags : List Diagnostic) : Prop :=
  ∀ one ∈ diags, ∀ other ∈ diags, digest one = digest other → one = other

instance : Decidable (Distinguishes digest diags) :=
  inferInstanceAs (Decidable (∀ one ∈ diags, ∀ other ∈ diags, _))

/-- As long as digests tell the diagnostics apart, a new queue does what the plain one does. -/
theorem extend_plain (config : QueueConfig) (distinct : Distinguishes digest diags) :
    (({ config } : DigestQueue).extend digest diags).plain =
      ({ config } : DiagnosticQueue).extend diags := by
  induction diags using List.reverseRecOn with
  | nil => rfl
  | append_singleton rest last ih =>
    have distinct' : Distinguishes digest rest := fun one here other there =>
      distinct one (List.mem_append_left _ here) other (List.mem_append_left _ there)
    have same := ih distinct'
    have kept : (({ config } : DigestQueue).extend digest rest).kept = config.select rest :=
      (congrArg DiagnosticQueue.kept same).trans
        (congrArg DiagnosticQueue.kept (DiagnosticQueue.extend_eq config rest))
    have own : ∀ other ∈ (({ config } : DigestQueue).extend digest rest).kept,
        digest other = digest last → other = last := fun other listed =>
      distinct other (List.mem_append_left _ (QueueConfig.mem_of_mem_select (kept ▸ listed))) last
        (List.mem_append_right _ (List.mem_singleton.2 rfl))
    rw [extend_concat, DiagnosticQueue.extend_concat, ← same, DiagnosticQueue.push,
      ((sound_new digest config).extend rest).add_plain own]

/-- What a new queue of any configuration gives for diagnostics that were added to it, as long as no
two of them have one digest. It keeps what the configuration selects. In the end it gives the stable
sort of that, unlabelled diagnostics first, the others by source and start of their first primary
label, and behind it one report on the errors that came when no more were kept, with their number,
exactly if there were any. It has errors exactly if it kept one, and is then as new. The queue that
compares diagnostics themselves does the same whatever their digests. -/
theorem selection_listed (digest : Diagnostic → UInt64) (config : QueueConfig)
    (diags : List Diagnostic) (distinct : Distinguishes digest diags) :
    let queue := ({ config } : DigestQueue).extend digest diags
    let plain := ({ config } : DiagnosticQueue).extend diags
    let late := config.unreported diags
    queue.kept = config.select diags ∧
    (∀ sorted, SortedByPosition (config.select diags) sorted ↔
      queue.flush.1 = sorted ++ if 0 < late then
        [{ code := .tooManyErrors, message := s!"aborting after {config.errorLimit} errors",
           notes := [s!"{late} further errors were not reported"] }] else []) ∧
    ErrorCode.tooManyErrors.label = "E9003" ∧
    (queue.hasErrors = true ↔ ∃ diag ∈ config.select diags, diag.isError = true) ∧
    queue.flush.2 = { config } ∧
    plain.kept = config.select diags ∧ plain.flush.1 = queue.flush.1 ∧
    plain.hasErrors = queue.hasErrors ∧ plain.flush.2 = { config } := by
  intro queue plain late
  have sound : queue.Sound digest := (sound_new digest config).extend diags
  have same : queue.plain = plain := extend_plain config distinct
  have whole : plain = ⟨config, config.select diags, late⟩ := DiagnosticQueue.extend_eq config diags
  have kept : queue.kept = config.select diags :=
    congrArg DiagnosticQueue.kept (same.trans whole)
  have fresh : queue.config = config := congrArg DiagnosticQueue.config (same.trans whole)
  have given : plain.flush.1 = queue.flush.1 := by rw [← same, flush_plain]
  have found : plain.hasErrors = queue.hasErrors := by rw [← same, sound.hasErrors_plain]
  refine ⟨kept, fun sorted => ?_, rfl, ?_, by rw [flush, fresh], by rw [whole], given, found, ?_⟩
  · have listed := DiagnosticQueue.flush_eq_iff plain sorted
    rw [given, whole] at listed
    exact listed
  · rw [← found, DiagnosticQueue.hasErrors_iff, whole]
    exact List.countP_pos_iff
  · rw [whole]
    rfl

/-- Two errors behind the one that the limit allows, one of which was kept before. The warning that
comes last is kept and listed first. -/
theorem selection_listed_past_limit :
    let digest : Diagnostic → UInt64 := fun diag =>
      diag.message.toList.foldl (fun sum c => sum * 31 + c.toNat.toUInt64) 7
    let config : QueueConfig := { errorLimit := 1 }
    let first : Diagnostic :=
      (Diagnostic.error .memberNotFound "first").withLabel ⟨0⟩ (.point 3) "here"
    let second := Diagnostic.error .unknownType "second"
    let warning : Diagnostic := { code := .duplicateDefinition, severity := .warning }
    let diags := [first, first, second, warning]
    let queue := ({ config } : DigestQueue).extend digest diags
    Distinguishes digest diags ∧ queue.kept = [first, warning] ∧ queue.hasErrors = true ∧
      queue.flush = ([warning, first,
        { code := .tooManyErrors, message := "aborting after 1 errors",
          notes := ["2 further errors were not reported"] }], { config }) := by
  intro digest config first second warning diags queue
  have distinct : Distinguishes digest diags := by decide +kernel
  have selected : config.select diags = [first, warning] := by decide +kernel
  have late : config.unreported diags = 2 := by decide +kernel
  obtain ⟨kept, listed, -, found, fresh, -⟩ := selection_listed digest config diags distinct
  rw [selected, late] at listed
  have sorted : SortedByPosition [first, warning] [warning, first] := by
    refine ⟨?_, fun position => ?_⟩
    · exact List.pairwise_pair.2 bot_le
    · by_cases here : first.position = position <;> by_cases there : warning.position = position
      · exact absurd (here.trans there.symm) WithBot.coe_ne_bot
      all_goals simp [here, there]
  refine ⟨distinct, kept.trans selected, found.2 ⟨first, ?_, rfl⟩, Prod.ext ?_ fresh⟩
  · rw [selected]
    exact List.mem_cons_self
  · refine ((listed _).1 sorted).trans ?_
    decide +kernel

end DigestQueue

end FrontEnd
