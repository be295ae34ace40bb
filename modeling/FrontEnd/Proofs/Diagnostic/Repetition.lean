import FrontEnd.Proofs.Diagnostic.Digest
import Std.Data.String.ToNat

/-!
Reporting again what is kept already. Nothing that a queue is asked later tells that it was, unless
an error is reported again when the limit is reached. Then the error counts among those that were
not reported, which the next list says, and nothing else does.
-/

namespace FrontEnd

/-! ### Queues seen from outside -/

/-- A use of a queue. -/
inductive QueueCall where
  | add (diag : Diagnostic)
  | flush
  /-- Looks at the queue without changing it. -/
  | look

/-- What is seen of a queue. -/
structure QueueView where
  kept : List Diagnostic
  size : Nat
  errorCount : Nat
  limitReached : Bool
  hasErrors : Bool

/-- What a use is answered. -/
inductive QueueAnswer where
  | added (kept : Bool)
  | flushed (diags : List Diagnostic)
  | looked (view : QueueView)

/-- What queues of a type do. -/
structure QueueOps (Q : Type) where
  add : Q → Diagnostic → Bool × Q
  flush : Q → List Diagnostic × Q
  view : Q → QueueView

namespace QueueOps

variable {Q : Type} {ops : QueueOps Q} {queue : Q}

/-- The answer to one use, and the queue after it. -/
def perform (ops : QueueOps Q) (queue : Q) : QueueCall → QueueAnswer × Q
  | .add diag => ((ops.add queue diag).map .added id)
  | .flush => ((ops.flush queue).map .flushed id)
  | .look => (.looked (ops.view queue), queue)

/-- The answers to uses one after the other, and the queue after them. -/
def run (ops : QueueOps Q) (queue : Q) : List QueueCall → List QueueAnswer × Q
  | [] => ([], queue)
  | call :: rest =>
    let (answer, next) := ops.perform queue call
    let (answers, last) := ops.run next rest
    (answer :: answers, last)

/-- The answers to uses one after the other. -/
def answers (ops : QueueOps Q) (queue : Q) (calls : List QueueCall) : List QueueAnswer :=
  (ops.run queue calls).1

/-- The queue after uses one after the other. -/
def after (ops : QueueOps Q) (queue : Q) (calls : List QueueCall) : Q := (ops.run queue calls).2

/-- The report on dropped errors, if there are any. -/
def closing (limit dropped : Nat) : List Diagnostic :=
  if 0 < dropped then [DiagnosticQueue.tooManyErrors limit dropped] else []

/-- What comes of adding a diagnostic to a queue that keeps it already. -/
structure Repeats (ops : QueueOps Q) (queue : Q) (diag : Diagnostic) : Prop where
  refused : (ops.add queue diag).1 = false
  /-- Exactly an error at the limit is noticed later. -/
  unnoticed : (∀ calls, ops.answers (ops.add queue diag).2 calls = ops.answers queue calls) ↔
    ¬ (diag.isError = true ∧ (ops.view queue).limitReached = true)
  /-- Nobody notices before the queue is flushed. -/
  quiet : ∀ calls, .flush ∉ calls →
    ops.answers (ops.add queue diag).2 calls = ops.answers queue calls
  /-- Flushing then tells of one more error that was dropped. -/
  counted : diag.isError = true → (ops.view queue).limitReached = true →
    ∀ calls, .flush ∉ calls → ∃ limit listed dropped,
      (ops.flush (ops.after queue calls)).1 = listed ++ closing limit dropped ∧
      (ops.flush (ops.after (ops.add queue diag).2 calls)).1 =
        listed ++ closing limit (dropped + 1)
  /-- Nobody notices after it. -/
  fresh : ∀ calls, .flush ∉ calls →
    (ops.flush (ops.after (ops.add queue diag).2 calls)).2 = (ops.flush (ops.after queue calls)).2

/-- Counting one more dropped error changes nothing but the report on them. -/
structure Counts (ops : QueueOps Q) (more : Q → Q) : Prop where
  add : ∀ queue diag,
    ops.add (more queue) diag = ((ops.add queue diag).1, more (ops.add queue diag).2)
  view : ∀ queue, ops.view (more queue) = ops.view queue
  flush : ∀ queue, ∃ limit listed dropped,
    ops.flush queue = (listed ++ closing limit dropped, (ops.flush queue).2) ∧
    ops.flush (more queue) = (listed ++ closing limit (dropped + 1), (ops.flush queue).2)

theorem closing_ne (limit dropped : Nat) : closing limit (dropped + 1) ≠ closing limit dropped := by
  unfold closing
  rw [if_pos (Nat.succ_pos dropped)]
  split
  · intro same
    have notes := congrArg Diagnostic.notes (List.cons.inj same).1
    have texts := (String.append_left_inj _).1 (List.cons.inj notes).1
    exact Nat.succ_ne_self dropped (Nat.repr_inj.1 texts)
  · exact List.cons_ne_nil _ _

variable {more : Q → Q}

theorem Counts.perform (counts : ops.Counts more) (queue : Q) {call : QueueCall}
    (calm : call ≠ .flush) :
    ops.perform (more queue) call =
      ((ops.perform queue call).1, more (ops.perform queue call).2) := by
  cases call with
  | add diag =>
    rw [QueueOps.perform, counts.add]
    rfl
  | flush => exact absurd rfl calm
  | look =>
    rw [QueueOps.perform, counts.view]
    rfl

theorem Counts.run (counts : ops.Counts more) (queue : Q) {calls : List QueueCall}
    (calm : .flush ∉ calls) :
    ops.run (more queue) calls = (ops.answers queue calls, more (ops.after queue calls)) := by
  induction calls generalizing queue with
  | nil => rfl
  | cons call rest ih =>
    rw [List.mem_cons, not_or] at calm
    simp only [QueueOps.run, counts.perform queue (Ne.symm calm.1), ih _ calm.2]
    rfl

/-- If a diagnostic is refused, and counted as dropped exactly where it is an error and the limit
is reached, no more is noticed than that count. -/
theorem Counts.repeats (counts : ops.Counts more) {diag : Diagnostic}
    (added : ops.add queue diag =
      (false, if diag.isError && (ops.view queue).limitReached then more queue else queue)) :
    ops.Repeats queue diag := by
  by_cases late : diag.isError = true ∧ (ops.view queue).limitReached = true
  · have next : (ops.add queue diag).2 = more queue := by
      rw [added, if_pos (Bool.and_eq_true_iff.2 late)]
    refine ⟨by rw [added], ?_, fun calls calm => ?_, fun _ _ calls calm => ?_, fun calls calm => ?_⟩
    · refine iff_of_false (fun same => ?_) (not_not.2 late)
      obtain ⟨limit, listed, dropped, before, behind⟩ := counts.flush queue
      have lists : (ops.flush (more queue)).1 = (ops.flush queue).1 :=
        QueueAnswer.flushed.inj (List.cons.inj (next ▸ same [.flush])).1
      rw [before, behind] at lists
      exact closing_ne limit dropped (List.append_cancel_left lists)
    · rw [next, answers, counts.run queue calm]
    · obtain ⟨limit, listed, dropped, before, behind⟩ := counts.flush (ops.after queue calls)
      refine ⟨limit, listed, dropped, congrArg Prod.fst before, ?_⟩
      rw [next, QueueOps.after, counts.run queue calm, behind]
    · obtain ⟨limit, listed, dropped, -, behind⟩ := counts.flush (ops.after queue calls)
      rw [next, QueueOps.after, counts.run queue calm, behind]
  · have next : (ops.add queue diag).2 = queue := by
      rw [added, if_neg fun both => late (Bool.and_eq_true_iff.1 both)]
    exact ⟨by rw [added], iff_of_true (fun calls => by rw [next]) late, fun calls _ => by rw [next],
      fun isError full => absurd ⟨isError, full⟩ late, fun calls _ => by rw [next]⟩

end QueueOps

/-! ### The two queues -/

namespace DiagnosticQueue

/-- What a queue that compares diagnostics does. -/
def ops : QueueOps DiagnosticQueue where
  add := add
  flush := flush
  view queue := ⟨queue.kept, queue.size, queue.errorCount, queue.limitReached, queue.hasErrors⟩

theorem counts_dropped : ops.Counts fun queue => { queue with dropped := queue.dropped + 1 } where
  add queue diag := by
    have full : ({ queue with dropped := queue.dropped + 1 } : DiagnosticQueue).limitReached =
      queue.limitReached := rfl
    simp only [ops, add, full]
    split
    · rfl
    · split <;> rfl
  view queue := rfl
  flush queue := ⟨queue.config.errorLimit, listed queue.kept, queue.dropped, rfl, rfl⟩

/-- What is kept already is refused. -/
theorem add_of_mem {queue : DiagnosticQueue} {diag : Diagnostic}
    (deduplicates : queue.config.deduplicate = true) (kept : diag ∈ queue.kept) :
    queue.add diag = (false, if diag.isError && queue.limitReached then
      { queue with dropped := queue.dropped + 1 } else queue) := by
  have known : (queue.config.deduplicate && queue.kept.contains diag) = true := by
    simpa [deduplicates] using kept
  unfold add
  rw [if_pos known]
  split <;> rfl

theorem config_after (queue : DiagnosticQueue) (calls : List QueueCall) :
    (ops.after queue calls).config = queue.config := by
  induction calls generalizing queue with
  | nil => rfl
  | cons call rest ih =>
    refine (ih _).trans ?_
    cases call with
    | add diag => exact config_push queue diag
    | flush => rfl
    | look => rfl

end DiagnosticQueue

namespace DigestQueue

variable {digest : Diagnostic → UInt64} {queue : DigestQueue} {diag : Diagnostic}

/-- What a queue that knows diagnostics by their digests does. -/
def ops (digest : Diagnostic → UInt64) : QueueOps DigestQueue where
  add := add digest
  flush := flush
  view queue := ⟨queue.kept, queue.size, queue.errorCount, queue.limitReached, queue.hasErrors⟩

theorem counts_dropped (digest : Diagnostic → UInt64) :
    (ops digest).Counts fun queue => { queue with dropped := queue.dropped + 1 } where
  add queue diag := by
    have full : ({ queue with dropped := queue.dropped + 1 } : DigestQueue).limitReached =
      queue.limitReached := rfl
    simp only [ops, add, full]
    split
    · rfl
    · split <;> rfl
  view queue := rfl
  flush queue :=
    ⟨queue.config.errorLimit, DiagnosticQueue.listed queue.kept, queue.dropped, rfl, rfl⟩

/-- What is kept already is refused, whatever else has its digest. -/
theorem Sound.add_of_mem (sound : queue.Sound digest)
    (deduplicates : queue.config.deduplicate = true) (kept : diag ∈ queue.kept) :
    queue.add digest diag = (false, if diag.isError && queue.limitReached then
      { queue with dropped := queue.dropped + 1 } else queue) := by
  have known : (queue.config.deduplicate && queue.seen.contains (digest diag)) = true := by
    rw [deduplicates, Bool.true_and, Std.HashSet.contains_iff_mem, sound.seen deduplicates]
    exact ⟨diag, kept, rfl⟩
  unfold DigestQueue.add
  rw [if_pos known]
  split <;> rfl

theorem Sound.after (sound : queue.Sound digest) (calls : List QueueCall) :
    ((ops digest).after queue calls).Sound digest ∧
      ((ops digest).after queue calls).config = queue.config := by
  induction calls generalizing queue with
  | nil => exact ⟨sound, rfl⟩
  | cons call rest ih =>
    cases call with
    | add diag =>
      obtain ⟨sound', config⟩ := ih (sound.add diag)
      exact ⟨sound', config.trans (config_add digest queue diag)⟩
    | flush => exact ih (sound_new digest queue.config)
    | look => exact ih sound

end DigestQueue

/-- A diagnostic that is kept already is refused in every state that a queue without duplicates
comes to, whatever the digests. Exactly if it is no error or the limit is not reached, nothing that
the queue is asked later tells that it was reported again. Otherwise the list that the queue gives
next tells of one more error that was not reported, and that is all: neither an answer before that
list nor one after it is another. -/
theorem QueueOps.repeated_report (digest : Diagnostic → UInt64) (config : QueueConfig)
    (deduplicates : config.deduplicate = true) (calls : List QueueCall) (diag : Diagnostic) :
    (diag ∈ ((DigestQueue.ops digest).after { config } calls).kept →
      (DigestQueue.ops digest).Repeats ((DigestQueue.ops digest).after { config } calls) diag) ∧
    (diag ∈ (DiagnosticQueue.ops.after { config } calls).kept →
      DiagnosticQueue.ops.Repeats (DiagnosticQueue.ops.after { config } calls) diag) := by
  constructor
  · intro kept
    obtain ⟨sound, same⟩ := (DigestQueue.sound_new digest config).after calls
    exact (DigestQueue.counts_dropped digest).repeats
      (sound.add_of_mem (by rw [same]; exact deduplicates) kept)
  · intro kept
    have same := DiagnosticQueue.config_after { config } calls
    exact DiagnosticQueue.counts_dropped.repeats
      (DiagnosticQueue.add_of_mem (by rw [same]; exact deduplicates) kept)

/-- An error that is reported again at a limit of one. It is the one that is listed, and yet the
list says that it was not reported. -/
theorem QueueOps.repeated_report_at_limit :
    let digest : Diagnostic → UInt64 := fun diag => diag.message.length.toUInt64
    let config : QueueConfig := { errorLimit := 1 }
    let first := Diagnostic.error .memberNotFound "first"
    let queue := (DigestQueue.ops digest).after { config } [.add first]
    let plain := DiagnosticQueue.ops.after { config } [.add first]
    config.deduplicate = true ∧ first ∈ queue.kept ∧ first ∈ plain.kept ∧
      (queue.add digest first).1 = false ∧ (plain.add first).1 = false ∧
      (¬ ∀ calls, (DigestQueue.ops digest).answers (queue.add digest first).2 calls =
        (DigestQueue.ops digest).answers queue calls) ∧
      (¬ ∀ calls, DiagnosticQueue.ops.answers (plain.add first).2 calls =
        DiagnosticQueue.ops.answers plain calls) ∧
      plain.flush.1 = [first] ∧ (plain.add first).2.flush.1 = [first,
        { code := .tooManyErrors, message := "aborting after 1 errors",
          notes := ["1 further errors were not reported"] }] := by
  intro digest config first queue plain
  have distinct : DigestQueue.Distinguishes digest [first] := by decide +kernel
  have same : queue.plain = plain := DigestQueue.extend_plain config distinct
  have sound := ((DigestQueue.sound_new digest config).after [.add first]).1
  have listed : first ∈ plain.kept := List.mem_singleton.2 rfl
  have kept : first ∈ queue.kept := (congrArg (first ∈ ·.kept) same).mpr listed
  have full : first.isError = true ∧ plain.limitReached = true := by decide +kernel
  have full' : first.isError = true ∧ queue.limitReached = true :=
    ⟨full.1, sound.limitReached_plain.symm.trans ((congrArg _ same).trans full.2)⟩
  obtain ⟨stored, compared⟩ := repeated_report digest config rfl [.add first] first
  exact ⟨rfl, kept, listed, (stored kept).refused, (compared listed).refused,
    fun equal => (stored kept).unnoticed.1 equal full',
    fun equal => (compared listed).unnoticed.1 equal full, by decide +kernel, by decide +kernel⟩

end FrontEnd
