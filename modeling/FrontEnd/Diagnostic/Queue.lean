import FrontEnd.Diagnostic.Basic
import Std.Data.HashSet

/-!
The queue of diagnostics. It keeps no diagnostic twice and no more errors than its limit, and gives
what it kept in the order of the sources. What comes after the limit is counted.

A second queue knows what it has kept by digests of 64 bits, and counts the errors as it keeps them.
The two give different answers only where different diagnostics have one digest.
-/

namespace FrontEnd

/-- What a queue refuses. -/
structure QueueConfig where
  /-- The most errors that are kept; zero stands for no limit. -/
  errorLimit : Nat := 20
  /-- Whether a diagnostic that equals a kept one is refused. -/
  deduplicate : Bool := true
  deriving DecidableEq, Inhabited

/-- Nothing is refused. -/
def QueueConfig.unlimited : QueueConfig := ⟨0, false⟩

/-- The diagnostics kept so far, and the number of errors refused because of the limit. -/
structure DiagnosticQueue where
  config : QueueConfig := {}
  kept : List Diagnostic := []
  dropped : Nat := 0

/-- Evidence that an error has been reported. -/
structure ErrorEvidence where
  deriving DecidableEq

namespace ErrorEvidence

/-- Evidence from a count of errors. -/
def ofCount? (count : Nat) : Option ErrorEvidence := if count > 0 then some {} else none

/-- The wording of the evidence. -/
def message (_ : ErrorEvidence) : String := "error(s) emitted"

end ErrorEvidence

namespace DiagnosticQueue

def size (queue : DiagnosticQueue) : Nat := queue.kept.length

/-- How many errors are kept. -/
def errorCount (queue : DiagnosticQueue) : Nat := queue.kept.countP (·.isError)

/-- Whether no further error is kept. -/
def limitReached (queue : DiagnosticQueue) : Bool :=
  queue.config.errorLimit > 0 && queue.errorCount ≥ queue.config.errorLimit

/-- Evidence of an error if one was kept. -/
def evidence? (queue : DiagnosticQueue) : Option ErrorEvidence :=
  ErrorEvidence.ofCount? queue.errorCount

def hasErrors (queue : DiagnosticQueue) : Bool := queue.evidence?.isSome

/-- Keeps a diagnostic unless the limit or an equal one stands against it, and tells whether it
was kept. -/
def add (queue : DiagnosticQueue) (diag : Diagnostic) : Bool × DiagnosticQueue :=
  if diag.isError && queue.limitReached then
    (false, { queue with dropped := queue.dropped + 1 })
  else if queue.config.deduplicate && queue.kept.contains diag then (false, queue)
  else (true, { queue with kept := queue.kept ++ [diag] })

/-- Adds a diagnostic, whether it is kept or not. -/
def push (queue : DiagnosticQueue) (diag : Diagnostic) : DiagnosticQueue := (queue.add diag).2

/-- Adds diagnostics from left to right. -/
def extend (queue : DiagnosticQueue) (diags : List Diagnostic) : DiagnosticQueue :=
  diags.foldl push queue

/-- Adds an error. If it was refused, an error was kept before it. -/
def emitError (queue : DiagnosticQueue) (diag : Diagnostic) : ErrorEvidence × DiagnosticQueue :=
  ({}, queue.push diag)

/-- Where a diagnostic is listed: by its first primary label, and before all others if it has
none. -/
def place (diag : Diagnostic) : Option (Nat × Nat) :=
  diag.primaryLabel?.map fun label => (label.source.number.val, label.span.start)

/-- Whether the first place is not behind the second. -/
def placeLE : Option (Nat × Nat) → Option (Nat × Nat) → Bool
  | none, _ => true
  | some _, none => false
  | some first, some second =>
    first.1 < second.1 || (first.1 == second.1 && first.2 ≤ second.2)

/-- The report that errors were dropped. -/
def tooManyErrors (limit dropped : Nat) : Diagnostic :=
  (Diagnostic.error .tooManyErrors s!"aborting after {limit} errors").withNote
    s!"{dropped} further errors were not reported"

/-- What was kept, by place and in the order of adding within one place, and behind it the report
on dropped errors if there are any. The queue is then as new. -/
def flush (queue : DiagnosticQueue) : List Diagnostic × DiagnosticQueue :=
  let sorted := queue.kept.mergeSort fun first second => placeLE (place first) (place second)
  let closing := if queue.dropped > 0 then
    [tooManyErrors queue.config.errorLimit queue.dropped] else []
  (sorted ++ closing, { config := queue.config })

end DiagnosticQueue

/-! ### Digests -/

/-- The diagnostics kept so far with their digests, and what is counted on the way. -/
structure DigestQueue where
  config : QueueConfig := {}
  kept : List Diagnostic := []
  /-- The digests of what was kept. Nothing is put here if duplicates are kept too. -/
  seen : Std.HashSet UInt64 := {}
  /-- How many errors are kept. -/
  errorCount : Nat := 0
  /-- How many errors were refused because of the limit. -/
  dropped : Nat := 0

namespace DigestQueue

def size (queue : DigestQueue) : Nat := queue.kept.length

/-- Whether no further error is kept. -/
def limitReached (queue : DigestQueue) : Bool :=
  queue.config.errorLimit > 0 && queue.errorCount ≥ queue.config.errorLimit

/-- Evidence of an error if one was kept. -/
def evidence? (queue : DigestQueue) : Option ErrorEvidence :=
  ErrorEvidence.ofCount? queue.errorCount

def hasErrors (queue : DigestQueue) : Bool := queue.evidence?.isSome

/-- The queue with a diagnostic and its digest behind all others. -/
def keep (digest : Diagnostic → UInt64) (queue : DigestQueue) (diag : Diagnostic) : DigestQueue :=
  { queue with
    kept := queue.kept ++ [diag]
    seen := if queue.config.deduplicate then queue.seen.insert (digest diag) else queue.seen
    errorCount := queue.errorCount + if diag.isError then 1 else 0 }

/-- Keeps a diagnostic unless the limit or a digest that was seen stands against it, and tells
whether it was kept. -/
def add (digest : Diagnostic → UInt64) (queue : DigestQueue) (diag : Diagnostic) :
    Bool × DigestQueue :=
  if diag.isError && queue.limitReached then
    (false, { queue with dropped := queue.dropped + 1 })
  else if queue.config.deduplicate && queue.seen.contains (digest diag) then (false, queue)
  else (true, queue.keep digest diag)

/-- Adds diagnostics from left to right. -/
def extend (digest : Diagnostic → UInt64) (queue : DigestQueue) (diags : List Diagnostic) :
    DigestQueue :=
  diags.foldl (fun queue diag => (queue.add digest diag).2) queue

/-- What was kept, by place and in the order of adding within one place, and behind it the report
on dropped errors if there are any. The queue is then as new. -/
def flush (queue : DigestQueue) : List Diagnostic × DigestQueue :=
  let sorted := queue.kept.mergeSort fun first second =>
    DiagnosticQueue.placeLE (DiagnosticQueue.place first) (DiagnosticQueue.place second)
  let closing := if queue.dropped > 0 then
    [DiagnosticQueue.tooManyErrors queue.config.errorLimit queue.dropped] else []
  (sorted ++ closing, { config := queue.config })

/-- The queue without its digests and its count of errors. -/
def plain (queue : DigestQueue) : DiagnosticQueue := ⟨queue.config, queue.kept, queue.dropped⟩

end DigestQueue

end FrontEnd
