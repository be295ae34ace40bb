import FrontEnd.Fault

/-!
Spans name a run of tokens of one source without holding any text: the byte offset at which the
first token starts, and the number of tokens.
-/

namespace FrontEnd

/-- The tokens from `start`, a byte offset into a token stream, on; `count` of them. -/
structure TokenSpan where
  start : Nat
  count : Nat
  deriving DecidableEq, Hashable, Inhabited

/-- A start that does not fit in forty bits. -/
structure SpanError where
  start : Nat
  deriving DecidableEq

instance : Fault SpanError where
  label _ := "SpanError"
  message err := s!"token offset {err.start} exceeds the 40-bit offset range"

namespace TokenSpan

/-- The largest start that fits in forty bits. -/
def maxStart : Nat := 1099511627775

/-- The empty span at the start of a source, which stands in where no tokens are meant. -/
def nowhere : TokenSpan := ⟨0, 0⟩

/-- The span with a given start, if the start fits in forty bits. -/
def ofStart (start count : Nat) : Except SpanError TokenSpan :=
  if start ≤ maxStart then .ok ⟨start, count⟩ else .error ⟨start⟩

/-- The one token at an offset. -/
def point (start : Nat) : TokenSpan := ⟨start, 1⟩

def isEmpty (span : TokenSpan) : Bool := span.count == 0

/-- The span from the start of the first that covers the second as well, when `between` tokens
lie between the two starts. Counts are kept in 32 bits. -/
def extend (span : TokenSpan) (between : Nat) (other : TokenSpan) : TokenSpan :=
  ⟨span.start, max ((between + other.count) % UInt32.size) span.count⟩

/-- Spans are ordered by start, then by count. -/
instance : Ord TokenSpan where
  compare first second := (compare first.start second.start).then (compare first.count second.count)

/-- A span as dumps show it. -/
def dump (span : TokenSpan) : String := s!"@{span.start}+{span.count}"

end TokenSpan

end FrontEnd
