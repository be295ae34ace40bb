import FrontEnd.Source.File

/-!
Locations: spans of tokens that are known to start at a token of a lexed file. They give the line
and column of their start, the text of their tokens, and the line on which they start.
-/

namespace FrontEnd

/-- A line and a column, both from 1. Columns count characters. -/
structure LineCol where
  line : Nat
  col : Nat
  deriving DecidableEq

/-- The largest line and column: what lies further on has this one too. -/
def LineCol.last : Nat := UInt32.size - 1

/-- Line and column with a colon between them. -/
def LineCol.describe (place : LineCol) : String := s!"{place.line}:{place.col}"

/-- A span of the tokens of a file. -/
structure SourceLocation where
  file : SourceFile
  tokens : LexedText
  span : TokenSpan

namespace SourceLocation

/-- The location of a span that starts at a token of the file. An empty span may also start at the
end mark. -/
def ofSpan (file : SourceFile) (span : TokenSpan) : Except SourceError SourceLocation := do
  let tokens ← file.requireTokens
  let stop := tokens.stream.endOffset
  let inside := if span.isEmpty then span.start ≤ stop else span.start < stop
  if inside then
    file.requireTokenStart tokens span.start
    return ⟨file, tokens, span⟩
  else
    throw (.outside file.id span.start)

/-- The tokens of the line on which the span starts, and of all that follow. -/
def fromLine (place : SourceLocation) : Except ReadError (List (Nat × Token)) :=
  place.tokens.tokensFrom (place.tokens.lineStart place.span.start)

/-- Where the span starts. -/
def lineCol (place : SourceLocation) (names : Interner) : Except ReadError LineCol :=
  place.fromLine.map fun tokens =>
    let before := tokens.takeWhile fun entry => entry.1 < place.span.start
    let widths := before.map fun entry => (entry.2.text names).length
    { line := min (place.tokens.lineIndex place.span.start + 1) LineCol.last
      col := widths.foldl (fun col width => min (col + width) LineCol.last) 1 }

/-- The source text of the span. -/
def text (place : SourceLocation) (names : Interner) : Except ReadError String :=
  place.tokens.stream.spanText names place.span

/-- The line on which the span starts, without its newline. -/
def lineText (place : SourceLocation) (names : Interner) : Except ReadError String :=
  place.fromLine.map fun tokens =>
    TokenStream.textOf names (tokens.takeWhile fun entry => entry.2.kind ≠ .newline)

/-- A location as dumps show it. -/
def dump (place : SourceLocation) : String := place.file.path ++ place.span.dump

end SourceLocation

end FrontEnd
