import FrontEnd.Item.Locator
import FrontEnd.Item.Operator
import FrontEnd.Outline.Basic
import FrontEnd.Token.Stream

/-!
Outlines of names, tokens, streams, spans and locators.
-/

namespace FrontEnd

/-- The parts of a name as numbers. -/
def Name.parts (name : Name) : Outline :=
  .list [name.shard.val, name.slot.val, name.raw.toNat]

def Name.outline (name : Name) : Outline :=
  .record [("shard", name.shard.val), ("local", name.slot.val), ("raw", name.raw.toNat),
    ("debug", name.dump), ("is_empty", name == .empty),
    ("rebuilt", (Name.mk name.shard name.slot).raw.toNat)]

def TokenKind.outline (kind : TokenKind) : Outline :=
  let op (found : Option Operator) : Outline := .opt (fun op => op.label) found
  .record [("name", kind.label), ("debug", kind.label), ("display", kind.describe),
    ("builtin", .opt .text kind.fixedText?), ("has_builtin", kind.fixedText?.isSome),
    ("payload", kind.payload.label), ("size", kind.size), ("keyword", kind.isKeyword),
    ("trivia", kind.isTrivia), ("literal", kind.isLiteral), ("binary", op (Operator.binary? kind)),
    ("prefix", op (Operator.leading? kind)), ("simple", (Token.plain? kind).isSome),
    ("interned", (Token.named? kind .empty).isSome)]

def Token.outline (names : Interner) (token : Token) : Outline :=
  .record [("kind", token.kind.label), ("size", token.size),
    ("count", .opt (fun count => count.toNat) token.count?),
    ("name", .opt (fun name => name.raw.toNat) token.name?), ("sentinel", token.isEnd),
    ("text", token.text names), ("debug", token.dump)]

def TokenStream.outline (stream : TokenStream) : Outline :=
  .record [("bytes", .each (fun byte => byte.toNat) stream.bytes.toList),
    ("byte_len", stream.bytes.size), ("len", stream.size), ("is_empty", stream.isEmpty),
    ("end", stream.endOffset), ("debug", stream.dump)]

def TokenBuffer.outline (buffer : TokenBuffer) : Outline :=
  .record [("offset", buffer.offset), ("len", buffer.size), ("is_empty", buffer.size == 0)]

/-- The start and the count of a span. -/
def TokenSpan.parts (span : TokenSpan) : Outline := .list [span.start, span.count]

def TokenSpan.outline (span : TokenSpan) : Outline :=
  .record [("span", span.parts), ("is_empty", span.isEmpty), ("debug", span.dump)]

def ItemLocator.outline (locator : ItemLocator) : Outline :=
  .record [("raw", .wide locator.raw.toNat), ("kind", locator.kind.label),
    ("source", locator.source.number.val), ("offset", locator.offset.val),
    ("debug", locator.dump)]

end FrontEnd
