/-!
# Spans

A span is a part of a text, given by the offsets of its start and its stop in bytes.

- `Span`: the pair. It may come from outside, so nothing keeps its start in front of its stop.
- `Span.size`, `Span.isEmpty`, `Span.display`.
-/

namespace ScanRules

/-- The bytes of a text from `start` on and before `stop`. -/
structure Span where
  start : Nat
  stop : Nat
  deriving DecidableEq, Repr

namespace Span

/-- The number of bytes. -/
def size (s : Span) : Nat := s.stop - s.start

/-- Does the span hold no bytes? -/
def isEmpty (s : Span) : Bool := s.stop ≤ s.start

/-- The span as text: its ends with two dots between them. -/
def display (s : Span) : String := s!"{s.start}..{s.stop}"

end Span

end ScanRules
