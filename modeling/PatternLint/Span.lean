/-!
# Spans

A span is a half-open range of byte offsets into the text of a pattern. Every
node and every token carries one, so that reports can point back at the text.
-/

namespace PatternLint

/-- The bytes from `start` up to, but not including, `stop`. -/
structure Span where
  start : Nat
  stop : Nat
deriving DecidableEq, Repr, Inhabited

namespace Span

/-- The empty span at one offset. -/
def point (offset : Nat) : Span := ⟨offset, offset⟩

/-- The number of bytes covered. -/
def length (s : Span) : Nat := s.stop - s.start

/-- Whether the span covers no bytes. -/
def isEmpty (s : Span) : Bool := s.start == s.stop

/-- Whether `t` lies within `s`; a span lies within itself. -/
def contains (s t : Span) : Bool := decide (s.start ≤ t.start) && decide (t.stop ≤ s.stop)

/-- The smallest span that has both `s` and `t` within it. -/
def cover (s t : Span) : Span := ⟨min s.start t.start, max s.stop t.stop⟩

/-- Spans are listed by where they start and, for one start, by where they stop. -/
def before (s t : Span) : Bool :=
  decide (s.start < t.start) || (s.start == t.start && decide (s.stop ≤ t.stop))

end Span

end PatternLint
