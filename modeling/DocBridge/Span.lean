import DocBridge.Text.Units

/-!
# Spans of document offsets

A span is a half-open interval `[start, end)` of document offsets. Its length is the
distance from start to end, and zero when the end does not lie after the start.
-/

namespace DocBridge

/-- The largest document offset: offsets are unsigned 64-bit words. -/
def maxOffset : Nat := Nat.pow 2 64 - 1

/-- A half-open interval of document offsets. -/
structure Span where
  start : Nat
  stop : Nat
  deriving DecidableEq, Repr, Inhabited

namespace Span

/-- The offsets the span covers; zero when `stop` does not lie after `start`. -/
def len (s : Span) : Nat := s.stop - s.start

/-- A span that covers no offset. -/
def isEmpty (s : Span) : Bool := s.len == 0

theorem isEmpty_iff (s : Span) : s.isEmpty = true ↔ s.stop ≤ s.start := by
  simp [isEmpty, len]; omega

end Span

end DocBridge
