/-!
# Spans

A span is a half-open range of byte offsets.
-/
namespace Graft

/-- The bytes from `start` up to, not including, `stop`. -/
structure Span where
  start : Nat
  stop : Nat
  deriving DecidableEq, Repr

namespace Span

def length (s : Span) : Nat := s.stop - s.start

def isEmpty (s : Span) : Bool := s.start == s.stop

/-- Every byte of `inner` is one of `outer`. -/
def contains (outer inner : Span) : Bool :=
  outer.start ≤ inner.start && inner.stop ≤ outer.stop

end Span
end Graft
