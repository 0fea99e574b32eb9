namespace Interlock

/-- Deadlines at a fixed distance: one in every period. -/
structure Schedule where
  period : Nat
  /-- The next deadline. -/
  next : Nat
  deriving DecidableEq, Inhabited

namespace Schedule

/-- A schedule that first fires one period after the start. -/
def every (period start : Nat) : Schedule :=
  ⟨period, start + period⟩

/-- Passes one deadline after the other until the next one is still to come, and
    counts them in a 32-bit word. A schedule without a period passes none. -/
def passFrom (s : Schedule) (now : Nat) (fired : UInt32) : Schedule × UInt32 :=
  if s.period = 0 ∨ now < s.next then (s, fired)
  else passFrom { s with next := s.next + s.period } now (fired + 1)
termination_by now + 1 - s.next

/-- Passes all deadlines up to a moment and gives their number. -/
def advance (s : Schedule) (now : Nat) : Schedule × UInt32 :=
  s.passFrom now 0

/-- The time left until the next deadline. -/
def remaining (s : Schedule) (now : Nat) : Nat :=
  s.next - now

end Schedule

end Interlock
