namespace Interlock

/-- Machine commands on their way out: those that were sent and not taken yet,
    in the order of sending. -/
structure CommandQueue where
  pending : List String := []
  deriving DecidableEq, Inhabited

namespace CommandQueue

/-- Adds commands behind those that wait. -/
def send (q : CommandQueue) (commands : List String) : CommandQueue :=
  ⟨q.pending ++ commands⟩

/-- Takes all commands. -/
def drain (q : CommandQueue) : CommandQueue × List String :=
  ({}, q.pending)

end CommandQueue

end Interlock
