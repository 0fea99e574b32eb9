import Interlock.Number.Word

namespace Interlock

/-- A counter of seconds. It is started and stopped by requests, which take
    effect at the next tick, so that a start and a stop of the same second
    resolve the same way whichever came first. -/
structure Counter where
  /-- Seconds counted since the last start. -/
  elapsed : Nat := 0
  running : Bool := false
  startRequested : Bool := false
  stopRequested : Bool := false
  deriving DecidableEq, Inhabited

namespace Counter

/-- A counter stays at its greatest value once it is there. -/
def greatest : Nat := Number.Word.greatest32

/-- Asks for a restart from zero. -/
def requestStart (c : Counter) : Counter :=
  { c with startRequested := true }

/-- Asks for a stop, which keeps the count. -/
def requestStop (c : Counter) : Counter :=
  { c with stopRequested := true }

/-- Asks for a start unless the counter runs; a running counter keeps its count. -/
def ensureRunning (c : Counter) : Counter :=
  if c.running then c else c.requestStart

/-- Applies the requests. A start wins over every stop, and the start of a rival
    stops. -/
def settle (rivalStarts : Bool) (c : Counter) : Counter :=
  if c.startRequested then { running := true }
  else if c.stopRequested || rivalStarts then { elapsed := c.elapsed }
  else c

/-- Counts one second if the counter runs and is not held. -/
def count (held : Bool) (c : Counter) : Counter :=
  if c.running && !held then { c with elapsed := min (c.elapsed + 1) greatest } else c

/-- One second: requests first, then the count. -/
def tick (held rivalStarts : Bool) (c : Counter) : Counter :=
  (c.settle rivalStarts).count held

end Counter

end Interlock
