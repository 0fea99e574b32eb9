import Interlock.Counter.Basic
import Interlock.Level.Verdict
import Interlock.Log

namespace Interlock

/-- The level guard of one tank. Once a second it takes the float readings.
    While the middle float is dry it times the filling, while it is wet it times
    the draining, and each starting stops the other. Faults hold exactly as long
    as their condition does. -/
structure LevelGuard where
  limits : LevelLimits
  fill : Counter := {}
  dump : Counter := {}
  faults : FaultSet := {}
  deriving DecidableEq, Inhabited

namespace LevelGuard

/-- The faults in the order in which an evaluation looks at them. -/
def faultOrder : List LevelFault :=
  [.tankIdleTooLong, .lowWater, .filtersBlocked, .levelTooHigh]

/-- Reports the faults that appeared and those that went. -/
def faultRecords (before after : FaultSet) : List LogRecord :=
  faultOrder.filterMap fun fault =>
    if after.has fault && !before.has fault then
      some ⟨.error, s!"LEVEL FAULT SET: {fault.message}"⟩
    else if before.has fault && !after.has fault then
      some ⟨.info, s!"LEVEL FAULT CLEARED: {fault.message}"⟩
    else none

/-- Whether filling has gone on beyond the last limit. -/
def isTooLow (g : LevelGuard) : Bool :=
  g.limits.tooLow < g.fill.elapsed

/-- The phase that the readings put the tank into. -/
def phase (g : LevelGuard) (floats : Floats) : LevelPhase :=
  if g.isTooLow then .tooLow else if floats.middle then .dumping else .filling

/-- Requests the counter of a phase. -/
def request (g : LevelGuard) : LevelPhase → LevelGuard
  | .filling => { g with fill := g.fill.ensureRunning }
  | .dumping => { g with dump := g.dump.ensureRunning }
  | _ => g

/-- One second of both counters, which exclude each other. -/
def tick (g : LevelGuard) : LevelGuard :=
  { g with
    fill := g.fill.tick false g.dump.startRequested
    dump := g.dump.tick false g.fill.startRequested }

/-- The faults of a phase after the counters have ticked. -/
def faultsOf (g : LevelGuard) (phase : LevelPhase) (floats : Floats) : FaultSet where
  lowWater := phase == .filling && g.limits.fillCycle < g.fill.elapsed
  filtersBlocked := phase == .dumping && g.limits.filterCleaning < g.dump.elapsed
  tankIdleTooLong := phase == .tooLow
  levelTooHigh := floats.high

/-- The guard after one second with the given readings. -/
def advance (g : LevelGuard) (floats : Floats) : LevelGuard :=
  let phase := g.phase floats
  let g := (g.request phase).tick
  { g with faults := g.faultsOf phase floats }

/-- One second: the guard after it, and what it found. A wet high float opens
    the dump valve whatever the phase is. -/
def evaluate (g : LevelGuard) (floats : Floats) : LevelGuard × Verdict :=
  let phase := g.phase floats
  let after := g.advance floats
  (after,
    { phase
      faults := after.faults
      dumpValve := some (floats.high || phase == .dumping)
      lowPressurePump := if phase == .tooLow then some false else none })

/-- What an evaluation writes to the log. -/
def evaluateRecords (g : LevelGuard) (floats : Floats) : List LogRecord :=
  faultRecords g.faults (g.advance floats).faults

/-- Forgets the times of filling and draining. -/
def resetTimers (g : LevelGuard) : LevelGuard :=
  { g with fill := {}, dump := {} }

end LevelGuard

end Interlock
