import Interlock.Level.Fault

namespace Interlock

/-- The float readings of a tank; `true` means wet. -/
structure Floats where
  middle : Bool := false
  high : Bool := false
  deriving DecidableEq, Inhabited

/-- The time limits of a tank, in seconds. -/
structure LevelLimits where
  /-- Longest filling before low water is reported. -/
  fillCycle : Nat
  /-- Longest draining before the filters count as blocked. -/
  filterCleaning : Nat
  /-- Longest filling before the tank is given up. -/
  tooLow : Nat
  deriving DecidableEq, Inhabited

/-- What the water of a tank is doing. -/
inductive LevelPhase where
  /-- Not evaluated. -/
  | idle
  | filling
  | dumping
  /-- Filling has gone on for so long that the tank is given up. -/
  | tooLow
  deriving DecidableEq, Inhabited

/-- The name in status reports. -/
def LevelPhase.name : LevelPhase → String
  | idle => "IDLE"
  | filling => "FILLING"
  | dumping => "DUMPING"
  | tooLow => "TOO_LOW"

/-- What one evaluation of a tank found: its phase, its faults, and the outputs
    it asks for; `none` leaves an output as it is. -/
structure Verdict where
  phase : LevelPhase := .idle
  faults : FaultSet := {}
  dumpValve : Option Bool := none
  lowPressurePump : Option Bool := none
  deriving DecidableEq, Inhabited

/-- The fault whose menu belongs on the panel. -/
def Verdict.primaryFault (v : Verdict) : Option LevelFault :=
  v.faults.mostSevere

end Interlock
