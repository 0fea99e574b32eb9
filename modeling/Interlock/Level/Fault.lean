namespace Interlock

/-- A water-level fault of a tank. -/
inductive LevelFault where
  /-- Filling took longer than allowed. -/
  | lowWater
  /-- Draining took longer than allowed. -/
  | filtersBlocked
  /-- Filling has gone on for so long that the tank is given up. -/
  | tankIdleTooLong
  /-- The high float is wet. -/
  | levelTooHigh
  deriving DecidableEq, Inhabited

namespace LevelFault

/-- The bit that stands for the fault in a mask. -/
def mask : LevelFault → Nat
  | lowWater => 1
  | filtersBlocked => 2
  | tankIdleTooLong => 4
  | levelTooHigh => 8

/-- The text of a fault in logs and events. -/
def message : LevelFault → String
  | lowWater => "low water"
  | filtersBlocked => "filters blocked"
  | tankIdleTooLong => "water level too low for too long"
  | levelTooHigh => "water level too high"

/-- All faults, the most severe first. -/
def bySeverity : List LevelFault :=
  [levelTooHigh, tankIdleTooLong, filtersBlocked, lowWater]

end LevelFault

/-- A set of faults. A mask may carry further bits, which name no fault and are
    kept. -/
structure FaultSet where
  lowWater : Bool := false
  filtersBlocked : Bool := false
  tankIdleTooLong : Bool := false
  levelTooHigh : Bool := false
  unnamed : Nat := 0
  deriving DecidableEq, Inhabited

namespace FaultSet

/-- The set that a mask stands for. -/
def ofMask (mask : Nat) : FaultSet where
  lowWater := mask.testBit 0
  filtersBlocked := mask.testBit 1
  tankIdleTooLong := mask.testBit 2
  levelTooHigh := mask.testBit 3
  unnamed := mask / 16

/-- The mask of a set, its unnamed bits included. -/
def mask (s : FaultSet) : Nat :=
  s.lowWater.toNat + 2 * s.filtersBlocked.toNat + 4 * s.tankIdleTooLong.toNat +
    8 * s.levelTooHigh.toNat + 16 * s.unnamed

/-- Whether a fault is in the set. -/
def has (s : FaultSet) : LevelFault → Bool
  | .lowWater => s.lowWater
  | .filtersBlocked => s.filtersBlocked
  | .tankIdleTooLong => s.tankIdleTooLong
  | .levelTooHigh => s.levelTooHigh

/-- The most severe fault of the set. -/
def mostSevere (s : FaultSet) : Option LevelFault :=
  LevelFault.bySeverity.find? s.has

/-- The mask as at least four binary digits. -/
def binary (mask : Nat) : String :=
  let digits := Nat.toDigits 2 mask
  "0b" ++ String.ofList (List.replicate (4 - digits.length) '0' ++ digits)

end FaultSet

end Interlock
