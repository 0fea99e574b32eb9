import Interlock.Level.Verdict
import Interlock.Pin.Access
import Interlock.Settings.Basic

namespace Interlock

open Interlock.Text

/-- A key that a water module cannot do without, and whether its value can be
    used. -/
structure Requirement where
  key : String
  met : Bool
  deriving DecidableEq, Inhabited

namespace Requirement

/-- A pin has to be named and to be on the board. -/
def pin {ι : Type} [PinAccess ι] (pins : ι) (key name : String) : Requirement :=
  ⟨key, namesPin name && PinAccess.isConnected pins name⟩

/-- A menu has to be named. -/
def menu (key path : String) : Requirement :=
  ⟨key, trim path ≠ ""⟩

/-- The keys that are not met, in order. -/
def missing (requirements : List Requirement) : List String :=
  (requirements.filter fun r => !r.met).map (·.key)

/-- Every missing key is reported. -/
def records (owner : String) (requirements : List Requirement) : List LogRecord :=
  (missing requirements).map fun key =>
    ⟨.error, "*ERROR* " ++ (SetupFailure.missing owner key).message⟩

/-- The first missing key stands for all of them. -/
def failure? (owner : String) (requirements : List Requirement) : Option SetupFailure :=
  (missing requirements).head?.map (.missing owner)

end Requirement

/-- The limits of a tank as a water module announces them. -/
def LevelLimits.record (owner : String) (limits : LevelLimits) : LogRecord :=
  let cleaning := s!"filter cleaning {limits.filterCleaning}s"
  ⟨.info, s!"{owner}: fill {limits.fillCycle}s, {cleaning}, too low {limits.tooLow}s"⟩

end Interlock
