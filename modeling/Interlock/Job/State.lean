namespace Interlock

/-- The states of the cutting process. -/
inductive ProcessState where
  /-- The module is switched off. -/
  | off
  | menu
  | prep
  | dryRun
  | ready
  | running
  | watching
  | paused
  | resuming
  | ending
  | idleTooLong
  | waitFill
  | dumping
  | filtersBlocked
  | levelTooHigh
  | gantryStalled
  | endstopTriggered
  /-- Entered on a number that names no other state. -/
  | invalid
  deriving DecidableEq, Inhabited

namespace ProcessState

/-- The number by which the operator menu requests a state. -/
def raw : ProcessState → Nat
  | off => 0
  | menu => 1
  | prep => 2
  | dryRun => 3
  | ready => 4
  | running => 5
  | watching => 6
  | paused => 7
  | resuming => 8
  | ending => 9
  | idleTooLong => 10
  | waitFill => 11
  | dumping => 12
  | filtersBlocked => 13
  | levelTooHigh => 14
  | gantryStalled => 15
  | endstopTriggered => 16
  | invalid => 17

/-- The state of a number; every number that names none is `invalid`. -/
def ofRaw : Nat → ProcessState
  | 0 => off
  | 1 => menu
  | 2 => prep
  | 3 => dryRun
  | 4 => ready
  | 5 => running
  | 6 => watching
  | 7 => paused
  | 8 => resuming
  | 9 => ending
  | 10 => idleTooLong
  | 11 => waitFill
  | 12 => dumping
  | 13 => filtersBlocked
  | 14 => levelTooHigh
  | 15 => gantryStalled
  | 16 => endstopTriggered
  | _ => invalid

/-- The name in status reports and events. -/
def name : ProcessState → String
  | off => "NONE"
  | menu => "MENU"
  | prep => "PREP"
  | dryRun => "DRY_RUN"
  | ready => "READY"
  | running => "RUNNING"
  | watching => "WATCHING"
  | paused => "PAUSED"
  | resuming => "RESUMING"
  | ending => "ENDING"
  | idleTooLong => "IDLE_TOO_LONG"
  | waitFill => "WAIT_FILL"
  | dumping => "DUMPING"
  | filtersBlocked => "FILTERS_BLOCKED"
  | levelTooHigh => "LEVEL_TOO_HIGH"
  | gantryStalled => "GANTRY_STALLED"
  | endstopTriggered => "ENDSTOP_TRIGGERED"
  | invalid => "INVALID"

/-- The name in the log of transitions. -/
def title : ProcessState → String
  | off => "None"
  | menu => "Menu"
  | prep => "Prep"
  | dryRun => "DryRun"
  | ready => "Ready"
  | running => "Running"
  | watching => "Watching"
  | paused => "Paused"
  | resuming => "Resuming"
  | ending => "Ending"
  | idleTooLong => "IdleTooLong"
  | waitFill => "WaitFill"
  | dumping => "Dumping"
  | filtersBlocked => "FiltersBlocked"
  | levelTooHigh => "LevelTooHigh"
  | gantryStalled => "GantryStalled"
  | endstopTriggered => "EndstopTriggered"
  | invalid => "Invalid"

/-- Whether a job has started and not yet ended; faults are part of the job. -/
def inJob : ProcessState → Bool
  | off | menu | prep | dryRun | ready | ending | invalid => false
  | _ => true

/-- Whether level faults are reported to the operator. -/
def escalates : ProcessState → Bool
  | watching | dumping | idleTooLong | waitFill | filtersBlocked | levelTooHigh => true
  | _ => false

/-- Whether the catch tank holds water, so that its level is evaluated. -/
def tankInUse : ProcessState → Bool
  | prep | running | watching | paused | resuming | dumping | idleTooLong | waitFill
  | filtersBlocked | levelTooHigh | gantryStalled => true
  | _ => false

end ProcessState

end Interlock
