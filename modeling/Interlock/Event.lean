import Interlock.Log
import Interlock.Level.Fault
import Interlock.Job.State

namespace Interlock

/-- An event that the modules report to the outside. -/
inductive Event where
  | armed (timer : String)
  /-- A timer was disarmed, by a command or by firing. -/
  | disarmed (timer : String)
  /-- A timer reached its threshold and drove its switches. -/
  | triggered (timer : String)
  | faultRaised (owner : String) (fault : LevelFault)
  | faultsCleared (owner : String)
  | suspended (owner : String)
  /-- The operator resumed the machine. -/
  | resumed
  | stateChanged (source target : ProcessState)
  | moduleEnabled (owner : String) (enabled : Bool)
  deriving DecidableEq, Inhabited

namespace Event

/-- The event as a line of the log. -/
def toRecord : Event → LogRecord
  | armed timer => ⟨.info, s!"TIMER | {timer} armed"⟩
  | disarmed timer => ⟨.info, s!"TIMER | {timer} disarmed"⟩
  | triggered timer => ⟨.info, s!"TIMER | {timer} triggered"⟩
  | faultRaised owner fault =>
    ⟨.warn, s!"FAULT | {owner}: {fault.message} ({FaultSet.binary fault.mask})"⟩
  | faultsCleared owner => ⟨.info, s!"FAULT | {owner}: all cleared"⟩
  | suspended owner => ⟨.warn, s!"PAUSE | suspended by {owner}"⟩
  | resumed => ⟨.info, "PAUSE | resumed"⟩
  | stateChanged source target => ⟨.info, s!"STATE | {source.name} -> {target.name}"⟩
  | moduleEnabled owner true => ⟨.info, s!"MODULE | {owner} enabled"⟩
  | moduleEnabled owner false => ⟨.info, s!"MODULE | {owner} disabled"⟩

end Event

end Interlock
