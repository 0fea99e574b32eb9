import Interlock.Alarm.Escalator

namespace Interlock

/-- The operator menus for the faults of a module. -/
structure FaultMenus where
  lowWater : String
  levelTooHigh : String
  filtersBlocked : String
  deriving DecidableEq, Inhabited

/-- A tank that was given up shows the menu for low water. -/
def FaultMenus.menuOf (m : FaultMenus) : LevelFault → String
  | .lowWater => m.lowWater
  | .tankIdleTooLong => m.lowWater
  | .filtersBlocked => m.filtersBlocked
  | .levelTooHigh => m.levelTooHigh

/-- The level alarm of a water module: it brings the module's faults to the
    operator's notice, and tells an event whenever the fault changes. -/
structure Alarm where
  escalator : Escalator
  menus : FaultMenus
  /-- The fault of the last report. -/
  last : Option LevelFault := none
  deriving DecidableEq, Inhabited

namespace Alarm

/-- Reports the fault of an evaluation, or that there was none. An event is told
    only when the fault differs from that of the last report. -/
def report {π : Type} [Panel π] (a : Alarm) (fault : Option LevelFault) (panel : π) :
    Traced (Alarm × π × Raised) :=
  let owner := a.escalator.owner
  match fault with
  | some fault => do
    let (escalator, panel, raised) ← a.escalator.raise fault (a.menus.menuOf fault) panel
    Traced.emit <|
      (if a.last = some fault then [] else [Event.faultRaised owner fault]) ++
      (if raised.suspended then [Event.suspended owner] else [])
    return ({ a with escalator, last := some fault }, panel, raised)
  | none => do
    let (escalator, panel) ← a.escalator.allClear panel
    Traced.emit (if a.last.isSome then [Event.faultsCleared owner] else [])
    return ({ a with escalator, last := none }, panel, {})

end Alarm

end Interlock
