import Interlock.Alarm.Basic
import Interlock.Level.Guard
import Interlock.Module.Checklist
import Interlock.Pin.Output
import Interlock.Pin.Sensors
import Interlock.Status

namespace Interlock

/-- The catch tank of the cutter. The module keeps the dump valve and the
    low-pressure pump in line with the water level, and suspends the machine
    when the level cannot be held. -/
structure WaterTank where
  enabled : Bool := true
  sensors : Sensors
  guard : LevelGuard
  alarm : Alarm
  verdict : Verdict := {}
  dumpValve : OutputPin
  lowPressurePump : OutputPin
  deriving DecidableEq, Inhabited

namespace WaterTank

/-- The name of the module in settings, replies and the log. -/
def owner : String := "cutting_water_tank"

/-- The command code that switches the module off. -/
def disableCode : Nat := 1405

/-- The command code that switches the module on. -/
def enableCode : Nat := 1406

/-- What the command codes do, for the console. -/
def help : List String :=
  ["M1405 disable", "M1406 enable"]

/-- The level limits that the settings give. -/
def limitsOf (s : TankSettings) : LevelLimits :=
  ⟨s.fillCycle, s.filterCleaning, s.tooLow⟩

/-- The keys that the module needs. -/
def requirements {ι : Type} [PinAccess ι] (s : TankSettings) (pins : ι) : List Requirement :=
  [.pin pins "middle_float_pin" s.middleFloatPin,
    .pin pins "high_float_pin" s.highFloatPin,
    .pin pins "dump_valve_pin" s.dumpValvePin,
    .pin pins "low_pressure_pump_pin" s.lowPressurePumpPin,
    .menu "low_water_detected_menu" s.lowWaterMenu,
    .menu "high_water_detected_menu" s.highWaterMenu,
    .menu "filters_blocked_menu" s.filtersBlockedMenu]

/-- The module that enabled and complete settings describe. -/
def ofSettings (s : TankSettings) (delay : Nat) : WaterTank where
  sensors := Sensors.ofPins s.middleFloatPin s.highFloatPin none
  guard := { limits := limitsOf s }
  alarm :=
    { escalator := { owner, delay }
      menus := ⟨s.lowWaterMenu, s.highWaterMenu, s.filtersBlockedMenu⟩ }
  dumpValve := { pin := s.dumpValvePin }
  lowPressurePump := { pin := s.lowPressurePumpPin }

/-- Builds the module. It has to be enabled, with every pin on the board and
    every menu named. -/
def build {ι : Type} [PinAccess ι] (s : TankSettings) (delay : Nat) (pins : ι) :
    Traced (Except SetupFailure WaterTank) :=
  if !s.enable then ⟨.error (.disabled owner), {}⟩
  else
    let required := requirements s pins
    let records := Requirement.records owner required
    match Requirement.failure? owner required with
    | some cause => ⟨.error cause, { records }⟩
    | none => ⟨.ok (ofSettings s delay), { records := records ++ [(limitsOf s).record owner] }⟩

/-- Whether the module keeps the machine suspended. -/
def isPaused (t : WaterTank) : Bool :=
  t.alarm.escalator.paused

/-- The status report of the module. -/
def status (t : WaterTank) : StatusReport where
  owner
  currentState := t.verdict.phase.name
  active := t.enabled
  suspended := t.isPaused
  pins :=
    [⟨"dump_valve", t.dumpValve.pin, t.dumpValve.written⟩,
      ⟨"low_pressure_pump", t.lowPressurePump.pin, t.lowPressurePump.written⟩]
  timers :=
    [⟨"fill_timer", t.guard.fill.elapsed, some t.guard.limits.fillCycle⟩,
      ⟨"dump_timer", t.guard.dump.elapsed, some t.guard.limits.filterCleaning⟩]
  help

/-- Switches the module on or off. Its level history starts over when it is
    switched on. -/
def setEnabled (t : WaterTank) (enabled : Bool) : Traced WaterTank :=
  if enabled = t.enabled then ⟨t, {}⟩
  else
    let word := if enabled then "enabled" else "disabled"
    ⟨{ t with enabled, guard := if enabled then t.guard.resetTimers else t.guard },
      { records := [⟨.info, s!"{owner}: {word}"⟩], events := [.moduleEnabled owner enabled] }⟩

/-- Handles a command code; `false` means that it is not one of the module's. -/
def command (t : WaterTank) (code : Nat) : Traced (WaterTank × Bool) := do
  if code = disableCode then return (← t.setEnabled false, true)
  else if code = enableCode then return (← t.setEnabled true, true)
  else return (t, false)

/-- The operator resumed. The level history starts over if the module was
    paused, which is the result. -/
def resume (t : WaterTank) : Traced (WaterTank × Bool) :=
  let alarm := { t.alarm with escalator := t.alarm.escalator.resume }
  ⟨({ t with alarm, guard := if t.isPaused then t.guard.resetTimers else t.guard }, t.isPaused),
    { records := t.alarm.escalator.resumeRecords }⟩

/-- Reads the floats. -/
def poll {ι : Type} [PinAccess ι] (t : WaterTank) (pins : ι) : Traced WaterTank := do
  if !t.enabled then return t
  else return { t with sensors := ← t.sensors.poll pins }

/-- One second: evaluates the level and reports what it found. -/
def tick {π : Type} [Panel π] (t : WaterTank) (panel : π) : Traced (WaterTank × π) := do
  if !t.enabled then return (t, panel)
  else
    let floats := t.sensors.floats
    let (guard, verdict) := t.guard.evaluate floats
    Traced.log (t.guard.evaluateRecords floats)
    let alarm := { t.alarm with escalator := t.alarm.escalator.tick }
    let (alarm, panel, _) ← alarm.report verdict.primaryFault panel
    return ({ t with guard, verdict, alarm }, panel)

/-- Drives the outputs that the last evaluation asked for. -/
def drive {ι : Type} [PinAccess ι] (t : WaterTank) (pins : ι) : Traced (WaterTank × ι) := do
  if !t.enabled then return (t, pins)
  else
    let (dumpValve, pins) ← t.dumpValve.drive pins t.verdict.dumpValve
    let (lowPressurePump, pins) ← t.lowPressurePump.drive pins t.verdict.lowPressurePump
    return ({ t with dumpValve, lowPressurePump }, pins)

end WaterTank

end Interlock
