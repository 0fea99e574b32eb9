import Interlock.Alarm.Basic
import Interlock.Level.Guard
import Interlock.Module.Checklist
import Interlock.Pin.Output
import Interlock.Pin.Sensors
import Interlock.Job.Machine
import Interlock.Status

namespace Interlock

/-- The water-jet cutter. The module runs the cutting process and guards the
    level of the cutter's own catch tank. Each second the level is evaluated
    where the tank is in use, the process is asked for its next state, and a
    fault that it raises is reported to the operator. -/
structure WaterJet where
  active : Bool := false
  process : JobProcess := .ofInitial .off
  context : JobContext := {}
  sensors : Sensors
  guard : LevelGuard
  alarm : Alarm
  dumpValve : OutputPin
  lowPressurePump : OutputPin
  highPressurePump : OutputPin
  deriving DecidableEq, Inhabited

namespace WaterJet

/-- The name of the module in settings, replies and the log. -/
def owner : String := "waterjetcutter"

/-- The command code for the status report. -/
def statusCode : Nat := 1400

/-- The command code that switches the module on. -/
def enableCode : Nat := 1401

/-- The command code that switches the module off. -/
def disableCode : Nat := 1402

/-- The command code that starts a job. -/
def startCode : Nat := 1403

/-- The command code that ends a job. -/
def endCode : Nat := 1404

/-- What the command codes do, for the console. -/
def help : List String :=
  ["M1400 status report", "M1401 enable, start abrasive timers", "M1402 disable",
    "M1403 start job (door closed)", "M1404 end job"]

/-- The level limits that the settings give. -/
def limitsOf (s : JetSettings) : LevelLimits :=
  ⟨s.fillCycle, s.filterCleaning, s.tooLow⟩

/-- The keys that the module needs. -/
def requirements {ι : Type} [PinAccess ι] (s : JetSettings) (pins : ι) : List Requirement :=
  [.pin pins "door_switch_pin" s.doorSwitchPin,
    .pin pins "middle_float_pin" s.middleFloatPin,
    .pin pins "high_float_pin" s.highFloatPin,
    .pin pins "dump_valve_pin" s.dumpValvePin,
    .pin pins "low_pressure_pump_pin" s.lowPressurePumpPin,
    .pin pins "high_pressure_pump_pin" s.highPressurePumpPin,
    .menu "error_wl_low_menu" s.lowWaterMenu,
    .menu "error_wl_high_menu" s.highWaterMenu,
    .menu "error_clean_filters_menu" s.filtersBlockedMenu]

/-- The module that enabled and complete settings describe. Its process starts
    switched off. -/
def ofSettings (s : JetSettings) (delay : Nat) : WaterJet where
  context := (JobProcess.ofInitial .off).start {}
  sensors := Sensors.ofPins s.middleFloatPin s.highFloatPin (some s.doorSwitchPin)
  guard := { limits := limitsOf s }
  alarm :=
    { escalator := { owner, delay }
      menus := ⟨s.lowWaterMenu, s.highWaterMenu, s.filtersBlockedMenu⟩ }
  dumpValve := { pin := s.dumpValvePin }
  lowPressurePump := { pin := s.lowPressurePumpPin }
  highPressurePump := { pin := s.highPressurePumpPin }

/-- Builds the module. It has to be enabled, with every pin on the board and
    every menu named. -/
def build {ι : Type} [PinAccess ι] (s : JetSettings) (delay : Nat) (pins : ι) :
    Traced (Except SetupFailure WaterJet) :=
  if !s.enable then ⟨.error (.disabled owner), {}⟩
  else
    let required := requirements s pins
    let records := Requirement.records owner required
    match Requirement.failure? owner required with
    | some cause => ⟨.error cause, { records }⟩
    | none =>
      let started := (JobProcess.ofInitial .off).startRecords {}
      ⟨.ok (ofSettings s delay), { records := records ++ started ++ [(limitsOf s).record owner] }⟩

/-- The state of the cutting process. -/
def state (j : WaterJet) : ProcessState :=
  j.process.current

/-- Whether the module keeps the machine suspended. -/
def isPaused (j : WaterJet) : Bool :=
  j.alarm.escalator.paused

/-- The status report of the module. -/
def status (j : WaterJet) : StatusReport where
  owner
  previousState := some j.process.previous.name
  currentState := j.state.name
  active := j.active
  suspended := j.isPaused
  pins :=
    [⟨"door_switch", j.sensors.doorPin.getD "", some j.sensors.doorClosed⟩,
      ⟨"dump_valve", j.dumpValve.pin, j.dumpValve.written⟩,
      ⟨"low_pressure_pump", j.lowPressurePump.pin, j.lowPressurePump.written⟩,
      ⟨"high_pressure_pump", j.highPressurePump.pin, j.highPressurePump.written⟩]
  timers :=
    [⟨"fill_timer", j.guard.fill.elapsed, some j.guard.limits.fillCycle⟩,
      ⟨"dump_timer", j.guard.dump.elapsed, some j.guard.limits.filterCleaning⟩,
      ⟨"abrasive_hopper", j.context.abrasiveHopper.elapsed, none⟩,
      ⟨"spent_abrasive", j.context.spentAbrasive.elapsed, none⟩]
  help

/-- A move tells the state that was left and the one that was entered. -/
def moveEvents : Option (ProcessState × ProcessState) → List Event
  | none => []
  | some (source, target) => [.stateChanged source target]

/-- Takes note of a suspension by the process itself. -/
def absorbSuspend (j : WaterJet) : Traced WaterJet :=
  if j.context.suspendRequested then
    ⟨{ j with
        context := { j.context with suspendRequested := false }
        alarm := { j.alarm with escalator := j.alarm.escalator.markPaused } },
      { events := [.suspended owner] }⟩
  else ⟨j, {}⟩

/-- A new job starts unpaused and with a fresh level history. -/
def freshen (j : WaterJet) : WaterJet :=
  { j with
    alarm := { j.alarm with escalator := j.alarm.escalator.resume }
    guard := j.guard.resetTimers
    context := { j.context with suspension := none } }

/-- Moves the process to a state by command. -/
def goto (j : WaterJet) (target : ProcessState) : Traced WaterJet := do
  let fresh := if target = .running then j.freshen else j
  Traced.log (if target = .running then j.alarm.escalator.resumeRecords else [])
  let step := fresh.process.moveTo target fresh.context
  Traced.log (fresh.process.moveRecords target fresh.context)
  Traced.emit (moveEvents step.move)
  absorbSuspend { fresh with process := step.process, context := step.context }

/-- Switches the module on or off. -/
def setActive (j : WaterJet) (active : Bool) : Traced WaterJet :=
  if j.active = active then ⟨j, {}⟩
  else ⟨{ j with active }, { events := [.moduleEnabled owner active] }⟩

/-- Switches the module on. A process that was off waits in the menu. -/
def enable (j : WaterJet) : Traced WaterJet := do
  let j ← j.setActive true
  let j ← if j.state = .off then j.goto .menu else pure j
  return { j with context := j.context.startWork }

/-- Switches the module off, whatever the process was doing. -/
def disable (j : WaterJet) : Traced WaterJet := do
  let j ← j.setActive false
  goto { j with context := j.context.stopWork } .off

/-- Starts a job, which an inactive module and one with an open door refuse. -/
def startJob (j : WaterJet) : Traced (WaterJet × String) := do
  if !j.active then
    Traced.log [⟨.warn, s!"{owner}: M{startCode} while inactive"⟩]
    return (j, s!"{owner} not active, send M{enableCode} first")
  else if !j.sensors.doorClosed then
    Traced.log [⟨.warn, s!"{owner}: door open, job refused"⟩]
    return (j, s!"{owner} door open, job refused")
  else return (← j.goto .running, s!"{owner} job started")

/-- Handles a command code; `none` means that it is not one of the module's. -/
def command (j : WaterJet) (code : Nat) : Traced (WaterJet × Option (List String)) := do
  if code = statusCode then return (j, some j.status.lines)
  else if code = enableCode then return (← j.enable, some [s!"{owner} active"])
  else if code = disableCode then return (← j.disable, some [s!"{owner} inactive"])
  else if code = startCode then
    let (j, reply) ← j.startJob
    return (j, some [reply])
  else if code = endCode then return (← j.goto .ending, some [s!"{owner} job ended"])
  else return (j, none)

/-- Moves to the state that a number names; one that names none is reported. -/
def requestState (j : WaterJet) (raw : Nat) : Traced WaterJet := do
  let target := ProcessState.ofRaw raw
  Traced.log <|
    if target = .invalid ∧ raw ≠ ProcessState.invalid.raw then
      [⟨.error, s!"{owner}: {(Failure.badState raw).message}"⟩]
    else []
  j.goto target

/-- The operator resumed. If the module was paused, which is the result, the
    level history starts over and the process leaves its pause in the next
    second. -/
def resume (j : WaterJet) : Traced (WaterJet × Bool) :=
  let was := j.isPaused || j.context.paused
  let resumed := { j with alarm := { j.alarm with escalator := j.alarm.escalator.resume } }
  let records := j.alarm.escalator.resumeRecords
  if was then
    ⟨({ resumed with
        context := { j.context with paused := false }
        guard := j.guard.resetTimers }, true), { records }⟩
  else ⟨(resumed, false), { records }⟩

/-- Reads the inputs. -/
def poll {ι : Type} [PinAccess ι] (j : WaterJet) (pins : ι) : Traced WaterJet := do
  if !j.active then return j
  else return { j with sensors := ← j.sensors.poll pins }

/-- Evaluates the level where the tank is in use. -/
def evaluate (j : WaterJet) : Traced (LevelGuard × Verdict) :=
  if j.state.tankInUse then
    ⟨j.guard.evaluate j.sensors.floats, { records := j.guard.evaluateRecords j.sensors.floats }⟩
  else ⟨(j.guard, {}), {}⟩

/-- The context with which the process is asked for its next state. -/
def observe (j : WaterJet) (verdict : Verdict) : JobContext :=
  { j.context with
    doorClosed := j.sensors.doorClosed
    verdict
    outputs :=
      { j.context.outputs with
        dumpValve := verdict.dumpValve.getD j.context.outputs.dumpValve
        lowPressurePump := verdict.lowPressurePump.getD j.context.outputs.lowPressurePump }
    paused := j.alarm.escalator.paused }

/-- Reports the fault that the process raised, or that there is none. States
    outside of the watched ones say nothing unless a fault was raised. -/
def escalate {π : Type} [Panel π] (j : WaterJet) (panel : π) : Traced (WaterJet × π) := do
  let fault := j.context.raisedFault
  let j := { j with context := { j.context with raisedFault := none } }
  if fault.isSome || j.state.escalates then
    let (alarm, panel, raised) ← j.alarm.report fault panel
    let suspension :=
      if raised.suspended then some (j.context.suspension.getD .escalation)
      else j.context.suspension
    return ({ j with alarm, context := { j.context with suspension } }, panel)
  else return (j, panel)

/-- Brings the context in line with the pause of the module. -/
def settlePause (j : WaterJet) : WaterJet :=
  let paused := j.isPaused
  { j with context := { j.context with paused, frozen := paused || j.context.frozen } }

/-- One second: the level is evaluated, the process is asked for its next state,
    and what it raised is reported. Nothing happens while the module is
    inactive. -/
def tick {π : Type} [Panel π] (j : WaterJet) (panel : π) : Traced (WaterJet × π) := do
  if !j.active then return (j, panel)
  else
    let alarm := { j.alarm with escalator := j.alarm.escalator.tick }
    let (guard, verdict) ← j.evaluate
    let context := (j.observe verdict).tickWork
    let step := j.process.tick context
    Traced.log (j.process.tickRecords context)
    Traced.emit (moveEvents step.move)
    let j := { j with alarm, guard, process := step.process, context := step.context }
    let j ← j.absorbSuspend
    let (j, panel) ← j.escalate panel
    return (j.settlePause, panel)

/-- Sends the waiting commands and drives the outputs. -/
def drive {ι : Type} [PinAccess ι] (j : WaterJet) (pins : ι) : Traced (WaterJet × ι) := do
  Traced.send j.context.outbox
  let out := j.context.outputs
  let (dumpValve, pins) ← j.dumpValve.drive pins (some out.dumpValve)
  let (lowPressurePump, pins) ← j.lowPressurePump.drive pins (some out.lowPressurePump)
  let (highPressurePump, pins) ← j.highPressurePump.drive pins (some out.highPressurePump)
  let context := { j.context with outbox := [] }
  return ({ j with context, dumpValve, lowPressurePump, highPressurePump }, pins)

end WaterJet

end Interlock
