import Interlock.Console.Command
import Interlock.Menu.Navigator
import Interlock.Module.SwitchTimer
import Interlock.Module.WaterJet
import Interlock.Module.WaterTank

namespace Interlock

open Interlock.Menu

/-- All modules that the settings enable, and the menus that they share as their
    panel. -/
structure Controller where
  timers : List SwitchTimer
  tank : Option WaterTank
  jet : Option WaterJet
  navigator : Navigator
  /-- Seconds since the start. -/
  seconds : Nat := 0
  deriving DecidableEq, Inhabited

namespace Controller

/-- Keeps a module that could be built. One that is disabled is left out without
    further notice. -/
def keepBuilt {α : Type} (owner : String) (built : Traced (Except SetupFailure α)) :
    Traced (Option α) := do
  match ← built with
  | .ok built => return some built
  | .error (.disabled _) =>
    Traced.log [⟨.debug, s!"{owner}: disabled"⟩]
    return none
  | .error cause =>
    Traced.log [⟨.error, s!"{owner}: not started: {(Failure.setup cause).message}"⟩]
    return none

/-- The timers that could be built, in the order of their settings. -/
def buildTimers : List TimerSettings → Traced (List SwitchTimer)
  | [] => pure []
  | s :: rest => do
    let timer ← keepBuilt SwitchTimer.owner (SwitchTimer.build s)
    let later ← buildTimers rest
    return timer.toList ++ later

/-- Builds every module that is enabled. One that cannot be built is left out,
    and the others work without it. -/
def build {ι : Type} [PinAccess ι] (s : Settings) (pins : ι) : Traced Controller := do
  let timers ← buildTimers s.timers
  let tank ← keepBuilt WaterTank.owner (WaterTank.build s.tank s.faultDelay pins)
  let jet ← keepBuilt WaterJet.owner (WaterJet.build s.jet s.faultDelay pins)
  let water := s!"water tank {onOff tank.isSome}, water jet {onOff jet.isSome}"
  Traced.log [⟨.info, s!"Controller up: {timers.length} counter timer(s), {water}"⟩]
  return { timers, tank, jet, navigator := .ofRoot s.panel.menuRoot s.panel.language }

/-- Runs a step of a module that may be absent, together with what it works on. -/
def onModule {α β : Type} (step : α → β → Traced (α × β)) : Option α → β → Traced (Option α × β)
  | none, b => pure (none, b)
  | some a, b => do
    let (a, b) ← step a b
    return (some a, b)

/-- Reads the inputs of the modules. -/
def poll {ι : Type} [PinAccess ι] (c : Controller) (pins : ι) : Traced Controller := do
  let tank ← c.tank.mapM (·.poll pins)
  let jet ← c.jet.mapM (·.poll pins)
  return { c with tank, jet }

/-- One second of every timer, in order. -/
def tickTimers {σ π : Type} [SwitchAccess σ] [Panel π] :
    List SwitchTimer → σ → π → Traced (List SwitchTimer × σ × π)
  | [], switches, panel => pure ([], switches, panel)
  | timer :: rest, switches, panel => do
    let (timer, switches, panel) ← timer.tick switches panel
    let (rest, switches, panel) ← tickTimers rest switches panel
    return (timer :: rest, switches, panel)

/-- One second of every module: first the timers, then the tank and the cutter.
    The menus are the panel of all of them, so that a later module sees what an
    earlier one has shown. -/
def tick {σ : Type} [SwitchAccess σ] (c : Controller) (switches : σ) :
    Traced (Controller × σ) := do
  let (timers, switches, navigator) ← tickTimers c.timers switches c.navigator
  let (tank, navigator) ← onModule WaterTank.tick c.tank navigator
  let (jet, navigator) ← onModule WaterJet.tick c.jet navigator
  return ({ timers, tank, jet, navigator, seconds := c.seconds + 1 }, switches)

/-- Drives the outputs and sends the waiting machine commands. -/
def drive {ι : Type} [PinAccess ι] (c : Controller) (pins : ι) : Traced (Controller × ι) := do
  let (tank, pins) ← onModule WaterTank.drive c.tank pins
  let (jet, pins) ← onModule WaterJet.drive c.jet pins
  return ({ c with tank, jet }, pins)

/-- Offers a command code to the timers; every timer may reply. -/
def commandTimers (code : Nat) : List SwitchTimer → Traced (List SwitchTimer × List String)
  | [] => pure ([], [])
  | timer :: rest => do
    let (timer, reply) ← timer.command code
    let (rest, replies) ← commandTimers code rest
    return (timer :: rest, reply.toList ++ replies)

/-- Offers a command code to the water tank. It replies with its new condition,
    and only if the code was its own. -/
def commandTank (code : Nat) : Option WaterTank → Traced (Option WaterTank × List String)
  | none => pure (none, [])
  | some tank => do
    let (tank, handled) ← tank.command code
    let word := if tank.enabled then "enabled" else "disabled"
    return (some tank, if handled then [s!"{WaterTank.owner} {word}"] else [])

/-- Offers a command code to the cutter. -/
def commandJet (code : Nat) : Option WaterJet → Traced (Option WaterJet × List String)
  | none => pure (none, [])
  | some jet => do
    let (jet, reply) ← jet.command code
    return (some jet, reply.getD [])

/-- Offers a command code to all modules and collects their replies. -/
def command (c : Controller) (code : Nat) : Traced (Controller × List String) := do
  let (timers, timerReplies) ← commandTimers code c.timers
  let (tank, tankReplies) ← commandTank code c.tank
  let (jet, jetReplies) ← commandJet code c.jet
  let replies := timerReplies ++ tankReplies ++ jetReplies
  Traced.log <|
    if replies.isEmpty then [⟨.debug, s!"console: M{code} not handled by any module"⟩] else []
  return ({ c with timers, tank, jet }, replies)

/-- Resumes a module that may be absent. -/
def resumeModule {α : Type} (step : α → Traced (α × Bool)) : Option α → Traced (Option α × Bool)
  | none => pure (none, false)
  | some a => do
    let (a, was) ← step a
    return (some a, was)

/-- The operator resumes the machine. Both water modules hear of it, and one
    event stands for both. -/
def resume (c : Controller) : Traced (Controller × List String) := do
  let (tank, tankWas) ← resumeModule WaterTank.resume c.tank
  let (jet, jetWas) ← resumeModule WaterJet.resume c.jet
  let c := { c with tank, jet }
  if tankWas || jetWas then
    Traced.emit [.resumed]
    return (c, ["resumed"])
  else return (c, ["not suspended"])

/-- Handles a console line and gives the replies. -/
def handleLine (c : Controller) (line : String) : Traced (Controller × List String) :=
  match ConsoleCommand.parse line with
  | .resume => c.resume
  | .code code _ => c.command code
  | .unknown line => ⟨(c, []), { records := [⟨.debug, s!"console: ignoring '{line}'"⟩] }⟩

/-- Handles console lines in order and gives the replies to each. -/
def handleLines (c : Controller) : List String → Traced (Controller × List (List String))
  | [] => pure (c, [])
  | line :: rest => do
    let (c, replies) ← c.handleLine line
    let (c, later) ← c.handleLines rest
    return (c, replies :: later)

/-- Opens the root menu on the panel. -/
def openMenu (c : Controller) : Traced Controller := do
  return { c with navigator := ← c.navigator.openRoot }

/-- The text of a menu line. -/
def display (c : Controller) (line : Nat) (card : Card) (flags : MachineFlags) :
    Traced (Except AccessFailure DisplayLine) :=
  c.navigator.display line card flags

/-- Moves the marked line. -/
def scroll (c : Controller) (delta : Int) (card : Card) (flags : MachineFlags) :
    Traced (Controller × Except AccessFailure Nat) := do
  let (navigator, result) ← c.navigator.scroll delta card flags
  return ({ c with navigator }, result)

/-- Hands a state that a menu line asked for to the cutter. -/
def requestState (c : Controller) (raw : Nat) : Traced Controller := do
  match c.jet with
  | some jet => return { c with jet := some (← jet.requestState raw) }
  | none =>
    Traced.log [⟨.warn, s!"menu: state {raw} requested but the water jet is not configured"⟩]
    return c

/-- Clicks a menu line. -/
def click (c : Controller) (line : Nat) (card : Card) (flags : MachineFlags) :
    Traced (Controller × Except AccessFailure Outcome) := do
  let (navigator, result) ← c.navigator.click line card flags
  let c := { c with navigator }
  match result with
  | .ok (.stateRequested raw) => return (← c.requestState raw, result)
  | _ => return (c, result)

/-- The reports of the water modules, that of the cutter first. -/
def reports (c : Controller) : List StatusReport :=
  (c.jet.map WaterJet.status).toList ++ (c.tank.map WaterTank.status).toList

/-- The status of everything, for the console. -/
def statusLines (c : Controller) : List String :=
  s!"uptime {c.seconds}s" :: c.reports.flatMap StatusReport.lines ++
    c.timers.map SwitchTimer.statusLine

/-- Whether a water module keeps the machine suspended. -/
def isSuspended (c : Controller) : Bool :=
  c.tank.elim false WaterTank.isPaused || c.jet.elim false WaterJet.isPaused

/-- Whether the cutter is in a job; `none` without a cutter. -/
def jobRunning (c : Controller) : Option Bool :=
  c.jet.map fun jet => jet.state.inJob

/-- The machine conditions that follow the controller. -/
def follow (c : Controller) (flags : MachineFlags) : MachineFlags :=
  let flags := flags.set .suspended c.isSuspended
  match c.jobRunning with
  | some playing => flags.set .playing playing
  | none => flags

end Controller

end Interlock
