import Interlock.Alarm.Escalator
import Interlock.Job.Context

namespace Interlock

/-- Pauses the machine: the head is lifted and the cutting stops. -/
def pauseSequence : List String :=
  ["M600", "M9", "G4 S2.0", "M47", "M5", "M43"]

/-- Takes the cutting up again. -/
def resumeSequence : List String :=
  ["M42", "M46", "G4 S1.0", "M3", "M8"]

namespace ProcessState

/-- The state in which a fault is waited out. -/
def ofFault : LevelFault → ProcessState
  | .lowWater => waitFill
  | .filtersBlocked => filtersBlocked
  | .tankIdleTooLong => idleTooLong
  | .levelTooHigh => levelTooHigh

/-- Suspends the machine with the pause sequence. -/
def suspend (ctx : JobContext) : JobContext :=
  { (ctx.setHead false).send pauseSequence with
    suspendRequested := true
    suspension := some .pauseSequence
    paused := true
    frozen := true }

/-- The commands that undo a suspension. -/
def resumeCommands : Option Suspension → List String
  | some .escalation => [resumeCommand]
  | _ => resumeSequence

/-- The context after entering a state. -/
def enter (state : ProcessState) (ctx : JobContext) : JobContext :=
  match state with
  | off => { ctx with outputs := {}, suspension := none }
  | menu => ctx.setHead false
  | prep => ctx.setFeed true
  | dryRun => ctx.setHead false
  | ready => ctx
  | running =>
    (({ ctx.startWork with frozen := false, paused := false } : JobContext).setFeed true)
      |>.setHead true
  | watching => ctx
  | paused => suspend ctx
  | resuming =>
    let ctx := { ctx.send (resumeCommands ctx.suspension) with suspension := none, frozen := false }
    (ctx.setFeed true).setHead true
  | ending => (ctx.stopWork.setHead false).setFeed false
  | idleTooLong =>
    (({ ctx.setHead false with frozen := true } : JobContext).setDump false).setFeed false
  | waitFill => { ctx.setHead false with frozen := true }
  | dumping => ctx
  | filtersBlocked => { ctx.setHead false with frozen := true }
  | levelTooHigh =>
    (({ ctx.setHead false with frozen := true } : JobContext).setDump true).setFeed true
  | gantryStalled => suspend ctx
  | endstopTriggered => ctx.setHead false
  | invalid => { ctx with outputs := {} }.stopWork

/-- The faults that entering a state of a fault writes to the log. -/
def faultRecord (ctx : JobContext) : LogRecord :=
  ⟨.warn, s!"level fault: cutting head off, faults={FaultSet.binary ctx.verdict.faults.mask}"⟩

/-- What entering a state writes to the log. -/
def enterRecords (state : ProcessState) (ctx : JobContext) : List LogRecord :=
  match state with
  | off | ready | watching | dumping => []
  | menu => [⟨.info, "MENU: waiting for a job"⟩]
  | prep => [⟨.info, "PREP: priming the tank"⟩]
  | dryRun => [⟨.info, "DRY_RUN: cutting head off"⟩]
  | running => [⟨.info, "RUNNING: pumps on, abrasive timers started"⟩]
  | paused => ctx.sendRecords pauseSequence ++ [⟨.info, "PAUSED: machine suspended"⟩]
  | resuming =>
    ctx.sendRecords (resumeCommands ctx.suspension) ++ [⟨.info, "RESUMING: pumps back on"⟩]
  | ending => [⟨.info, "ENDING: job finished"⟩]
  | idleTooLong | waitFill | filtersBlocked | levelTooHigh => [faultRecord ctx]
  | gantryStalled => ctx.sendRecords pauseSequence ++ [⟨.warn, "GANTRY_STALLED: machine suspended"⟩]
  | endstopTriggered => [⟨.warn, "ENDSTOP_TRIGGERED: cutting head off"⟩]
  | invalid => [⟨.error, "INVALID: bad state value received, outputs off"⟩]

/-- Chooses the state of the most severe fault and leaves the fault to be
    reported. -/
def leaveOnFault (ctx : JobContext) (otherwise : Option ProcessState) :
    Option ProcessState × JobContext :=
  match ctx.verdict.primaryFault with
  | some fault => (some (ofFault fault), { ctx with raisedFault := some fault })
  | none => (otherwise, ctx)

/-- The state that the current one asks for after a second, and the context
    after asking. Asking for the current state means to stay. -/
def next (state : ProcessState) (ctx : JobContext) : Option ProcessState × JobContext :=
  match state with
  | prep => (if ctx.verdict.phase = .dumping then some ready else none, ctx)
  | running | resuming => (some watching, ctx)
  | watching | dumping =>
    leaveOnFault ctx <|
      if ctx.paused then none
      else if ctx.verdict.phase = .dumping then some dumping else some watching
  | paused | gantryStalled =>
    if ctx.verdict.faults.levelTooHigh then
      (some levelTooHigh, { ctx with raisedFault := some .levelTooHigh })
    else (if ctx.paused then none else some resuming, ctx)
  | ending | endstopTriggered => (some menu, ctx)
  | idleTooLong | waitFill | filtersBlocked | levelTooHigh =>
    leaveOnFault ctx (if ctx.paused then none else some resuming)
  | off | menu | dryRun | ready | invalid => (none, ctx)

end ProcessState

/-- Where the process is, and where it was before the last move. A job starts in
    `running` and is then watched; a level fault moves it to the state of the
    fault, and the operator's resume leads back through `resuming`. -/
structure JobProcess where
  current : ProcessState
  previous : ProcessState
  deriving DecidableEq, Inhabited

namespace JobProcess

/-- A process that has not moved yet is its own predecessor. -/
def ofInitial (state : ProcessState) : JobProcess :=
  ⟨state, state⟩

/-- What a step of the process leaves behind. `move` is the pair of states of a
    move that took place. -/
structure Step where
  process : JobProcess
  context : JobContext
  move : Option (ProcessState × ProcessState) := none

/-- Enters the state in which the process is constructed. -/
def start (p : JobProcess) (ctx : JobContext) : JobContext :=
  p.current.enter ctx

/-- What the start of the process writes to the log. -/
def startRecords (p : JobProcess) (ctx : JobContext) : List LogRecord :=
  ⟨.info, s!"FSM starting in state: {p.current.title}"⟩ :: p.current.enterRecords ctx

/-- Moves to a state unless the process is in it already. -/
def moveTo (p : JobProcess) (target : ProcessState) (ctx : JobContext) : Step :=
  if target = p.current then { process := p, context := ctx }
  else
    { process := ⟨target, p.current⟩
      context := target.enter ctx
      move := some (p.current, target) }

/-- What a move writes to the log; staying writes nothing. -/
def moveRecords (p : JobProcess) (target : ProcessState) (ctx : JobContext) : List LogRecord :=
  if target = p.current then []
  else
    ⟨.info, s!"FSM transition: {p.current.title} -> {target.title}"⟩ :: target.enterRecords ctx

/-- One second: the current state is asked for the next one. -/
def tick (p : JobProcess) (ctx : JobContext) : Step :=
  match p.current.next ctx with
  | (none, ctx) => { process := p, context := ctx }
  | (some target, ctx) => p.moveTo target ctx

/-- What a second writes to the log. -/
def tickRecords (p : JobProcess) (ctx : JobContext) : List LogRecord :=
  match p.current.next ctx with
  | (none, _) => []
  | (some target, ctx) => p.moveRecords target ctx

end JobProcess

end Interlock
