import Interlock.Counter.Basic
import Interlock.Level.Verdict
import Interlock.Log

namespace Interlock

/-- The levels that the process asks of the outputs. -/
structure Outputs where
  dumpValve : Bool := false
  lowPressurePump : Bool := false
  highPressurePump : Bool := false
  deriving DecidableEq, Inhabited

/-- What suspended the machine; it decides how the machine is resumed. -/
inductive Suspension where
  /-- The process sent the whole pause sequence. -/
  | pauseSequence
  /-- The alarm sent the suspend command alone. -/
  | escalation
  deriving DecidableEq, Inhabited

/-- What the states of the cutting process work on: what they read, the outputs
    they ask for, and the commands and faults that wait to be passed on. -/
structure JobContext where
  verdict : Verdict := {}
  doorClosed : Bool := false
  paused : Bool := false
  outputs : Outputs := {}
  /-- Machine commands that wait to be sent. -/
  outbox : List String := []
  /-- A fault that waits to be reported. -/
  raisedFault : Option LevelFault := none
  /-- The process suspended the machine, which the module has not yet taken note of. -/
  suspendRequested : Bool := false
  suspension : Option Suspension := none
  abrasiveHopper : Counter := {}
  spentAbrasive : Counter := {}
  /-- Whether the counters of useful work stand still. -/
  frozen : Bool := false
  deriving DecidableEq, Inhabited

namespace JobContext

/-- The most commands that wait at a time. -/
def outboxCapacity : Nat := 16

/-- How many commands still fit. -/
def room (ctx : JobContext) : Nat :=
  outboxCapacity - ctx.outbox.length

/-- Queues commands for sending. Those that do not fit are dropped. -/
def send (ctx : JobContext) (commands : List String) : JobContext :=
  { ctx with outbox := ctx.outbox ++ commands.take ctx.room }

/-- Reports the commands that do not fit. -/
def sendRecords (ctx : JobContext) (commands : List String) : List LogRecord :=
  (commands.drop ctx.room).map fun command =>
    ⟨.warn, s!"FSM outbox full, dropping '{command}'"⟩

/-- Starts the counters of useful work unless they run. -/
def startWork (ctx : JobContext) : JobContext :=
  { ctx with
    abrasiveHopper := ctx.abrasiveHopper.ensureRunning
    spentAbrasive := ctx.spentAbrasive.ensureRunning }

/-- Stops the counters of useful work. -/
def stopWork (ctx : JobContext) : JobContext :=
  { ctx with
    abrasiveHopper := ctx.abrasiveHopper.requestStop
    spentAbrasive := ctx.spentAbrasive.requestStop }

/-- One second of the counters of useful work. -/
def tickWork (ctx : JobContext) : JobContext :=
  { ctx with
    abrasiveHopper := ctx.abrasiveHopper.tick ctx.frozen false
    spentAbrasive := ctx.spentAbrasive.tick ctx.frozen false }

/-- Switches the cutting head, which the high-pressure pump feeds. -/
def setHead (ctx : JobContext) (on : Bool) : JobContext :=
  { ctx with outputs := { ctx.outputs with highPressurePump := on } }

/-- Switches the low-pressure pump, which fills the tank. -/
def setFeed (ctx : JobContext) (on : Bool) : JobContext :=
  { ctx with outputs := { ctx.outputs with lowPressurePump := on } }

/-- Opens or closes the dump valve. -/
def setDump (ctx : JobContext) (on : Bool) : JobContext :=
  { ctx with outputs := { ctx.outputs with dumpValve := on } }

end JobContext

end Interlock
