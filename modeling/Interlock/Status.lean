import Interlock.Json.Encode
import Interlock.Log
import Interlock.Text.Lines

namespace Interlock

/-- A pin and its level; an output that was never driven has none. -/
structure PinReading where
  label : String
  pin : String
  on : Option Bool
  deriving DecidableEq, Inhabited

/-- A counter and the limit that it is compared with, if there is one. -/
structure TimerReading where
  name : String
  elapsed : Nat
  limit : Option Nat
  deriving DecidableEq, Inhabited

/-- The status of a module, for the console and for other programs. -/
structure StatusReport where
  owner : String
  previousState : Option String := none
  currentState : String
  active : Bool := false
  suspended : Bool := false
  pins : List PinReading := []
  timers : List TimerReading := []
  /-- The commands of the module. -/
  help : List String := []
  deriving DecidableEq, Inhabited

/-- A pin as a line of the report. -/
def PinReading.line (p : PinReading) : String :=
  let level := p.on.elim "unset" onOff
  s!"{p.label} ({p.pin}) {level}"

instance : Encode PinReading where
  encode p := .ofFields [Json.field "label" p.label, Json.field "pin" p.pin, Json.field "on" p.on]

/-- A counter as a line of the report. -/
def TimerReading.line (t : TimerReading) : String :=
  match t.limit with
  | some limit => s!"{t.name} {t.elapsed} trigger limit {limit}"
  | none => s!"{t.name} {t.elapsed}"

instance : Encode TimerReading where
  encode t := .ofFields
    [Json.field "name" t.name, Json.field "elapsed" t.elapsed, Json.field "limit" t.limit]

namespace StatusReport

/-- How a truth value is written. -/
def boolWord : Bool → String
  | true => "true"
  | false => "false"

/-- The parts of the report, each of which the console shows on a line of its
    own. -/
def parts (r : StatusReport) : List String :=
  [r.owner] ++ (r.previousState.map ("Previous State was " ++ ·)).toList ++
    [s!"Current  State  is {r.currentState}", s!"active {boolWord r.active}",
      s!"suspended {boolWord r.suspended}"] ++
    r.pins.map PinReading.line ++ r.timers.map TimerReading.line ++ r.help

/-- The report as lines for the console; line ends inside of a part count as
    well. -/
def lines (r : StatusReport) : List String :=
  Text.lines (Text.unlines r.parts)

/-- The report without the help. -/
def toJson (r : StatusReport) : Json :=
  .ofFields
    [Json.field "module" r.owner, Json.field "previous_state" r.previousState,
      Json.field "current_state" r.currentState, Json.field "active" r.active,
      Json.field "suspended" r.suspended, Json.field "pins" r.pins, Json.field "timers" r.timers]

end StatusReport

end Interlock
