import Interlock.Switch.Access
import Interlock.Switch.Arming
import Interlock.Text.Blank
import Interlock.Trace

namespace Interlock

open Interlock.Text

/-- Where a count stands relative to its threshold. -/
inductive CountState where
  /-- Not counting. -/
  | dormant
  | below
  | reached
  deriving DecidableEq, Inhabited

/-- The name in status reports. -/
def CountState.name : CountState → String
  | dormant => "NONE"
  | below => "BELOW"
  | reached => "THRESHOLD"

/-- Which moves of the count an output follows. -/
inductive TriggerMode where
  | level
  | rising
  | falling
  deriving DecidableEq, Inhabited

namespace TriggerMode

/-- The name of a trigger mode in the log. -/
def name : TriggerMode → String
  | level => "Level"
  | rising => "Rising"
  | falling => "Falling"

/-- The mode that a setting names; `below` is another name of falling. -/
def ofName? : String → Option TriggerMode
  | "level" => some level
  | "rising" => some rising
  | "falling" => some falling
  | "below" => some falling
  | _ => none

/-- Reads a setting up to case and blanks around; an unknown one counts as
    level. -/
def ofSetting (value : String) : TriggerMode :=
  (ofName? (fold (trim value))).getD level

/-- An unknown trigger mode is reported. -/
def settingRecords (value : String) : List LogRecord :=
  let name := fold (trim value)
  if (ofName? name).isSome then [] else [⟨.warn, s!"unknown trigger mode '{name}', using level"⟩]

/-- Edge modes fire once for each arming. -/
def isEdge (mode : TriggerMode) : Bool :=
  mode != level

/-- Whether moving to a state means that the output is on. -/
def turnsOn : TriggerMode → CountState → Bool
  | falling, target => target == .below
  | _, target => target == .reached

end TriggerMode

/-- Whether a timer fires once or again and again. -/
inductive ShotMode where
  | single
  | multi
  deriving DecidableEq, Inhabited

namespace ShotMode

/-- The name of a shot mode in the log. -/
def name : ShotMode → String
  | single => "SingleShot"
  | multi => "MultiShot"

/-- The mode that a setting names. -/
def ofName? : String → Option ShotMode
  | "singleshot" => some single
  | "multishot" => some multi
  | _ => none

/-- Reads a setting up to case and blanks around; an unknown one counts as
    multishot. -/
def ofSetting (value : String) : ShotMode :=
  (ofName? (fold (trim value))).getD multi

/-- An unknown shot mode is reported. -/
def settingRecords (value : String) : List LogRecord :=
  let name := fold (trim value)
  if (ofName? name).isSome then [] else [⟨.warn, s!"unknown timer type '{name}', using multishot"⟩]

end ShotMode

/-- A switch and the state it takes when the output is on. -/
structure SwitchBinding where
  name : String
  onTrigger : Bool
  deriving DecidableEq, Inhabited

/-- What a timer does to its switches when its count passes the threshold. -/
structure SwitchPolicy where
  trigger : TriggerMode
  shot : ShotMode
  inverted : Bool
  bindings : List SwitchBinding
  deriving DecidableEq, Inhabited

/-- What the timer has to do after its switches were driven. -/
structure Actuation where
  /-- The state to store. -/
  next : CountState
  restartCounter : Bool := false
  /-- Show the timer's menu. -/
  notify : Bool := false
  disarmed : Bool := false
  /-- The number of switches that were written. -/
  writes : Nat := 0
  deriving DecidableEq, Inhabited

namespace SwitchPolicy

variable {σ : Type} [SwitchAccess σ]

/-- The most switches that one timer drives. -/
def maxBindings : Nat := 5

/-- The state that a binding asks for when the output is on or off. -/
def target (p : SwitchPolicy) (on : Bool) (b : SwitchBinding) : Bool :=
  ((if on then b.onTrigger else !b.onTrigger) ^^ p.inverted)

def refusal (name : String) (cause : AccessFailure) : LogRecord :=
  ⟨.error, s!"switch '{name}': {(Failure.access cause).message}"⟩

/-- Reads the bound switches in order and keeps those that have to change, with
    their targets. The first refused read ends the search. -/
def pending (p : SwitchPolicy) (on : Bool) (switches : σ) :
    List SwitchBinding → Traced (Except AccessFailure (List (String × Bool)))
  | [] => ⟨.ok [], {}⟩
  | b :: rest =>
    let records := SwitchAccess.readRecords switches b.name
    match SwitchAccess.read switches b.name with
    | .error cause => ⟨.error cause, { records := records ++ [refusal b.name cause] }⟩
    | .ok current =>
      let later := pending p on switches rest
      let changed := if current == p.target on b then [] else [(b.name, p.target on b)]
      ⟨later.value.map (changed ++ ·), { records := records } ++ later.trace⟩

/-- Writes switches in order up to the first refused write. -/
def writeAll (switches : σ) :
    List (String × Bool) → Traced (σ × Except AccessFailure Unit)
  | [] => ⟨(switches, .ok ()), {}⟩
  | (name, on) :: rest =>
    let records := SwitchAccess.writeRecords switches name on
    match SwitchAccess.write switches name on with
    | .error cause => ⟨(switches, .error cause), { records := records ++ [refusal name cause] }⟩
    | .ok switches =>
      let later := writeAll switches rest
      ⟨later.value, { records := records, switches := [(name, on)] } ++ later.trace⟩

/-- Drives the bound switches to their targets and counts the writes. All reads
    come before the first write. -/
def drive (p : SwitchPolicy) (on : Bool) (switches : σ) :
    Traced (σ × Except AccessFailure Nat) := do
  match ← p.pending on switches p.bindings with
  | .error cause => return (switches, .error cause)
  | .ok changes =>
    let (switches, outcome) ← writeAll switches changes
    return (switches, outcome.map fun _ => changes.length)

/-- What follows once the switches are driven, and the arming after it. -/
def conclude (p : SwitchPolicy) (target : CountState) (arming : Arming) (writes : Nat) :
    Actuation × Arming :=
  let fires := target == .reached && p.shot == .single
  let disarmed := (p.trigger.isEdge || fires) && arming.canDisarm
  let again := target == .reached && p.shot == .multi && p.trigger == .level
  ({ next := if fires then .dormant else if again then .below else target
     restartCounter := again
     notify := fires
     disarmed
     writes },
    if disarmed then arming.disarm else arming)

/-- Acts on the move of the count from one state to another. Nothing happens
    without a move, and no switch is touched unless the timer is armed. After a
    refused access the timer keeps its state. -/
def apply (p : SwitchPolicy) (source target : CountState) (arming : Arming) (switches : σ) :
    Traced (σ × Except AccessFailure (Actuation × Arming)) := do
  if source = target then return (switches, .ok ({ next := source }, arming))
  else if arming.isArmed then
    let (switches, outcome) ← p.drive (p.trigger.turnsOn target) switches
    return (switches, outcome.map (p.conclude target arming))
  else return (switches, .ok (p.conclude target arming 0))

end SwitchPolicy

end Interlock
