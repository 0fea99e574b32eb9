import Interlock.Registry
import Interlock.Switch.Access

namespace Interlock

/-- Switches held in memory: those that are registered with their states, and
    the names for which reads or writes are refused before the registration is
    looked at. -/
structure SwitchBank where
  states : Registry Bool := {}
  refusedReads : List String := []
  refusedWrites : List String := []
  deriving Inhabited

namespace SwitchBank

/-- Registers a switch, off; one that is there keeps its state. -/
def register (b : SwitchBank) (name : String) : SwitchBank :=
  { b with states := b.states.insertIfNew name false }

/-- A bank with the given switches, all off. -/
def ofNames (names : List String) : SwitchBank :=
  names.foldl register {}

/-- Registers a switch in the given state, or moves it there. -/
def place (b : SwitchBank) (name : String) (on : Bool) : SwitchBank :=
  { b with states := b.states.insert name on }

/-- Sets or lifts the refusal of reads and writes under a name. -/
def refuse (b : SwitchBank) (name : String) (reads writes : Bool) : SwitchBank :=
  let update (names : List String) (add : Bool) : List String :=
    if add then name :: names.filter (· != name) else names.filter (· != name)
  { b with
    refusedReads := update b.refusedReads reads
    refusedWrites := update b.refusedWrites writes }

/-- The state of a registered switch. -/
def read (b : SwitchBank) (name : String) : Except AccessFailure Bool :=
  if b.refusedReads.contains name then .error .switchRead
  else
    match b.states.find? name with
    | some on => .ok on
    | none => .error .switchRead

/-- Moves a registered switch. -/
def write (b : SwitchBank) (name : String) (on : Bool) : Except AccessFailure SwitchBank :=
  if b.refusedWrites.contains name || !b.states.contains name then .error .switchWrite
  else .ok { b with states := b.states.modify name fun _ => on }

/-- An access to a switch that was never registered is reported. -/
def readRecords (b : SwitchBank) (name : String) : List LogRecord :=
  if b.refusedReads.contains name || b.states.contains name then []
  else [⟨.warn, s!"switch {name}: unknown"⟩]

/-- A switch that changes is reported; one that is not registered yet counts as
    off. -/
def changeRecords (b : SwitchBank) (name : String) (on : Bool) : List LogRecord :=
  if (b.states.find? name).getD false == on then [] else [⟨.info, s!"switch {name} -> {onOff on}"⟩]

/-- What a write writes to the log; a refused one writes nothing. -/
def writeRecords (b : SwitchBank) (name : String) (on : Bool) : List LogRecord :=
  if b.refusedWrites.contains name then []
  else if b.states.contains name then b.changeRecords name on
  else [⟨.warn, s!"switch {name}: unknown"⟩]

instance : SwitchAccess SwitchBank where
  read := read
  write := write
  readRecords := readRecords
  writeRecords := writeRecords

end SwitchBank

end Interlock
