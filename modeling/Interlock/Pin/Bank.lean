import Interlock.Pin.Access
import Interlock.Registry

namespace Interlock

/-- Which way a pin is used. -/
inductive PinDirection where
  | input
  | output
  deriving DecidableEq, Inhabited

/-- A pin with its level. A broken pin refuses to be read or written. -/
structure Pin where
  direction : PinDirection
  level : Bool := false
  refusesRead : Bool := false
  refusesWrite : Bool := false
  deriving DecidableEq, Inhabited

/-- The pins of a board, held in memory. -/
structure PinBank where
  pins : Registry Pin := {}
  deriving Inhabited

namespace PinBank

/-- Registers a pin; an earlier one of the same name is replaced. -/
def register (b : PinBank) (name : String) (direction : PinDirection) (level : Bool := false) :
    PinBank :=
  ⟨b.pins.insert name { direction, level }⟩

/-- A bank of inputs and outputs, all low; of one name the last registration
    counts, and the outputs come last. -/
def ofNames (inputs outputs : List String) : PinBank :=
  let withInputs := inputs.foldl (fun b name => b.register name .input) {}
  outputs.foldl (fun b name => b.register name .output) withInputs

/-- What the registration of a pin writes to the log. -/
def registerRecord (name : String) : PinDirection → LogRecord
  | .input => ⟨.debug, s!"gpio: {name} input"⟩
  | .output => ⟨.debug, s!"gpio: {name} output"⟩

/-- Moves the physical level of a pin, whatever its direction is. -/
def setLevel (b : PinBank) (name : String) (level : Bool) : PinBank :=
  ⟨b.pins.modify name fun pin => { pin with level }⟩

/-- Sets or lifts the refusal of reads and writes of a pin. -/
def refuse (b : PinBank) (name : String) (reads writes : Bool) : PinBank :=
  ⟨b.pins.modify name fun pin => { pin with refusesRead := reads, refusesWrite := writes }⟩

/-- An output reads as the level that it was last driven to. -/
def read (b : PinBank) (name : String) : Except AccessFailure Bool :=
  match b.pins.find? name with
  | none => .error .pinRead
  | some pin => if pin.refusesRead then .error .pinRead else .ok pin.level

/-- Only outputs can be driven. -/
def write (b : PinBank) (name : String) (level : Bool) : Except AccessFailure PinBank :=
  match b.pins.find? name with
  | none => .error .pinWrite
  | some pin =>
    if pin.direction == .input || pin.refusesWrite then .error .pinWrite
    else .ok (b.setLevel name level)

/-- A read of a pin that is not on the board is reported. -/
def readRecords (b : PinBank) (name : String) : List LogRecord :=
  if b.pins.contains name then [] else [⟨.warn, s!"gpio: read of unknown pin {name}"⟩]

/-- A write to a pin that is not on the board is reported. -/
def writeRecords (b : PinBank) (name : String) : List LogRecord :=
  if b.pins.contains name then [] else [⟨.warn, s!"gpio: write to unknown pin {name}"⟩]

instance : PinAccess PinBank where
  read := read
  write := write
  isConnected b name := b.pins.contains name
  readRecords := readRecords
  writeRecords := writeRecords

end PinBank

end Interlock
