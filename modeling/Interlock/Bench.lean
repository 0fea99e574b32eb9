import Interlock.Panel
import Interlock.Pin.Bank
import Interlock.Switch.Bank
import Interlock.Trace

namespace Interlock

/-- A workbench for one module: pins, switches and a panel, all held in memory. -/
structure Bench where
  pins : PinBank
  switches : SwitchBank := {}
  panel : StubPanel := {}
  deriving Inhabited

namespace Bench

/-- A bench with the given inputs and outputs, all low, and switches in the
    given states. -/
def ofParts (inputs outputs : List String) (switches : List (String × Bool)) (panel : StubPanel) :
    Bench where
  pins := PinBank.ofNames inputs outputs
  switches := switches.foldl (fun bank (name, on) => bank.place name on) {}
  panel

/-- Changes the pin of a name; there may be none. -/
def onPin? (b : Bench) (name : String) (change : PinBank → PinBank) : Option Bench :=
  if b.pins.pins.contains name then some { b with pins := change b.pins } else none

/-- Moves the physical level of a pin. -/
def setPin? (b : Bench) (name : String) (level : Bool) : Option Bench :=
  b.onPin? name fun pins => pins.setLevel name level

/-- Breaks or repairs the reads and writes of a pin. -/
def breakPin? (b : Bench) (name : String) (reads writes : Bool) : Option Bench :=
  b.onPin? name fun pins => pins.refuse name reads writes

/-- Moves a switch by hand, which registers it if necessary. -/
def setSwitch (b : Bench) (name : String) (on : Bool) : Traced Bench :=
  ⟨{ b with switches := b.switches.place name on }, { records := b.switches.changeRecords name on }⟩

/-- Breaks or repairs the reads and writes of a switch. -/
def breakSwitch (b : Bench) (name : String) (reads writes : Bool) : Bench :=
  { b with switches := b.switches.refuse name reads writes }

end Bench

end Interlock
