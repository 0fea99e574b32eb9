namespace Interlock.Menu

/-- A condition of the machine that a menu line may depend on. -/
inductive Condition where
  | playing
  | halted
  | suspended
  /-- A job file is selected in the menu. -/
  | fileIsGcode
  | extruder
  | temperatureControl
  | laser
  | cnc
  deriving DecidableEq, Inhabited

namespace Condition

def all : List Condition :=
  [playing, halted, suspended, fileIsGcode, extruder, temperatureControl, laser, cnc]

/-- The name of a condition in definitions and on the console. -/
def name : Condition → String
  | playing => "playing"
  | halted => "halted"
  | suspended => "suspended"
  | fileIsGcode => "file-is-gcode"
  | extruder => "extruder"
  | temperatureControl => "temperature-control"
  | laser => "laser"
  | cnc => "cnc"

/-- The condition with a name. -/
def ofName? (name : String) : Option Condition :=
  all.find? fun c => c.name == name

/-- The condition at a place in the order of the names. -/
def ofIndex? (index : Nat) : Option Condition :=
  all[index]?

/-- The text without one ending `-is`. -/
def stripIs (text : String) : String :=
  let cs := text.toList
  if cs.drop (cs.length - 3) == ['-', 'i', 's'] then String.ofList (cs.take (cs.length - 3))
  else text

/-- The condition that a directive names, where `-is` may follow the name. -/
def ofDirective? (text : String) : Option Condition :=
  ofName? (stripIs text)

end Condition

/-- Which conditions hold for the machine. -/
structure MachineFlags where
  holds : Condition → Bool := fun _ => false
  deriving Inhabited

namespace MachineFlags

/-- Sets one condition and leaves the others. -/
def set (flags : MachineFlags) (c : Condition) (value : Bool) : MachineFlags :=
  ⟨fun other => if other = c then value else flags.holds other⟩

end MachineFlags

end Interlock.Menu
