import Interlock.Menu.Card
import Interlock.Menu.Condition

namespace Interlock.Menu

/-- What clicking a line does. -/
inductive Action where
  /-- Enters another menu. -/
  | gotoMenu (path : String)
  /-- Sends a command, with the selected file after it. -/
  | runCommand (command : String)
  /-- Leaves the menu for the watch screen. -/
  | gotoWatch
  /-- Lets the operator choose a job file, then enters a menu. -/
  | fileSelect (start returnMenu : String)
  /-- Asks the cutting process for the state of a number. -/
  | setState (raw : Nat)
  deriving DecidableEq, Inhabited

/-- A menu line. `expected` gives the value that a condition has to have for the
    line to be shown; conditions without one do not matter. -/
structure Line where
  label : String := ""
  isTitle : Bool := false
  selectable : Bool := true
  expected : Condition → Option Bool := fun _ => none
  action : Option Action := none
  deriving Inhabited

namespace Line

/-- The value of a condition: the selection decides about job files, the machine
    about the rest. -/
def actual (flags : MachineFlags) (selected : Option String) : Condition → Bool
  | .fileIsGcode => selected.elim false isJobName
  | c => flags.holds c

/-- Whether all conditions of the line hold. -/
def isEligible (line : Line) (flags : MachineFlags) (selected : Option String) : Bool :=
  Condition.all.all fun c => (line.expected c).elim true (actual flags selected c == ·)

end Line

end Interlock.Menu
