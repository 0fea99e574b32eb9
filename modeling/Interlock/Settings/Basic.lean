import Interlock.Number.Single
import Interlock.Switch.Policy

namespace Interlock

open Interlock.Text Interlock.Number

/-- The pin name that stands for no pin. -/
def noPin : String := "nc"

/-- Whether a pin setting names a pin. -/
def namesPin (pin : String) : Bool :=
  pin ≠ "" && !sameFolded pin noPin

/-- The settings of a switch timer, with their defaults. -/
structure TimerSettings where
  name : String := "timer"
  enable : Bool := false
  /-- The switches of the timer, driven in order. -/
  switches : List SwitchBinding := []
  threshold : Single := Single.ofNat 50
  /-- `singleshot` or `multishot`. -/
  shot : String := "multishot"
  /-- `level`, `rising`, `falling` or `below`. -/
  trigger : String := "level"
  inverted : Bool := false
  /-- Zero for a timer that is always armed. -/
  armCode : Nat := 0
  disarmCode : Nat := 0
  /-- The menu that a single shot shows; empty for none. -/
  menu : String := ""
  deriving DecidableEq, Inhabited

/-- The settings of the water tank, with their defaults. -/
structure TankSettings where
  enable : Bool := false
  middleFloatPin : String := noPin
  highFloatPin : String := noPin
  dumpValvePin : String := noPin
  lowPressurePumpPin : String := noPin
  lowWaterMenu : String := ""
  highWaterMenu : String := ""
  filtersBlockedMenu : String := ""
  fillCycle : Nat := 3600
  filterCleaning : Nat := 7200
  tooLow : Nat := 655200
  deriving DecidableEq, Inhabited

/-- The settings of the cutter, with their defaults. -/
structure JetSettings where
  enable : Bool := false
  doorSwitchPin : String := "P2.12"
  middleFloatPin : String := "P1.28"
  highFloatPin : String := "P1.29"
  dumpValvePin : String := "P2.5"
  lowPressurePumpPin : String := "P2.7"
  highPressurePumpPin : String := "P1.22"
  lowWaterMenu : String := ""
  highWaterMenu : String := ""
  filtersBlockedMenu : String := ""
  fillCycle : Nat := 20
  filterCleaning : Nat := 40
  tooLow : Nat := 2400
  deriving DecidableEq, Inhabited

/-- The settings of the operator panel, with their defaults. -/
structure PanelSettings where
  /-- The directory of the root menu. -/
  menuRoot : String := "/sd/menu/main"
  /-- The language of the labels. -/
  language : String := "en"
  deriving DecidableEq, Inhabited

/-- The settings of the controller, with their defaults. -/
structure Settings where
  timers : List TimerSettings := []
  tank : TankSettings := {}
  jet : JetSettings := {}
  panel : PanelSettings := {}
  /-- Seconds between two displays of a fault menu. -/
  faultDelay : Nat := 20
  deriving DecidableEq, Inhabited

end Interlock
