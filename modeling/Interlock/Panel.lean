import Interlock.Log

namespace Interlock

/-- The operator panel as the modules see it. -/
class Panel (π : Type) where
  /-- The menu on the panel, if a menu is shown. -/
  currentMenu : π → Option String
  showMenu : String → π → π
  /-- Lights the fault indicator, or the one for normal work. -/
  setFaultIndicator : Bool → π → π
  /-- What showing a menu writes to the log. -/
  showRecords : String → List LogRecord

/-- A panel without a menu of its own. It reports a given menu as shown, and
    takes over the menus it is asked to show when it is `sticky`. -/
structure StubPanel where
  showing : Option String := none
  sticky : Bool := false
  deriving DecidableEq, Inhabited

instance : Panel StubPanel where
  currentMenu p := p.showing
  showMenu path p := if p.sticky then { p with showing := some path } else p
  setFaultIndicator _ p := p
  showRecords _ := []

end Interlock
