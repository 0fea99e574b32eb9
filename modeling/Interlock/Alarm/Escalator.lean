import Interlock.Menu.Path
import Interlock.Number.Word
import Interlock.Panel
import Interlock.Text.Blank
import Interlock.Trace

namespace Interlock

open Interlock.Text Interlock.Menu

/-- Suspends the machine. -/
def suspendCommand : String := "M600"

/-- Resumes a suspended machine. -/
def resumeCommand : String := "M601"

/-- Whether a console line asks to resume. -/
def isResumeLine (line : String) : Bool :=
  sameFolded (trim line) "resume" || sameFolded (trim line) resumeCommand

/-- Brings the level faults of one module to the operator's notice. The first
    fault suspends the machine. The menu of a fault is shown at most once in
    `delay` seconds, and never while it is on the panel already; an overfull
    tank pushes the menu of any other fault aside. A pause lasts until the
    operator resumes, which does not clear the fault. -/
structure Escalator where
  owner : String
  delay : Nat
  /-- Seconds since a menu was last shown; `none` before the first. -/
  sinceShown : Option Nat := none
  lastShown : Option LevelFault := none
  paused : Bool := false
  /-- The last state given to the fault indicator. -/
  indicator : Option Bool := none
  deriving DecidableEq, Inhabited

/-- What raising a fault did. -/
structure Raised where
  suspended : Bool := false
  displayed : Bool := false
  deriving DecidableEq, Inhabited

namespace Escalator

/-- The seconds since a menu was shown stay at their greatest value once they
    are there. -/
def greatest : Nat := Number.Word.greatest32

/-- Counts one second. -/
def tick (e : Escalator) : Escalator :=
  { e with sinceShown := e.sinceShown.map fun s => min (s + 1) greatest }

/-- Whether the menu of a fault may be shown now: enough time has passed, or the
    tank is overfull and the last menu was that of another fault. -/
def mayShow (e : Escalator) (fault : LevelFault) : Bool :=
  e.sinceShown.elim true (e.delay < ·) ||
    (fault == .levelTooHigh && e.lastShown != some .levelTooHigh)

/-- Lights the fault indicator, or the one for normal work, unless it is lit
    already. -/
def indicate {π : Type} [Panel π] (e : Escalator) (fault : Bool) (panel : π) :
    Traced (Escalator × π) :=
  if e.indicator = some fault then ⟨(e, panel), {}⟩
  else
    ⟨({ e with indicator := some fault }, Panel.setFaultIndicator fault panel),
      { panel := [.faultIndicator fault] }⟩

/-- Suspends the machine unless it is paused. -/
def suspend (e : Escalator) (fault : LevelFault) : Traced Escalator := do
  if e.paused then return e
  else
    Traced.log [⟨.warn, s!"{e.owner}: {fault.message}, suspending"⟩]
    Traced.send [suspendCommand]
    return { e with paused := true }

/-- Shows the menu of a fault. -/
def display {π : Type} [Panel π] (e : Escalator) (fault : LevelFault) (menu : String) (panel : π) :
    Traced (Escalator × π) :=
  ⟨({ e with sinceShown := some 0, lastShown := some fault }, Panel.showMenu menu panel),
    { records := ⟨.info, s!"{e.owner}: showing fault menu {menu}"⟩ :: Panel.showRecords π menu
      panel := [.showMenu menu] }⟩

/-- Raises a fault whose menu is at the given path. The suspension and the fault
    indicator do not wait for the delay, which limits the menu alone. -/
def raise {π : Type} [Panel π] (e : Escalator) (fault : LevelFault) (menu : String) (panel : π) :
    Traced (Escalator × π × Raised) := do
  let suspended := !e.paused
  let e ← e.suspend fault
  let (e, panel) ← e.indicate true panel
  if (Panel.currentMenu panel).map trimDir = some (trimDir menu) || !e.mayShow fault then
    return (e, panel, { suspended })
  else
    let (e, panel) ← e.display fault menu panel
    return (e, panel, { suspended, displayed := true })

/-- Takes note of an evaluation without a fault. -/
def allClear {π : Type} [Panel π] (e : Escalator) (panel : π) : Traced (Escalator × π) :=
  indicate { e with lastShown := none } false panel

/-- The operator resumed. -/
def resume (e : Escalator) : Escalator :=
  { e with paused := false }

/-- Resuming is logged only by an escalator that was paused. -/
def resumeRecords (e : Escalator) : List LogRecord :=
  if e.paused then [⟨.info, s!"{e.owner}: resumed"⟩] else []

/-- Marks the machine as paused without a fault. -/
def markPaused (e : Escalator) : Escalator :=
  { e with paused := true }

end Escalator

end Interlock
