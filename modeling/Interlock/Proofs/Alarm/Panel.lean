import Interlock.Proofs.Alarm.Report

namespace Interlock

open Interlock.Menu

namespace PanelCall

/-- What calls to a panel set the fault indicator to last; `none` if they do not
    touch it. -/
def lit (calls : List PanelCall) : Option Bool :=
  (calls.filterMap fun
    | .faultIndicator on => some on
    | .showMenu _ => none).getLast?

@[simp] theorem lit_nil : lit [] = none := rfl

@[simp] theorem lit_faultIndicator (on : Bool) : lit [.faultIndicator on] = some on := rfl

@[simp] theorem lit_showMenu (path : String) : lit [.showMenu path] = none := rfl

@[simp] theorem lit_append (first second : List PanelCall) :
    lit (first ++ second) = (lit second).or (lit first) := by
  unfold lit
  rw [List.filterMap_append, List.getLast?_append]

end PanelCall

namespace Panel

variable {π : Type} [Panel π]

/-- The panel after a call. -/
def take (panel : π) : PanelCall → π
  | .showMenu path => Panel.showMenu path panel
  | .faultIndicator on => Panel.setFaultIndicator on panel

/-- The panel after several calls. -/
def takeAll (panel : π) (calls : List PanelCall) : π :=
  calls.foldl take panel

@[simp] theorem takeAll_nil (panel : π) : takeAll panel [] = panel := rfl

@[simp] theorem takeAll_append (panel : π) (first second : List PanelCall) :
    takeAll panel (first ++ second) = takeAll (takeAll panel first) second :=
  List.foldl_append

end Panel

namespace Escalator

variable {π : Type} [Panel π] (e : Escalator) (fault : LevelFault) (menu : String) (panel : π)

/-- The calls that light the fault indicator, or the one for normal work. An
    alarm lights it only where that differs from what it lit last, by its own
    note of it. -/
def lighting (e : Escalator) (on : Bool) : List PanelCall :=
  if e.indicator = some on then [] else [.faultIndicator on]

@[simp] theorem lit_lighting (on : Bool) :
    PanelCall.lit (e.lighting on) = if e.indicator = some on then none else some on := by
  unfold lighting
  split <;> rfl

@[simp] theorem calls_indicate (on : Bool) :
    (e.indicate on panel).trace.panel = e.lighting on := by
  unfold indicate lighting
  split <;> rfl

theorem panel_indicate (on : Bool) :
    (e.indicate on panel).value.2 = Panel.takeAll panel (e.indicate on panel).trace.panel := by
  unfold indicate
  split <;> rfl

@[simp] theorem calls_suspend : (e.suspend fault).trace.panel = [] := by
  unfold suspend
  split <;> rfl

/-- Whether a menu is on the panel already when its fault is raised. -/
def onScreen (e : Escalator) (menu : String) (panel : π) : Bool :=
  (Panel.currentMenu (e.indicate true panel).value.2).map trimDir = some (trimDir menu)

/-- A raised fault displays its menu unless that is on the panel, or must not be
    shown yet. -/
def displays (e : Escalator) (fault : LevelFault) (menu : String) (panel : π) : Bool :=
  !e.onScreen menu panel && e.mayShow fault

/-- What raising a fault does to the escalator and to the panel: the fault is
    indicated, and the time since a menu was shown starts over with every menu
    that is displayed. -/
theorem raise_display :
    let raised := e.raise fault menu panel
    raised.value.2.2.displayed = e.displays fault menu panel ∧
      raised.value.1 =
        { e with
          paused := true
          indicator := some true
          sinceShown := if e.displays fault menu panel then some 0 else e.sinceShown
          lastShown := if e.displays fault menu panel then some fault else e.lastShown } ∧
      raised.trace.panel =
        e.lighting true ++ (if e.displays fault menu panel then [.showMenu menu] else []) ∧
      raised.value.2.1 = Panel.takeAll panel raised.trace.panel := by
  intro raised
  -- The menu on the panel is looked at when the fault is indicated.
  have hpaused : (Escalator.indicate { e with paused := true } true panel).value.2 =
      (e.indicate true panel).value.2 := by
    unfold indicate
    split <;> rfl
  have hlit := e.panel_indicate panel true
  rw [calls_indicate] at hlit
  have hmay : Escalator.mayShow { e with paused := true, indicator := some true } fault =
      e.mayShow fault := rfl
  have hquiet : (decide ((Panel.currentMenu (e.indicate true panel).value.2).map trimDir =
      some (trimDir menu)) || !e.mayShow fault) = !e.displays fault menu panel := by
    rw [displays, Bool.not_and, Bool.not_not]
    rfl
  simp only [raised, raise, Traced.value_bind, Traced.trace_bind, escalator_indicate, value_suspend,
    hpaused, hmay, hquiet, Trace.panel_append, calls_suspend, calls_indicate]
  have hlighting : Escalator.lighting { e with paused := true } true = e.lighting true := rfl
  rw [hlighting]
  cases e.displays fault menu panel with
  | false => simp [hlit]
  | true =>
    simp [hlit, display]
    rfl

/-- Of the panel, a clean evaluation touches the indicator only: it shows no
    menu, and lights the indicator for normal work unless it is lit. -/
theorem allClear_indicator :
    let cleared := e.allClear panel
    cleared.value.1 = { e with lastShown := none, indicator := some false } ∧
      cleared.trace.panel = e.lighting false ∧
      cleared.value.2 = Panel.takeAll panel cleared.trace.panel :=
  ⟨escalator_indicate .., calls_indicate .., panel_indicate ..⟩

end Escalator

namespace Alarm

variable {π : Type} [Panel π] (a : Alarm) (fault : Option LevelFault) (panel : π)

/-- A report indicates whether there is a fault, unless the alarm indicated the
    same before. This needs nothing of the panel, which is asked about its menu
    alone. -/
theorem report_indicator :
    let done := a.report fault panel
    done.value.1.escalator.indicator = some fault.isSome ∧
      PanelCall.lit done.trace.panel =
        (if a.escalator.indicator = some fault.isSome then none else some fault.isSome) ∧
      done.value.2.1 = Panel.takeAll panel done.trace.panel := by
  intro done
  cases fault with
  | some fault =>
    obtain ⟨_, hescalator, hcalls, hpanel⟩ :=
      a.escalator.raise_display fault (a.menus.menuOf fault) panel
    have htrace : done.trace.panel =
        (a.escalator.raise fault (a.menus.menuOf fault) panel).trace.panel := by
      simp [done, report]
    refine ⟨?_, ?_, ?_⟩
    · simp [done, report, hescalator]
    · rw [htrace, hcalls, PanelCall.lit_append, Escalator.lit_lighting]
      cases a.escalator.displays fault (a.menus.menuOf fault) panel <;> rfl
    · rw [htrace]
      exact hpanel
  | none =>
    obtain ⟨hescalator, hcalls, hpanel⟩ := a.escalator.allClear_indicator panel
    have htrace : done.trace.panel = (a.escalator.allClear panel).trace.panel := by
      simp [done, report]
    refine ⟨?_, ?_, ?_⟩
    · simp [done, report, hescalator]
    · rw [htrace, hcalls, Escalator.lit_lighting]
      rfl
    · rw [htrace]
      exact hpanel

end Alarm

end Interlock
