import Interlock.Proofs.Console.Resume
import Interlock.Proofs.Controller.Lights
import Interlock.Proofs.Menu.Move

namespace Interlock

open Interlock.Menu

theorem Menu.Navigator.takeAll_eq_moveAll (n : Navigator) (calls : List PanelCall) :
    Panel.takeAll n calls = n.moveAll (calls.map .called) := by
  rw [Panel.takeAll, Navigator.moveAll, List.foldl_map]
  rfl

/-- A timer touches the panel by calls alone. The second panel is not read off
    the trace, since only its being reached by calls is used. -/
theorem SwitchTimer.exists_calls_tick {σ π : Type} [SwitchAccess σ] [Panel π] (t : SwitchTimer)
    (switches : σ) (panel : π) :
    ∃ calls, (t.tick switches panel).value.2.2 = Panel.takeAll panel calls := by
  have hnotify (act : Actuation) :
      ∃ calls, (t.notify act panel).value = Panel.takeAll panel calls := by
    unfold notify
    split
    · rename_i menu _ _
      exact ⟨[.showMenu menu], rfl⟩
    · exact ⟨[], rfl⟩
  unfold tick
  split
  · exact ⟨[], rfl⟩
  · simp only [Traced.value_bind]
    split
    · exact ⟨[], rfl⟩
    · exact hnotify _

namespace Controller

section

variable {σ : Type} [SwitchAccess σ]

/-- A second of all timers makes calls to the panel, those of each timer behind
    those of the earlier ones. -/
theorem exists_calls_tickTimers {π : Type} [Panel π] (timers : List SwitchTimer) (switches : σ)
    (panel : π) :
    ∃ calls, (tickTimers timers switches panel).value.2.2 = Panel.takeAll panel calls := by
  induction timers generalizing switches panel with
  | nil => exact ⟨[], rfl⟩
  | cons timer rest ih =>
    obtain ⟨first, hfirst⟩ := timer.exists_calls_tick switches panel
    obtain ⟨later, hlater⟩ := ih (timer.tick switches panel).value.2.1
      (timer.tick switches panel).value.2.2
    refine ⟨first ++ later, ?_⟩
    rw [Panel.takeAll_append, ← hfirst, ← hlater]
    rfl

/-- A module whose step makes the calls of its trace makes some if it is there,
    and none if it is absent. -/
theorem exists_calls_onModule {α π : Type} [Panel π] {step : α → π → Traced (α × π)}
    (hstep : ∀ a panel, (step a panel).value.2 = Panel.takeAll panel (step a panel).trace.panel)
    (module : Option α) (panel : π) :
    ∃ calls, (onModule step module panel).value.2 = Panel.takeAll panel calls := by
  cases module with
  | none => exact ⟨[], rfl⟩
  | some a => exact ⟨_, hstep a panel⟩

/-- In a second the modules make calls to the panel, and the menus change in no
    other way. -/
theorem exists_calls_tick (c : Controller) (switches : σ) :
    ∃ calls, (c.tick switches).value.1.navigator = Panel.takeAll c.navigator calls := by
  let timers := tickTimers c.timers switches c.navigator
  let tank := onModule WaterTank.tick c.tank timers.value.2.2
  let jet := onModule WaterJet.tick c.jet tank.value.2
  obtain ⟨timerCalls, htimers⟩ := exists_calls_tickTimers c.timers switches c.navigator
  obtain ⟨tankCalls, htank⟩ :=
    exists_calls_onModule (fun tank panel => tank.takeAll_tick panel) c.tank timers.value.2.2
  obtain ⟨jetCalls, hjet⟩ :=
    exists_calls_onModule (fun jet panel => jet.takeAll_tick panel) c.jet tank.value.2
  refine ⟨timerCalls ++ tankCalls ++ jetCalls, ?_⟩
  rw [Panel.takeAll_append, Panel.takeAll_append, ← htimers, ← htank, ← hjet]
  rfl

end

/-- A click moves the navigator; a state that it asks for does not. -/
theorem navigator_click (c : Controller) (line : Nat) (card : Card) (flags : MachineFlags) :
    (c.click line card flags).value.1.navigator = (c.navigator.click line card flags).value.1 := by
  unfold Controller.click
  generalize c.navigator.click line card flags = clicked
  simp only [Traced.value_bind]
  split
  · unfold requestState
    split <;> rfl
  · rfl

/-- In any use the navigator makes the moves of a navigator: those of the
    operator, and calls of the modules. -/
theorem exists_moves_use (c : Controller) (u : Use) :
    ∃ moves, (c.use u).value.navigator = c.navigator.moveAll moves := by
  cases u with
  | poll pins => exact ⟨[], rfl⟩
  | tick switches =>
    obtain ⟨calls, hcalls⟩ := c.exists_calls_tick switches
    rw [use_tick]
    exact ⟨_, hcalls.trans (c.navigator.takeAll_eq_moveAll calls)⟩
  | drive pins =>
    rw [use_drive]
    exact ⟨[], rfl⟩
  | line text =>
    rw [use_line]
    dsimp only
    rw [navigator_handleLine]
    exact ⟨[], rfl⟩
  | openMenu =>
    rw [use_openMenu]
    dsimp only
    exact ⟨[.openRoot], rfl⟩
  | scroll delta card flags =>
    rw [use_scroll]
    exact ⟨[.scroll delta card flags], rfl⟩
  | click place card flags =>
    rw [use_click]
    exact ⟨[.click place card flags], c.navigator_click place card flags⟩

theorem exists_moves_useAll (c : Controller) (uses : List Use) :
    ∃ moves, (c.useAll uses).value.navigator = c.navigator.moveAll moves := by
  induction uses generalizing c with
  | nil => exact ⟨[], rfl⟩
  | cons u uses ih =>
    obtain ⟨first, hfirst⟩ := c.exists_moves_use u
    obtain ⟨later, hlater⟩ := ih (c.use u).value
    refine ⟨first ++ later, ?_⟩
    rw [Navigator.moveAll_append, ← hfirst, ← hlater]
    rfl

theorem navigator_build {ι : Type} [PinAccess ι] (s : Settings) (pins : ι) :
    (build s pins).value.navigator = .ofRoot s.panel.menuRoot s.panel.language := rfl

/-- What is selected is a job file, in every run: nothing is selected at first,
    and of the moves of a navigator only one selects anything. -/
theorem isJobName_of_useAll {ι : Type} [PinAccess ι] {s : Settings} {pins : ι} {uses : List Use}
    {chosen : Selection}
    (hchosen : ((build s pins).value.useAll uses).value.navigator.selection = some chosen) :
    isJobName chosen.path = true := by
  obtain ⟨moves, hmoves⟩ := (build s pins).value.exists_moves_useAll uses
  rw [hmoves, navigator_build] at hchosen
  refine Navigator.isJobName_of_moveAll (fun {chosen} hnew => ?_) hchosen
  have hnone : none = some chosen := hnew
  cases hnone

end Controller

end Interlock
