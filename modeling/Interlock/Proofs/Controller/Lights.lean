import Interlock.Proofs.Controller.Feedback
import Interlock.Proofs.Jet.Told
import Interlock.Proofs.Menu.Lights
import Interlock.Proofs.Tank.Verdict

namespace Interlock

open Interlock.Menu

namespace SwitchTimer

/-- The events of a timer are its own: they report no fault of any module. -/
theorem Step.reports_eq {t after : SwitchTimer} {events : List Event}
    (hstep : Step t after events) (source : String) : Event.reports source events = [] := by
  cases hstep with
  | moved =>
    rw [Event.reports_append]
    split_ifs <;> rfl
  | _ => rfl

/-- A timer shows menus at most, and leaves the lights. -/
theorem lights_tick {σ : Type} [SwitchAccess σ] (t : SwitchTimer) (switches : σ) (n : Navigator) :
    (t.tick switches n).value.2.2.lights = n.lights := by
  have hnotify (act : Actuation) : (t.notify act n).value.lights = n.lights := by
    unfold notify
    split
    · exact n.lights_showMenu _
    · rfl
  unfold tick
  split
  · rfl
  · simp only [Traced.value_bind]
    split
    · rfl
    · exact hnotify _

end SwitchTimer

namespace Controller

/-- What the surroundings may do with a controller. -/
inductive Use : Type 1 where
  | poll {ι : Type} [PinAccess ι] (pins : ι)
  | tick {σ : Type} [SwitchAccess σ] (switches : σ)
  | drive {ι : Type} [PinAccess ι] (pins : ι)
  | line (text : String)
  | openMenu
  | scroll (delta : Int) (card : Card) (flags : MachineFlags)
  | click (place : Nat) (card : Card) (flags : MachineFlags)

/-- The controller after a use, with what the use did to the outside. -/
def use (c : Controller) : Use → Traced Controller
  | @Use.poll _ _ pins => c.poll pins
  | @Use.tick _ _ switches => do
    let (c, _) ← c.tick switches
    return c
  | @Use.drive _ _ pins => do
    let (c, _) ← c.drive pins
    return c
  | .line text => do
    let (c, _) ← c.handleLine text
    return c
  | .openMenu => c.openMenu
  | .scroll delta card flags => do
    let (c, _) ← c.scroll delta card flags
    return c
  | .click place card flags => do
    let (c, _) ← c.click place card flags
    return c

/-- The controller after a run. -/
def useAll (c : Controller) : List Use → Traced Controller
  | [] => pure c
  | u :: uses => do
    let c ← c.use u
    c.useAll uses

section

variable {σ ι : Type} [SwitchAccess σ] [PinAccess ι] (c : Controller)

theorem use_tick (switches : σ) :
    c.use (.tick switches) = ⟨(c.tick switches).value.1, (c.tick switches).trace⟩ :=
  bind_fst (c.tick switches)

theorem use_drive (pins : ι) :
    c.use (.drive pins) = ⟨(c.drive pins).value.1, (c.drive pins).trace⟩ :=
  bind_fst (c.drive pins)

theorem use_line (text : String) :
    c.use (.line text) = ⟨(c.handleLine text).value.1, (c.handleLine text).trace⟩ :=
  bind_fst (c.handleLine text)

theorem use_openMenu :
    c.use .openMenu =
      ⟨{ c with navigator := c.navigator.showMenu c.navigator.root },
        c.navigator.openRoot.trace ++ {}⟩ := rfl

theorem use_scroll (delta : Int) (card : Card) (flags : MachineFlags) :
    c.use (.scroll delta card flags) =
      ⟨(c.scroll delta card flags).value.1, (c.scroll delta card flags).trace⟩ :=
  bind_fst (c.scroll delta card flags)

theorem use_click (place : Nat) (card : Card) (flags : MachineFlags) :
    c.use (.click place card flags) =
      ⟨(c.click place card flags).value.1, (c.click place card flags).trace⟩ :=
  bind_fst (c.click place card flags)

end

/-- The operation of the cutter that a use comes to, with whatever panel and
    pins the other modules left to it. Browsing comes to none, unless a line of
    a menu asks for a state. -/
inductive HandsOn : Use → Option WaterJet.Operation → Prop where
  | poll {ι : Type} [PinAccess ι] (pins : ι) : HandsOn (.poll pins) (some (.poll pins))
  | tick {σ : Type} [SwitchAccess σ] (switches : σ) (panel : Navigator) :
      HandsOn (.tick switches) (some (.tick panel))
  | drive {ι : Type} [PinAccess ι] (pins jetPins : ι) :
      HandsOn (.drive pins) (some (.drive jetPins))
  | command {text : String} {code : Nat} {rest : String}
      (hline : ConsoleCommand.parse text = .code code rest) :
      HandsOn (.line text) (some (.command code))
  | resume {text : String} (hline : ConsoleCommand.parse text = .resume) :
      HandsOn (.line text) (some .resume)
  | ignored {text line : String} (hline : ConsoleCommand.parse text = .unknown line) :
      HandsOn (.line text) none
  | openMenu : HandsOn .openMenu none
  | scroll (delta : Int) (card : Card) (flags : MachineFlags) :
      HandsOn (.scroll delta card flags) none
  | click (place : Nat) (card : Card) (flags : MachineFlags) :
      HandsOn (.click place card flags) none
  | request (place : Nat) (card : Card) (flags : MachineFlags) (raw : Nat) :
      HandsOn (.click place card flags) (some (.requestState raw))

/-- Of the cutter a use makes what the operation makes that it comes to. It is
    claimed of any controller, so of one without a cutter too. -/
theorem jet_use (c : Controller) (u : Use) :
    ∃ op, HandsOn u op ∧
      (c.use u).value.jet = c.jet.map fun j => op.elim j fun op => (j.perform op).value := by
  have hsame : c.jet = c.jet.map fun j => j := Option.map_id'.symm
  cases u with
  | poll pins => exact ⟨_, .poll pins, (c.value_poll pins).2⟩
  | tick switches =>
    obtain ⟨_, jetPanel, _, hjet, _⟩ := c.tick_spec switches
    rw [use_tick]
    exact ⟨_, .tick switches jetPanel, hjet⟩
  | drive pins =>
    obtain ⟨_, ⟨jetPins, hjet⟩, _⟩ := c.drive_spec pins
    rw [use_drive]
    exact ⟨_, .drive pins jetPins, hjet⟩
  | line text =>
    rw [use_line]
    unfold handleLine
    cases hline : ConsoleCommand.parse text with
    | resume => exact ⟨_, .resume hline, c.value_resume.2.1⟩
    | code code rest => exact ⟨_, .command hline, (c.value_command code).2⟩
    | unknown line => exact ⟨_, .ignored hline, hsame⟩
  | openMenu =>
    rw [use_openMenu]
    exact ⟨_, .openMenu, hsame⟩
  | scroll delta card flags =>
    rw [use_scroll]
    exact ⟨_, .scroll delta card flags, hsame⟩
  | click place card flags =>
    rw [use_click]
    unfold Controller.click
    generalize c.navigator.click place card flags = clicked
    simp only [Traced.value_bind]
    split
    · rename_i raw _
      exact ⟨_, .request place card flags raw, (value_requestState _ raw).2⟩
    · exact ⟨_, .click place card flags, hsame⟩

/-- The use is a second of the modules. -/
def Use.IsSecond : Use → Prop
  | @tick _ _ _ => True
  | _ => False

/-- A use of the controller together with all that it did to the outside so far. -/
def record (state : Controller × Trace) (u : Use) : Controller × Trace :=
  ((state.1.use u).value, state.2 ++ (state.1.use u).trace)

/-- A run is its uses one after the other, each recorded behind the past. -/
theorem foldl_record (c : Controller) (past : Trace) (uses : List Use) :
    uses.foldl record (c, past) = ((c.useAll uses).value, past ++ (c.useAll uses).trace) := by
  induction uses generalizing c past with
  | nil => simp [useAll]
  | cons u uses ih =>
    rw [List.foldl_cons, record, ih]
    simp [useAll, Trace.append_assoc]

/-- The alarm of a module. For one that is absent it is an alarm that is never
    told of anything. -/
def alarmOf {α : Type} (owner : String) (alarm : α → Alarm) (module : Option α) : Alarm :=
  module.elim { escalator := { owner, delay := 0 }, menus := default } alarm

/-- The alarm of the tank. -/
def tankAlarm (c : Controller) : Alarm :=
  alarmOf WaterTank.owner WaterTank.alarm c.tank

/-- The alarm of the cutter. -/
def jetAlarm (c : Controller) : Alarm :=
  alarmOf WaterJet.owner WaterJet.alarm c.jet

/-- The finding that the tank reports in a use. -/
def tankTold (c : Controller) : Use → Option (Option LevelFault)
  | @Use.tick _ _ _ => c.tank.bind fun tank => if tank.enabled then some tank.fault? else none
  | _ => none

/-- The finding that the cutter reports in a use. -/
def jetTold (c : Controller) : Use → Option (Option LevelFault)
  | @Use.tick _ _ _ => c.jet.bind WaterJet.told
  | _ => none

/-- The modules report the given findings. The lights follow the cutter's report
    where that lights anything, else that of the tank. -/
structure Tells (c after : Controller) (done : Trace) (tank jet : Option (Option LevelFault)) :
    Prop where
  tank_notes : c.tankAlarm.Notes after.tankAlarm tank
  jet_notes : c.jetAlarm.Notes after.jetAlarm jet
  tank_news : Event.reports WaterTank.owner done.events = c.tankAlarm.news tank
  jet_news : Event.reports WaterJet.owner done.events = c.jetAlarm.news jet
  lights_eq : after.navigator.lights =
    ((c.jetAlarm.lights jet).or (c.tankAlarm.lights tank)).elim c.navigator.lights
      fun on => ⟨on, !on⟩

section

variable {σ ι : Type} [SwitchAccess σ] [PinAccess ι]

/-- A second of the timers reports no fault. -/
theorem reports_tickTimers {π : Type} [Panel π] (source : String) (timers : List SwitchTimer)
    (switches : σ) (panel : π) :
    Event.reports source (tickTimers timers switches panel).trace.events = [] := by
  induction timers generalizing switches panel with
  | nil => rfl
  | cons timer rest ih =>
    have hfirst := (timer.step_tick switches panel).reports_eq source
    simp [tickTimers, hfirst, ih]

/-- A second of the timers leaves the lights. -/
theorem lights_tickTimers (timers : List SwitchTimer) (switches : σ) (n : Navigator) :
    (tickTimers timers switches n).value.2.2.lights = n.lights := by
  induction timers generalizing switches n with
  | nil => rfl
  | cons timer rest ih =>
    simp only [tickTimers, Traced.value_bind, Traced.value_pure]
    rw [ih, timer.lights_tick]

/-- A module that may be absent tells what the module tells. An absent one has
    an alarm that is never told of anything, so nothing is asked of it. -/
theorem tells_onModule {α : Type} (owner : String) (alarm : α → Alarm)
    (told : α → Option (Option LevelFault)) (step : α → Navigator → Traced (α × Navigator))
    (module : Option α) (n : Navigator)
    (htells : ∀ a, module = some a →
      (alarm a).Tells (alarm (step a n).value.1) (step a n).trace (told a) ∧
        (step a n).value.2 = Panel.takeAll n (step a n).trace.panel) :
    let done := onModule step module n
    (alarmOf owner alarm module).Tells (alarmOf owner alarm done.value.1) done.trace
        (module.bind told) ∧
      done.value.2 = Panel.takeAll n done.trace.panel := by
  cases module with
  | none => exact ⟨Alarm.tells_nothing ⟨rfl, rfl, rfl⟩ rfl fun _ => rfl, rfl⟩
  | some a =>
    obtain ⟨hstep, hpanel⟩ := htells a rfl
    have htrace : (onModule step (some a) n).trace = (step a n).trace :=
      (step a n).trace.append_empty
    dsimp only
    rw [htrace]
    exact ⟨hstep, hpanel⟩

/-- In a second the tank tells its finding and then the cutter. Both light the
    same indicator, so the cutter's light stands where it lights anything. The
    owners have to be the two modules, as a report is told apart by its owner
    alone. -/
theorem Settled.tells_tick {c : Controller} (hsettled : c.Settled)
    (htankOwner : c.tankAlarm.escalator.owner = WaterTank.owner)
    (hjetOwner : c.jetAlarm.escalator.owner = WaterJet.owner) (switches : σ) :
    c.Tells (c.tick switches).value.1 (c.tick switches).trace (c.tankTold (.tick switches))
      (c.jetTold (.tick switches)) := by
  let timers := tickTimers c.timers switches c.navigator
  let tank := onModule WaterTank.tick c.tank timers.value.2.2
  let jet := onModule WaterJet.tick c.jet tank.value.2
  obtain ⟨htank, htankPanel⟩ :
      c.tankAlarm.Tells (c.tick switches).value.1.tankAlarm tank.trace
          (c.tankTold (.tick switches)) ∧
        tank.value.2 = Panel.takeAll timers.value.2.2 tank.trace.panel :=
    tells_onModule _ _ _ _ _ _ fun tank _ => ⟨tank.tells_tick _, tank.takeAll_tick _⟩
  obtain ⟨hjet, hjetPanel⟩ :
      c.jetAlarm.Tells (c.tick switches).value.1.jetAlarm jet.trace (c.jetTold (.tick switches)) ∧
        jet.value.2 = Panel.takeAll tank.value.2 jet.trace.panel :=
    tells_onModule _ _ _ _ _ _ fun jet hmodule =>
      ⟨(hsettled jet hmodule).tells_tick _, jet.takeAll_tick _⟩
  have hreports (source : String) : Event.reports source (c.tick switches).trace.events =
      Event.reports source tank.trace.events ++ Event.reports source jet.trace.events := by
    have hevents : (c.tick switches).trace.events =
        timers.trace.events ++ (tank.trace.events ++ (jet.trace.events ++ [])) := rfl
    rw [hevents, Event.reports_append, reports_tickTimers, List.append_nil, List.nil_append,
      Event.reports_append]
  have hlights : (c.tick switches).value.1.navigator.lights = jet.value.2.lights := rfl
  have hother : WaterTank.owner ≠ WaterJet.owner := by decide
  refine ⟨htank.toNotes, hjet.toNotes, ?_, ?_, ?_⟩
  · rw [hreports, htank.reports_eq, hjet.reports_eq, htankOwner, hjetOwner, if_pos rfl,
      if_neg hother, List.append_nil]
  · rw [hreports, htank.reports_eq, hjet.reports_eq, htankOwner, hjetOwner, if_pos rfl,
      if_neg hother.symm, List.nil_append]
  · rw [hlights, hjetPanel, Navigator.lights_takeAll, hjet.lit_eq, htankPanel,
      Navigator.lights_takeAll, htank.lit_eq, lights_tickTimers]
    cases c.jetAlarm.lights (c.jetTold (.tick switches)) <;> rfl

end

/-- A use that changes no notes and no lights, and reports no fault, tells
    nothing. The notes of the cutter need be kept only by settled cutters, and
    the one at hand is. -/
theorem Settled.tells_nothing {c after : Controller} (hsettled : c.Settled) {done : Trace}
    {f : WaterTank → WaterTank} {g : WaterJet → WaterJet} (htank : after.tank = c.tank.map f)
    (hjet : after.jet = c.jet.map g) (htankNotes : ∀ t : WaterTank, t.alarm.Notes (f t).alarm none)
    (hjetNotes : ∀ j : WaterJet, j.Settled → j.alarm.Notes (g j).alarm none)
    (hreports : ∀ source, Event.reports source done.events = [])
    (hlights : after.navigator.lights = c.navigator.lights) : c.Tells after done none none where
  tank_notes := by
    unfold tankAlarm
    rw [htank]
    cases c.tank with
    | none => exact ⟨rfl, rfl, rfl⟩
    | some tank => exact htankNotes tank
  jet_notes := by
    unfold jetAlarm
    rw [hjet]
    cases hmodule : c.jet with
    | none => exact ⟨rfl, rfl, rfl⟩
    | some jet => exact hjetNotes jet (hsettled jet hmodule)
  tank_news := hreports _
  jet_news := hreports _
  lights_eq := hlights

section

variable {ι : Type} [PinAccess ι]

/-- Reading the inputs reports no fault. -/
theorem reports_poll (source : String) (c : Controller) (pins : ι) :
    Event.reports source (c.poll pins).trace.events = [] := by
  have hmap {α : Type} (step : α → Traced α)
      (hstep : ∀ a, Event.reports source (step a).trace.events = []) (module : Option α) :
      Event.reports source (module.mapM step).trace.events = [] := by
    cases module with
    | none => rfl
    | some a =>
      have htrace : ((some a).mapM step).trace = (step a).trace ++ {} := rfl
      rw [htrace, Trace.append_empty, hstep]
  have htank := hmap (fun tank : WaterTank => tank.poll pins)
    (fun tank => (tank.tells_poll pins).quiet source) c.tank
  have hjet := hmap (fun jet : WaterJet => jet.poll pins)
    (fun jet => jet.reports_poll source pins) c.jet
  simp [poll, htank, hjet]

theorem reports_onModule {α β : Type} (source : String) {step : α → β → Traced (α × β)}
    (hstep : ∀ a b, Event.reports source (step a b).trace.events = []) (module : Option α) (b : β) :
    Event.reports source (onModule step module b).trace.events = [] := by
  cases module with
  | none => rfl
  | some a => simp [onModule, hstep]

/-- Driving the outputs reports no fault. -/
theorem reports_drive (source : String) (c : Controller) (pins : ι) :
    Event.reports source (c.drive pins).trace.events = [] := by
  have htank (tank : WaterTank) (pins : ι) :
      Event.reports source (tank.drive pins).trace.events = [] :=
    (tank.tells_drive pins).quiet source
  have hjet (jet : WaterJet) (pins : ι) :
      Event.reports source (jet.drive pins).trace.events = [] := jet.reports_drive source pins
  simp [drive, reports_onModule source htank, reports_onModule source hjet]

end

/-- A console line reports no fault. The events of commands and resumes are of
    other kinds. -/
theorem reports_handleLine (source : String) (c : Controller) (text : String) :
    Event.reports source (c.handleLine text).trace.events = [] := by
  have htimers (code : Nat) (timers : List SwitchTimer) :
      Event.reports source (commandTimers code timers).trace.events = [] := by
    induction timers with
    | nil => rfl
    | cons timer rest ih =>
      simp [commandTimers, (timer.step_command code).reports_eq source, ih]
  have htank (code : Nat) : Event.reports source (commandTank code c.tank).trace.events = [] := by
    cases c.tank with
    | none => rfl
    | some tank => simp [commandTank, (tank.tells_command code).quiet source]
  have hjet (code : Nat) : Event.reports source (commandJet code c.jet).trace.events = [] := by
    cases c.jet with
    | none => rfl
    | some jet => simp [commandJet, jet.reports_command source code]
  have hresume : Event.reports source c.resume.trace.events = [] := by
    have htank : (resumeModule WaterTank.resume c.tank).trace.events = [] := by
      cases c.tank <;> rfl
    have hjet : Event.reports source (resumeModule WaterJet.resume c.jet).trace.events = [] := by
      cases c.jet with
      | none => rfl
      | some jet => simp [resumeModule, jet.reports_resume source]
    simp only [resume, Traced.trace_bind, Trace.events_append, Event.reports_append, htank, hjet]
    split <;> rfl
  unfold handleLine
  split
  · exact hresume
  · simp [command, htimers, htank, hjet]
  · rfl

/-- A console line does not reach the menus. -/
theorem navigator_handleLine (c : Controller) (text : String) :
    (c.handleLine text).value.1.navigator = c.navigator := by
  unfold handleLine
  split
  · simp only [resume, Traced.value_bind]
    split <;> rfl
  · rfl
  · rfl

/-- A use that moves through the menus at most tells nothing, provided that it
    leaves the lights, which the navigator carries. -/
theorem Settled.tells_browse {c after : Controller} (hsettled : c.Settled)
    (htank : after.tank = c.tank) (hjet : after.jet = c.jet)
    (hlights : after.navigator.lights = c.navigator.lights) {done : Trace}
    (hreports : ∀ source, Event.reports source done.events = []) : c.Tells after done none none :=
  hsettled.tells_nothing (htank.trans Option.map_id_apply.symm)
    (hjet.trans Option.map_id_apply.symm) (fun _ => ⟨rfl, rfl, rfl⟩)
    (fun _ _ => ⟨rfl, rfl, rfl⟩) hreports hlights

/-- A console line tells nothing: it may resume the modules, but a pause is none
    of the notes. -/
theorem Settled.tells_line {c : Controller} (hsettled : c.Settled) (text : String) :
    c.Tells (c.handleLine text).value.1 (c.handleLine text).trace none none := by
  have hlights : (c.handleLine text).value.1.navigator.lights = c.navigator.lights := by
    rw [navigator_handleLine]
  have hreports (source : String) := c.reports_handleLine source text
  cases hparse : ConsoleCommand.parse text with
  | resume =>
    have hvalue : (c.handleLine text).value = c.resume.value := by
      unfold handleLine
      rw [hparse]
    rw [hvalue] at hlights ⊢
    exact hsettled.tells_nothing c.value_resume.1 c.value_resume.2.1
      (fun tank => tank.tells_resume.toNotes) (fun jet _ => jet.notes_resume) hreports hlights
  | code code rest =>
    have hvalue : (c.handleLine text).value = (c.command code).value := by
      unfold handleLine
      rw [hparse]
    rw [hvalue] at hlights ⊢
    exact hsettled.tells_nothing (c.value_command code).1 (c.value_command code).2
      (fun tank => (tank.tells_command code).toNotes)
      (fun jet hjet => hjet.notes_command code) hreports hlights
  | unknown line =>
    have hvalue : (c.handleLine text).value.1 = c := by
      unfold handleLine
      rw [hparse]
    rw [hvalue]
    exact hsettled.tells_browse rfl rfl rfl hreports

/-- A request for a state reports no fault, even if it is for the state of one. -/
theorem reports_requestState (source : String) (c : Controller) (raw : Nat) :
    Event.reports source (c.requestState raw).trace.events = [] := by
  unfold requestState
  cases c.jet with
  | none => rfl
  | some jet => simp [WaterJet.requestState]

/-- A request for a state tells nothing. The state of a fault may be entered
    without the fault, and is reported in the next second at the earliest. -/
theorem Settled.tells_requestState {c : Controller} (hsettled : c.Settled) (raw : Nat) :
    c.Tells (c.requestState raw).value (c.requestState raw).trace none none := by
  have hlights : (c.requestState raw).value.navigator.lights = c.navigator.lights := by
    unfold requestState
    cases c.jet <;> rfl
  obtain ⟨htank, hjet⟩ := c.value_requestState raw
  exact hsettled.tells_nothing (htank.trans Option.map_id_apply.symm) hjet
    (fun _ => ⟨rfl, rfl, rfl⟩)
    (fun jet _ => jet.notes_goto _) (fun source => c.reports_requestState source raw) hlights

/-- Scrolling tells nothing. -/
theorem Settled.tells_scroll {c : Controller} (hsettled : c.Settled) (delta : Int) (card : Card)
    (flags : MachineFlags) :
    c.Tells (c.scroll delta card flags).value.1 (c.scroll delta card flags).trace none none := by
  have hlights := c.navigator.lights_scroll delta card flags
  have hevents := c.navigator.events_scroll delta card flags
  unfold Controller.scroll
  generalize c.navigator.scroll delta card flags = scrolled at hlights hevents ⊢
  refine hsettled.tells_browse (by rfl) (by rfl) hlights fun source => ?_
  simp [hevents]

/-- A click tells nothing, whether it moves through the menus or asks for a
    state. -/
theorem Settled.tells_click {c : Controller} (hsettled : c.Settled) (place : Nat) (card : Card)
    (flags : MachineFlags) :
    c.Tells (c.click place card flags).value.1 (c.click place card flags).trace none none := by
  have hlights := c.navigator.lights_click place card flags
  have hevents := c.navigator.events_click place card flags
  unfold Controller.click
  generalize c.navigator.click place card flags = clicked at hlights hevents ⊢
  obtain ⟨⟨n, result⟩, done⟩ := clicked
  have hbrowsed : Settled { c with navigator := n } := hsettled
  have hquiet (source : String) : Event.reports source done.events = [] := by
    dsimp only at hevents
    rw [hevents, Event.reports_nil]
  simp only [Traced.value_bind, Traced.trace_bind]
  split
  · rename_i raw
    obtain ⟨htank, hjet, _, _, hafter⟩ := hbrowsed.tells_requestState raw
    refine ⟨htank, hjet, (?_ : _ = []), (?_ : _ = []), hafter.trans hlights⟩ <;>
      simp [hquiet, reports_requestState]
  · refine hsettled.tells_browse (by rfl) (by rfl) hlights fun source => ?_
    simp [hquiet]

/-- Outside of the seconds no module reports a finding. The cases are the uses,
    each of which leaves the notes and the indicators of both modules alone. -/
theorem Settled.tells_quietly {c : Controller} (hsettled : c.Settled) {u : Use}
    (hother : ¬u.IsSecond) : c.Tells (c.use u).value (c.use u).trace none none := by
  cases u with
  | poll pins =>
    exact hsettled.tells_nothing (c.value_poll pins).1 (c.value_poll pins).2
      (fun tank => (tank.tells_poll pins).toNotes) (fun jet _ => jet.notes_poll pins)
      (fun source => c.reports_poll source pins) rfl
  | tick switches => exact absurd trivial hother
  | drive pins =>
    obtain ⟨htank, ⟨jetPins, hjet⟩, _⟩ := c.drive_spec pins
    rw [use_drive]
    exact hsettled.tells_nothing htank hjet (fun tank => (tank.tells_drive pins).toNotes)
      (fun _ _ => ⟨rfl, rfl, rfl⟩) (fun source => c.reports_drive source pins) rfl
  | line text =>
    rw [use_line]
    dsimp only
    exact hsettled.tells_line text
  | openMenu =>
    rw [use_openMenu]
    refine hsettled.tells_browse (by rfl) (by rfl) ?_ fun _ => by rfl
    exact c.navigator.lights_showMenu _
  | scroll delta card flags =>
    rw [use_scroll]
    dsimp only
    exact hsettled.tells_scroll delta card flags
  | click place card flags =>
    rw [use_click]
    dsimp only
    exact hsettled.tells_click place card flags

/-- What a use makes the modules report, and what it leaves of the lights. Only
    a second reports anything, and it names the module that does. -/
theorem Settled.tells_use {c : Controller} (hsettled : c.Settled)
    (htankOwner : c.tankAlarm.escalator.owner = WaterTank.owner)
    (hjetOwner : c.jetAlarm.escalator.owner = WaterJet.owner) (u : Use) :
    c.Tells (c.use u).value (c.use u).trace (c.tankTold u) (c.jetTold u) := by
  by_cases hsecond : u.IsSecond
  · cases u with
    | tick switches =>
      rw [use_tick]
      exact hsettled.tells_tick htankOwner hjetOwner switches
    | _ => exact absurd hsecond id
  · have hquiet : c.tankTold u = none ∧ c.jetTold u = none := by
      cases u with
      | tick switches => exact absurd trivial hsecond
      | _ => exact ⟨rfl, rfl⟩
    rw [hquiet.1, hquiet.2]
    exact hsettled.tells_quietly hsecond

/-- An alarm whose notes are what its module told the outside. -/
structure AlarmKnows (a : Alarm) (owner : String) (past : Trace) : Prop where
  owner_eq : a.escalator.owner = owner
  last_eq : a.last = Event.lastReported owner past.events
  coherent : a.Coherent

/-- What the module told stays what the alarm has noted, as news is told exactly
    where it differs from the notes. -/
theorem AlarmKnows.step {a after : Alarm} {owner : String} {past done : Trace}
    {told : Option (Option LevelFault)} (hknows : AlarmKnows a owner past)
    (hnotes : a.Notes after told) (hnews : Event.reports owner done.events = a.news told) :
    AlarmKnows after owner (past ++ done) := by
  obtain ⟨rfl, hlast, hcoherent⟩ := hknows
  exact ⟨hnotes.owner_eq, hnotes.last_agrees hnews hlast, hnotes.coherent hcoherent⟩

/-- What holds of a controller whenever no use is under way. -/
structure Knows (c : Controller) (past : Trace) : Prop where
  settled : c.Settled
  tank : AlarmKnows c.tankAlarm WaterTank.owner past
  jet : AlarmKnows c.jetAlarm WaterJet.owner past

/-- Settled modules and the right owners are all that a use needs to tell its
    findings. -/
theorem Knows.tells_use {c : Controller} {past : Trace} (hknows : c.Knows past) (u : Use) :
    c.Tells (c.use u).value (c.use u).trace (c.tankTold u) (c.jetTold u) :=
  hknows.settled.tells_use hknows.tank.owner_eq hknows.jet.owner_eq u

/-- A new controller has told nothing, and its alarms have noted nothing. -/
theorem knows_build {ι : Type} [PinAccess ι] (s : Settings) (pins : ι) :
    (build s pins).value.Knows {} where
  settled := settled_build s pins
  tank := by
    have htank : (build s pins).value.tank =
        (WaterTank.build s.tank s.faultDelay pins).value.toOption := by
      rw [← value_keepBuilt WaterTank.owner]
      rfl
    unfold tankAlarm
    rw [htank]
    cases hbuilt : (WaterTank.build s.tank s.faultDelay pins).value with
    | error cause => exact ⟨rfl, rfl, .inl ⟨rfl, rfl⟩⟩
    | ok tank =>
      obtain rfl := WaterTank.eq_of_build hbuilt
      exact ⟨rfl, rfl, .inl ⟨rfl, rfl⟩⟩
  jet := by
    unfold jetAlarm
    cases hmodule : (build s pins).value.jet with
    | none => exact ⟨rfl, rfl, .inl ⟨rfl, rfl⟩⟩
    | some jet =>
      obtain rfl := jet_eq_of_build hmodule
      exact ⟨rfl, rfl, .inl ⟨rfl, rfl⟩⟩

/-- Every use leaves the cutter settled. -/
theorem Settled.use {c : Controller} (hsettled : c.Settled) (u : Use) :
    (c.use u).value.Settled := by
  obtain ⟨op, _, hmap⟩ := c.jet_use u
  refine hsettled.map hmap fun jet hjet => ?_
  cases op with
  | none => exact hjet
  | some op => exact hjet.perform op

/-- Every use leaves what the controller knows in agreement with what it told. -/
theorem Knows.use {c : Controller} {past : Trace} (hknows : c.Knows past) (u : Use) :
    (c.use u).value.Knows (past ++ (c.use u).trace) := by
  have htells := hknows.tells_use u
  exact ⟨hknows.settled.use u, hknows.tank.step htells.tank_notes htells.tank_news,
    hknows.jet.step htells.jet_notes htells.jet_news⟩

theorem Knows.useAll {c : Controller} {past : Trace} (hknows : c.Knows past) (uses : List Use) :
    (c.useAll uses).value.Knows (past ++ (c.useAll uses).trace) := by
  induction uses generalizing c past with
  | nil => simpa [Controller.useAll] using hknows
  | cons u uses ih =>
    have hrest := ih (hknows.use u)
    rwa [Trace.append_assoc] at hrest

/-- If a water module told of a fault and not of an end to faults since, the
    lights show it. -/
def ShowsFaults (c : Controller) (past : Trace) : Prop :=
  (Event.lastReported WaterTank.owner past.events).isSome = true ∨
      (Event.lastReported WaterJet.owner past.events).isSome = true →
    c.navigator.lights = ⟨true, false⟩

/-- A use in which a module lights the indicator for normal work over a fault of
    the other: the cutter does so while the tank has a fault, or the tank while
    the cutter goes on having one. -/
def Hides (c : Controller) (u : Use) : Prop :=
  (c.jetAlarm.lights (c.jetTold u) = some false ∧
      ((c.tankTold u).getD c.tankAlarm.last).isSome = true) ∨
    (c.tankAlarm.lights (c.tankTold u) = some false ∧ c.jetAlarm.last.isSome = true ∧
      ((c.jetTold u).getD c.jetAlarm.last).isSome = true)

section

variable {c : Controller} {past : Trace}

/-- After a use the lights show what the alarms have noted by then. -/
theorem Knows.showsFaults_use_iff (hknows : c.Knows past) (u : Use) :
    (c.use u).value.ShowsFaults (past ++ (c.use u).trace) ↔
      (((c.tankTold u).getD c.tankAlarm.last).isSome = true ∨
          ((c.jetTold u).getD c.jetAlarm.last).isSome = true →
        (c.use u).value.navigator.lights = ⟨true, false⟩) := by
  obtain ⟨_, htank, hjet⟩ := hknows.use u
  have htells := hknows.tells_use u
  rw [ShowsFaults, ← htank.last_eq, ← hjet.last_eq, htells.tank_notes.last_eq,
    htells.jet_notes.last_eq]

/-- A light for normal work over a fault is seen. The fault was told of, if not
    now then before, and the green light came last. -/
theorem Knows.not_showsFaults_of_hides (hknows : c.Knows past) {u : Use} (hhides : c.Hides u) :
    ¬(c.use u).value.ShowsFaults (past ++ (c.use u).trace) := by
  rw [hknows.showsFaults_use_iff, (hknows.tells_use u).lights_eq]
  intro hshows
  rcases hhides with ⟨hlit, htank⟩ | ⟨hlit, hbefore, hjet⟩
  · rw [hlit] at hshows
    exact absurd (hshows (.inl htank)) (by simp)
  · -- The cutter lights nothing, as it lit its fault before.
    have hquiet : c.jetAlarm.lights (c.jetTold u) = none := by
      cases hlights : c.jetAlarm.lights (c.jetTold u) with
      | none => rfl
      | some on =>
        cases on with
        | true =>
          have hnone := (hknows.jet.coherent.of_lights_fault hlights).1
          simp [hnone] at hbefore
        | false =>
          have hnone := Alarm.none_of_lights_clear hlights
          simp [hnone] at hjet
    rw [hquiet, hlit] at hshows
    exact absurd (hshows (.inr hjet)) (by simp)

/-- Nothing else takes a fault from the lights. A fault that is new lights the
    indicator itself; for one that was open the lights were right before, and
    only a hiding use changes them. -/
theorem Knows.showsFaults_of_not_hides (hknows : c.Knows past) (hshows : c.ShowsFaults past)
    {u : Use} (hhides : ¬c.Hides u) :
    (c.use u).value.ShowsFaults (past ++ (c.use u).trace) := by
  rw [hknows.showsFaults_use_iff, (hknows.tells_use u).lights_eq]
  rw [ShowsFaults, ← hknows.tank.last_eq, ← hknows.jet.last_eq] at hshows
  intro hopen
  cases hjetLights : c.jetAlarm.lights (c.jetTold u) with
  | some on =>
    cases on with
    | true => rfl
    | false =>
      have hjetNone := Alarm.none_of_lights_clear hjetLights
      have htankOpen := hopen.resolve_right (by simp [hjetNone])
      exact absurd (.inl ⟨hjetLights, htankOpen⟩) hhides
  | none =>
    have hjetBefore := hknows.jet.coherent.of_lights_nothing hjetLights
    cases htankLights : c.tankAlarm.lights (c.tankTold u) with
    | some on =>
      cases on with
      | true => rfl
      | false =>
        have htankNone := Alarm.none_of_lights_clear htankLights
        have hjetOpen := hopen.resolve_left (by simp [htankNone])
        exact absurd (.inr ⟨htankLights, hjetBefore hjetOpen, hjetOpen⟩) hhides
    | none =>
      have htankBefore := hknows.tank.coherent.of_lights_nothing htankLights
      exact hshows (hopen.imp htankBefore hjetBefore)

end

/-- Only seconds hide faults, since only they report anything. -/
theorem Hides.isSecond {c : Controller} {u : Use} (hhides : c.Hides u) : u.IsSecond := by
  cases u with
  | tick switches => trivial
  | _ => rcases hhides with ⟨hlit, _⟩ | ⟨hlit, _⟩ <;> cases hlit

/-- After every second of a run the lights show the faults that are open,
    exactly if in no second of the run a module lights the indicator for normal
    work over a fault of the other. The other module goes on finding its fault
    then, but does not light it again. -/
theorem lights_show_faults_iff {ι : Type} [PinAccess ι] (s : Settings) (pins : ι)
    (uses : List Use) :
    let after (past : List Use) : Traced Controller := (build s pins).value.useAll past
    (∀ past u, past ++ [u] <+: uses → u.IsSecond →
        (after (past ++ [u])).value.ShowsFaults (after (past ++ [u])).trace) ↔
      ∀ past u later, uses = past ++ u :: later → ¬(after past).value.Hides u := by
  intro after
  have hafter (past : List Use) :
      past.foldl record ((build s pins).value, {}) = ((after past).value, (after past).trace) := by
    rw [foldl_record, Trace.empty_append]
  constructor
  · intro hshows past u later hsplit hhides
    have hknows : (after past).value.Knows (after past).trace := by
      simpa using (knows_build s pins).useAll past
    have hsnoc := hafter (past ++ [u])
    rw [List.foldl_append, hafter] at hsnoc
    obtain ⟨hvalue, htrace⟩ := Prod.mk.inj hsnoc
    have hseen := hshows past u (by simp [hsplit]) hhides.isSecond
    rw [← hvalue, ← htrace] at hseen
    exact hknows.not_showsFaults_of_hides hhides hseen
  · intro hnone past u hprefix _
    have hstep {state : Controller × Trace} (hknows : state.1.Knows state.2)
        (hshows : state.1.ShowsFaults state.2) (u : Use) :
        (record state u).1.ShowsFaults (record state u).2 ↔ ¬state.1.Hides u :=
      ⟨fun hseen hhides => hknows.not_showsFaults_of_hides hhides hseen,
        hknows.showsFaults_of_not_hides hshows⟩
    have hnew : (build s pins).value.ShowsFaults {} := fun hopen => absurd hopen (by decide)
    have hthroughout := foldl_throughout_iff (P := fun state => state.1.ShowsFaults state.2) record
      (fun hknows u => Knows.use hknows u) hstep (s := ((build s pins).value, {}))
      (knows_build s pins) hnew uses
    simp only [hafter] at hthroughout
    exact hthroughout.2 hnone (past ++ [u]) hprefix

/-- Cutter and tank are overfull together in a job, and then the float of the
    tank falls. -/
def outlasting : List Use :=
  [.line "M1401", .poll (waterPins ["P2.12"]), .line "M1403", .tick (SwitchBank.ofNames []),
    .poll (waterPins ["P2.12", "P1.29", "T.high"]), .tick (SwitchBank.ofNames []),
    .poll (waterPins ["P2.12", "P1.29"])]

/-- The lights show normal work while the cutter is overfull. -/
theorem green_over_fault :
    ¬∀ (s : Settings) (pins : PinBank) (uses : List Use) (u : Use), u.IsSecond →
      let new := (build s pins).value
      let run := new.useAll (uses ++ [u])
      new.tank.isSome = true → new.jet.isSome = true → run.value.ShowsFaults run.trace := by
  intro hshows
  have hlights := hshows waterSettings (waterPins []) outlasting
    (.tick (SwitchBank.ofNames [])) trivial (by decide +kernel) (by decide +kernel)
    (.inr (by decide +kernel))
  exact absurd hlights (by decide +kernel)

end Controller

end Interlock
