import Interlock.Proofs.Controller.Operation
import Interlock.Proofs.Jet.Unrequested
import Interlock.Simulator.Session

namespace Interlock

namespace Controller

/-- Whether there is a water tank that keeps the machine suspended. -/
def tankPaused (c : Controller) : Bool :=
  c.tank.elim false WaterTank.isPaused

/-- Whether there is a cutter that keeps the machine suspended. -/
def jetPaused (c : Controller) : Bool :=
  c.jet.elim false WaterJet.isPaused

/-- The water tank was paused and is not any more. -/
def TankPauseEnds (before after : Controller) : Prop :=
  before.tankPaused = true ∧ after.tankPaused = false

/-- The cutter was paused and is not any more. -/
def JetPauseEnds (before after : Controller) : Prop :=
  before.jetPaused = true ∧ after.jetPaused = false

/-- Some water module was paused and is not any more. -/
def PauseEnds (before after : Controller) : Prop :=
  before.TankPauseEnds after ∨ before.JetPauseEnds after

/-- No pause ends if each module keeps its own. The cutter may be known to be
    the one of the controller, the tank is any, as only the cutter's steps ask
    for more. -/
theorem not_pauseEnds {before after : Controller} {f : WaterTank → WaterTank}
    {g : WaterJet → WaterJet} (htank : after.tank = before.tank.map f)
    (hjet : after.jet = before.jet.map g)
    (hkeepsTank : ∀ tank : WaterTank, tank.isPaused = true → (f tank).isPaused = true)
    (hkeepsJet : ∀ jet, before.jet = some jet → jet.isPaused = true → (g jet).isPaused = true) :
    ¬before.PauseEnds after := by
  unfold PauseEnds TankPauseEnds JetPauseEnds tankPaused jetPaused
  rw [htank, hjet]
  rintro (⟨hpaused, hended⟩ | ⟨hpaused, hended⟩)
  · cases hmodule : before.tank with
    | none => simp [hmodule] at hpaused
    | some tank =>
      rw [hmodule] at hpaused hended
      exact absurd (hkeepsTank tank hpaused) (Bool.eq_false_iff.1 hended)
  · cases hmodule : before.jet with
    | none => simp [hmodule] at hpaused
    | some jet =>
      rw [hmodule] at hpaused hended
      exact absurd (hkeepsJet jet hmodule hpaused) (Bool.eq_false_iff.1 hended)

/-- One second of the modules, and the outputs after it. -/
def second {σ ι : Type} [SwitchAccess σ] [PinAccess ι] (c : Controller) (switches : σ) (pins : ι) :
    Traced Controller := do
  let (c, _) ← c.tick switches
  let (c, _) ← c.drive pins
  return c

section

variable {σ ι : Type} [SwitchAccess σ] [PinAccess ι]

/-- Seen from a water module, a second is one of its own and the driving of its
    outputs. The commands that wait in the cutter are sent last, behind those of
    the alarms. Panels and pins are whatever the other modules left, so they are
    only claimed to exist. -/
theorem second_spec (c : Controller) (switches : σ) (pins : ι) :
    ∃ (tankPanel jetPanel : Menu.Navigator) (jetPins : ι),
      (c.second switches pins).value.tank =
          c.tank.map (fun t => ((t.tick tankPanel).value.1.drive pins).value.1) ∧
        (c.second switches pins).value.jet =
          c.jet.map (fun j => ((j.tick jetPanel).value.1.drive jetPins).value.1) ∧
        (c.second switches pins).trace.sent =
          (c.tick switches).trace.sent ++
            c.jet.elim [] fun j => (j.tick jetPanel).value.1.context.outbox := by
  obtain ⟨tankPanel, jetPanel, htankTicked, hjetTicked, _⟩ := c.tick_spec switches
  obtain ⟨htankDriven, ⟨jetPins, hjetDriven⟩, hsent⟩ :=
    (c.tick switches).value.1.drive_spec pins
  rw [htankTicked, Option.map_map] at htankDriven
  rw [hjetTicked, Option.map_map] at hjetDriven
  refine ⟨tankPanel, jetPanel, jetPins, htankDriven, hjetDriven, ?_⟩
  have hboth : (c.second switches pins).trace.sent =
      (c.tick switches).trace.sent ++ ((c.tick switches).value.1.drive pins).trace.sent := by
    unfold second
    simp only [Traced.trace_bind, Trace.sent_append, Traced.trace_pure, List.append_nil]
  rw [hboth, hsent, hjetTicked]
  cases c.jet <;> rfl

end

/-- A controller whose commands come back to it. Inputs are read, lines of the
    operator come in and menus are shown at any time. After each second every
    command that was sent in it is handled as a console line, in the order of
    sending. No menu line is clicked. -/
inductive ClosedLoop : Controller → Prop where
  | build {ι : Type} [PinAccess ι] (s : Settings) (pins : ι) : ClosedLoop (build s pins).value
  | poll {ι : Type} [PinAccess ι] {c : Controller} (pins : ι) :
      ClosedLoop c → ClosedLoop (c.poll pins).value
  | line {c : Controller} (text : String) : ClosedLoop c → ClosedLoop (c.handleLine text).value.1
  | browse {c : Controller} (navigator : Menu.Navigator) :
      ClosedLoop c → ClosedLoop { c with navigator }
  | second {σ ι : Type} [SwitchAccess σ] [PinAccess ι] {c : Controller} (switches : σ) (pins : ι) :
      ClosedLoop c →
      ClosedLoop
        ((c.second switches pins).value.handleLines (c.second switches pins).trace.sent).value.1

/-- The cutter was never asked for a state, and no command of its waits. -/
def Commanded (c : Controller) : Prop :=
  ∀ jet, c.jet = some jet → jet.Unrequested ∧ jet.context.outbox = []

/-- A commanded cutter is settled, as an unrequested one is. -/
theorem Commanded.settled {c : Controller} (hcommanded : c.Commanded) : c.Settled :=
  fun jet hjet => (hcommanded jet hjet).1.settled

/-- A step keeps the cutter commanded if it does so for every cutter. A
    controller without one is commanded for nothing. -/
theorem Commanded.map {c c' : Controller} (hcommanded : c.Commanded) {f : WaterJet → WaterJet}
    (hmap : c'.jet = c.jet.map f)
    (hkeeps : ∀ jet : WaterJet, jet.Unrequested → jet.context.outbox = [] →
      (f jet).Unrequested ∧ (f jet).context.outbox = []) : c'.Commanded := by
  intro jet hjet
  rw [hmap, Option.map_eq_some_iff] at hjet
  obtain ⟨before, hbefore, rfl⟩ := hjet
  obtain ⟨hplain, hempty⟩ := hcommanded before hbefore
  exact hkeeps before hplain hempty

/-- A new cutter waits in no state that was asked for, with nothing to send. -/
theorem commanded_build {ι : Type} [PinAccess ι] (s : Settings) (pins : ι) :
    (build s pins).value.Commanded := by
  intro jet hjet
  obtain rfl := jet_eq_of_build hjet
  exact ⟨WaterJet.unrequested_ofSettings _ _, rfl⟩

/-- Reading the inputs asks for no state and queues no command. -/
theorem Commanded.poll {ι : Type} [PinAccess ι] {c : Controller} (hcommanded : c.Commanded)
    (pins : ι) : (c.poll pins).value.Commanded := by
  refine hcommanded.map (c.value_poll pins).2 fun jet hplain hempty => ⟨hplain.poll pins, ?_⟩
  rw [WaterJet.value_poll]
  exact hempty

/-- No console line asks for a state: of the lines only codes and resumes reach
    the cutter, and neither queues a command while nothing waits. -/
theorem Commanded.handleLine {c : Controller} (hcommanded : c.Commanded) (line : String) :
    (c.handleLine line).value.1.Commanded := by
  unfold Controller.handleLine
  split
  · refine hcommanded.map c.value_resume.2.1 fun jet hplain hempty => ⟨hplain.resume, ?_⟩
    rw [WaterJet.value_resume]
    exact hempty
  · rename_i code rest _
    exact hcommanded.map (c.value_command code).2 fun jet hplain hempty =>
      ⟨hplain.command code, (hplain.settled.outbox_command code).trans hempty⟩
  · exact hcommanded

/-- Several lines keep the cutter commanded, as each does. -/
theorem Commanded.handleLines {c : Controller} (hcommanded : c.Commanded) (lines : List String) :
    (c.handleLines lines).value.1.Commanded := by
  induction lines generalizing c with
  | nil => exact hcommanded
  | cons line rest ih =>
    rw [value_handleLines_cons]
    exact ih (hcommanded.handleLine line)

theorem Commanded.second {σ ι : Type} [SwitchAccess σ] [PinAccess ι] {c : Controller}
    (hcommanded : c.Commanded) (switches : σ) (pins : ι) :
    (c.second switches pins).value.Commanded := by
  obtain ⟨_, jetPanel, jetPins, _, hjet, _⟩ := c.second_spec switches pins
  exact hcommanded.map hjet fun jet hplain _ => ⟨(hplain.tick jetPanel).drive jetPins, rfl⟩

/-- Whatever the operator says and the machine gives back, the cutter is run by
    commands alone: menu lines, which could ask for a state, are not clicked in
    the loop. -/
theorem ClosedLoop.commanded {c : Controller} (hloop : ClosedLoop c) : c.Commanded := by
  induction hloop with
  | build s pins => exact commanded_build s pins
  | poll pins _ ih => exact ih.poll pins
  | line text _ ih => exact ih.handleLine text
  | browse navigator _ ih => exact ih
  | second switches pins _ ih => exact (ih.second switches pins).handleLines _

/-- Handling lines sends no commands. So the commands of a second come back
    once, and what they cause is not sent before the next second. -/
theorem sent_handleLines (c : Controller) (lines : List String) :
    (c.handleLines lines).trace.sent = [] := by
  induction lines generalizing c with
  | nil => rfl
  | cons line rest ih =>
    simp only [handleLines, Traced.trace_bind, Trace.sent_append, sent_handleLine, ih,
      Traced.trace_pure, List.nil_append]

end Controller

namespace Simulator.Session

/-- The controller of a session is in a closed loop, and all commands have come
    back. -/
structure InLoop (s : Session) : Prop where
  loop : s.controller.ClosedLoop
  none_waiting : s.commands.pending = []

/-- A session starts in the loop, before anything was sent. -/
theorem inLoop_ofSettings (settings : Settings) : (ofSettings settings).value.InLoop :=
  ⟨.build settings (boardOf settings), rfl⟩

/-- A reading of the inputs stays in the loop, as it sends nothing. -/
theorem InLoop.poll {s : Session} (hloop : s.InLoop) : s.poll.value.InLoop :=
  ⟨hloop.loop.poll s.pins, hloop.none_waiting⟩

/-- A second stays in the loop if its commands come back at once: no others may
    wait, so what comes back is what the second sent. -/
theorem InLoop.second_echo {s : Session} (hloop : s.InLoop) :
    s.second.value.echo.value.1.InLoop := by
  have hwaiting : s.second.value.commands.pending =
      (s.controller.second s.switches s.pins).trace.sent :=
    congrArg (· ++ (s.controller.second s.switches s.pins).trace.sent) hloop.none_waiting
  refine ⟨?_, ?_⟩
  · have hloop := hloop.loop.second s.switches s.pins
    rw [← hwaiting] at hloop
    exact hloop
  · have hechoed : s.second.value.echo.value.1.commands.pending =
        (s.second.value.controller.handleLines s.second.value.commands.pending).trace.sent ++ [] :=
      rfl
    rw [hechoed, Controller.sent_handleLines, List.append_nil]

/-- A console line of the operator stays in the loop, as lines send nothing.
    What they queue in the cutter is sent by the next drive. -/
theorem InLoop.line {s : Session} (hloop : s.InLoop) (card : Menu.Card) (text : String) :
    (collect (s.perform card (.line text))).value.1.InLoop := by
  have hcontroller : (collect (s.perform card (.line text))).value.1.controller =
      (s.controller.handleLine text).value.1 := by
    simp only [collect, perform, Traced.value_bind, Traced.value_pure]
  have hcommands : (collect (s.perform card (.line text))).value.1.commands.pending =
      s.commands.pending ++ (s.controller.handleLine text).trace.sent := by
    simp only [collect, perform, CommandQueue.send, Traced.value_bind, Traced.value_pure,
      Traced.trace_bind, Traced.trace_pure, Trace.append_empty]
  refine ⟨?_, ?_⟩
  · rw [hcontroller]
    exact hloop.loop.line text
  · rw [hcommands, hloop.none_waiting, Controller.sent_handleLine, List.append_nil]

/-- Moving a pin by hand does not touch the controller. -/
theorem InLoop.setPin {s : Session} (hloop : s.InLoop) (pin level : String) :
    (s.setPin pin level).1.InLoop := by
  unfold Session.setPin
  split
  · exact ⟨hloop.loop, hloop.none_waiting⟩
  · exact hloop

/-- Sessions without menus: the operator sets pins and enters console lines, and
    the commands of each second come back before anything else happens. -/
inductive Plain : Session → Prop where
  | start (settings : Settings) : Plain (ofSettings settings).value
  | poll {s : Session} : Plain s → Plain s.poll.value
  | second_echo {s : Session} : Plain s → Plain s.second.value.echo.value.1
  | line {s : Session} (card : Menu.Card) (text : String) :
      Plain s → Plain (collect (s.perform card (.line text))).value.1
  | setPin {s : Session} (pin level : String) : Plain s → Plain (s.setPin pin level).1

/-- The simulator closes the loop. The controller cannot tell the commands that
    come back from the operator's lines. -/
theorem Plain.inLoop {s : Session} (hplain : s.Plain) : s.InLoop := by
  induction hplain with
  | start settings => exact inLoop_ofSettings settings
  | poll _ ih => exact ih.poll
  | second_echo _ ih => exact ih.second_echo
  | line card text _ ih => exact ih.line card text
  | setPin pin level _ ih => exact ih.setPin pin level

end Simulator.Session

end Interlock
