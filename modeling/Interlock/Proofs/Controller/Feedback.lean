import Interlock.Proofs.Controller.ClosedLoop

namespace Interlock

namespace Controller

open WaterJet

/-- The line asks to resume the machine. -/
def Resumes (line : String) : Prop :=
  ConsoleCommand.parse line = .resume

/-- The line starts a job that the cutter does not refuse. -/
def StartsJob (c : Controller) (line : String) : Prop :=
  ∃ jet rest, c.jet = some jet ∧ ConsoleCommand.parse line = .code startCode rest ∧
    jet.active = true ∧ jet.sensors.doorClosed = true

/-- The operator ends the pause of the tank by the resume command alone. Codes
    may switch the tank off, which leaves it paused. -/
theorem tankPauseEnds_line_iff (c : Controller) (line : String) :
    c.TankPauseEnds (c.handleLine line).value.1 ↔ c.tankPaused = true ∧ Resumes line := by
  unfold TankPauseEnds Resumes handleLine
  refine and_congr_right fun hpaused => ?_
  cases hline : ConsoleCommand.parse line with
  | resume =>
    have hunpaused : c.resume.value.1.tankPaused = false := by
      unfold tankPaused
      rw [c.value_resume.1]
      cases c.tank <;> rfl
    simpa using hunpaused
  | code code rest =>
    have hkept : (c.command code).value.1.tankPaused = c.tankPaused := by
      unfold tankPaused
      rw [(c.value_command code).1]
      cases c.tank with
      | none => rfl
      | some tank => exact tank.isPaused_command code
    simp [hkept, hpaused]
  | unknown text => simp [hpaused]

/-- The operator ends the pause of the cutter by the resume command, and by a
    new job that is not refused. The other codes keep it, as the cutter is in no
    state that was asked for. -/
theorem Commanded.jetPauseEnds_line_iff {c : Controller} (hcommanded : c.Commanded)
    (line : String) :
    c.JetPauseEnds (c.handleLine line).value.1 ↔
      c.jetPaused = true ∧ (Resumes line ∨ c.StartsJob line) := by
  unfold JetPauseEnds Resumes StartsJob Controller.handleLine
  refine and_congr_right fun hpaused => ?_
  obtain ⟨jet, hjet, hjetPaused⟩ : ∃ jet, c.jet = some jet ∧ jet.isPaused = true := by
    unfold jetPaused at hpaused
    cases hjet : c.jet with
    | none => simp [hjet] at hpaused
    | some jet => exact ⟨jet, rfl, by simpa [hjet] using hpaused⟩
  cases hline : ConsoleCommand.parse line with
  | resume =>
    have hunpaused : c.resume.value.1.jetPaused = false := by
      unfold jetPaused
      rw [c.value_resume.2.1, hjet]
      simp [WaterJet.value_resume, isPaused, Escalator.resume]
    simpa using hunpaused
  | code code rest =>
    have hafter : (c.command code).value.1.jetPaused = (jet.command code).value.1.isPaused := by
      unfold jetPaused
      rw [(c.value_command code).2, hjet]
      rfl
    simp only [hafter, (hcommanded jet hjet).1.settled.isPaused_command, hjet, hjetPaused]
    simp
  | unknown text => simp [hpaused]

section

variable {σ ι : Type} [SwitchAccess σ] [PinAccess ι]

/-- The cutter leaves a fault or a pause in the next second. -/
def JetLeavesPause (c : Controller) : Prop :=
  ∃ jet, c.jet = some jet ∧ jet.LeavesPause

/-- The resume command ends the commands of a second in which the cutter leaves
    its pause. All others are suspend commands, of either module; nothing waited
    before, so nothing older is sent among them. -/
theorem Commanded.sent_second {c : Controller} (hcommanded : c.Commanded) (switches : σ)
    (pins : ι) :
    ∃ suspends : List String, (∀ command ∈ suspends, command = suspendCommand) ∧
      (c.JetLeavesPause → (c.second switches pins).trace.sent = suspends ++ [resumeCommand]) ∧
      (¬c.JetLeavesPause → (c.second switches pins).trace.sent = suspends) := by
  obtain ⟨_, jetPanel, _, _, _, hsent⟩ := c.second_spec switches pins
  refine ⟨(c.tick switches).trace.sent, hcommanded.settled.mem_sent_tick switches, ?_, ?_⟩
  -- Nothing waited before the second, so what waits after it is what the cutter queued in it.
  · rintro ⟨jet, hjet, hleaves⟩
    obtain ⟨hplain, hempty⟩ := hcommanded jet hjet
    rw [hsent, hjet, Option.elim_some, (hplain.outbox_tick hempty jetPanel).1 hleaves]
  · intro hstays
    rw [hsent]
    cases hjet : c.jet with
    | none => simp
    | some jet =>
      obtain ⟨hplain, hempty⟩ := hcommanded jet hjet
      have hnot : ¬jet.LeavesPause := fun hleaves => hstays ⟨jet, hjet, hleaves⟩
      rw [Option.elim_some, (hplain.outbox_tick hempty jetPanel).2 hnot, List.append_nil]

/-- Reading the inputs ends no pause. -/
theorem not_pauseEnds_poll (c : Controller) (pins : ι) : ¬c.PauseEnds (c.poll pins).value := by
  obtain ⟨htank, hjet⟩ := c.value_poll pins
  refine not_pauseEnds htank hjet ?_ ?_
  · intro tank hpaused
    rwa [tank.isPaused_poll]
  · intro jet _ hpaused
    rwa [jet.isPaused_poll]

/-- A second ends no pause: a fault that is gone does not resume its module. -/
theorem Commanded.not_pauseEnds_tick {c : Controller} (hcommanded : c.Commanded) (switches : σ) :
    ¬c.PauseEnds (c.tick switches).value.1 := by
  obtain ⟨tankPanel, jetPanel, htank, hjet, _⟩ := c.tick_spec switches
  refine not_pauseEnds htank hjet ?_ ?_
  · intro tank hpaused
    rw [tank.isPaused_tick, hpaused, Bool.or_true]
  · intro jet hmodule hpaused
    exact (hcommanded jet hmodule).1.settled.stays_paused hpaused jetPanel

/-- Driving the outputs ends no pause. The resume command that is sent has yet
    to come back. -/
theorem not_pauseEnds_drive (c : Controller) (pins : ι) : ¬c.PauseEnds (c.drive pins).value.1 := by
  obtain ⟨htank, ⟨jetPins, hjet⟩, _⟩ := c.drive_spec pins
  refine not_pauseEnds htank hjet ?_ ?_
  · intro tank hpaused
    rwa [tank.isPaused_drive]
  · exact fun _ _ => id

/-- Handling the line ends a pause. -/
def EndsPause (c : Controller) (line : String) : Prop :=
  c.PauseEnds (c.handleLine line).value.1

/-- The line is answered as one that ended a pause. -/
def AnswersResumed (c : Controller) (line : String) : Prop :=
  "resumed" ∈ (c.handleLine line).value.2

/-- Of lines that are handled in order, one meets a condition when its turn
    comes. -/
def SomeLine (P : Controller → String → Prop) : Controller → List String → Prop
  | _, [] => False
  | c, line :: rest => P c line ∨ SomeLine P (c.handleLine line).value.1 rest

theorem parse_suspendCommand : ConsoleCommand.parse suspendCommand = .code 600 "" := by decide

theorem parse_resumeCommand : ConsoleCommand.parse resumeCommand = .resume := by decide

/-- The suspend command is no command of a water module, so that it comes back
    without effect. A timer may have its code, which is why only the water
    modules are spoken of. -/
theorem suspend_spec (c : Controller) :
    (c.handleLine suspendCommand).value.1.tank = c.tank ∧
      (c.handleLine suspendCommand).value.1.jet = c.jet ∧
        ¬c.EndsPause suspendCommand ∧ ¬c.AnswersResumed suspendCommand := by
  have hhandled : c.handleLine suspendCommand = c.command 600 := by
    unfold handleLine
    rw [parse_suspendCommand]
  obtain ⟨htank, hjet⟩ := c.value_command 600
  have hsameTank (tank : WaterTank) : (tank.command 600).value = (tank, false) := rfl
  have hsameJet (jet : WaterJet) : jet.command 600 = ⟨(jet, none), {}⟩ := rfl
  simp only [hsameTank, hsameJet] at htank hjet
  -- A timer may have the code for its own, and answers then. The water modules never do.
  have htankSilent : (commandTank 600 c.tank).value.2 = [] := by
    cases c.tank <;> rfl
  have hjetSilent : (commandJet 600 c.jet).value.2 = [] := by
    cases c.jet <;> rfl
  have hreplies : (c.command 600).value.2 = (commandTimers 600 c.timers).value.2 := by
    simp [command, htankSilent, hjetSilent]
  unfold EndsPause AnswersResumed
  rw [hhandled, hreplies]
  refine ⟨?_, ?_, ?_, not_mem_commandTimers (by decide) 600 c.timers⟩
  · rw [htank, Option.map_id']
  · rw [hjet, Option.map_id']
  · exact not_pauseEnds htank hjet (fun _ => id) fun _ _ => id

/-- The cutter is in no pause, and its process knows of none. -/
def JetUnpaused (c : Controller) : Prop :=
  ∀ jet, c.jet = some jet → jet.isPaused = false ∧ jet.context.paused = false

/-- When the cutter is in no pause, the resume command ends that of the tank and
    nothing else. Without the premise it would end the cutter's as well. -/
theorem resume_spec {c : Controller} (hjet : c.JetUnpaused) :
    (c.EndsPause resumeCommand ↔ c.tankPaused = true) ∧
      (c.AnswersResumed resumeCommand ↔ c.tankPaused = true) := by
  have hunpaused : c.jetPaused = false := by
    unfold jetPaused
    cases hmodule : c.jet with
    | none => rfl
    | some jet => exact (hjet jet hmodule).1
  constructor
  · have htank := c.tankPauseEnds_line_iff resumeCommand
    rw [EndsPause, PauseEnds, htank, Resumes, parse_resumeCommand]
    simp [JetPauseEnds, hunpaused]
  · have hhandled : c.handleLine resumeCommand = c.resume := by
      unfold handleLine
      rw [parse_resumeCommand]
    have htankWas : (c.tank.elim false fun t => t.resume.value.2) = c.tankPaused := by
      unfold tankPaused
      cases c.tank <;> rfl
    have hjetWas : (c.jet.elim false fun j => j.resume.value.2) = false := by
      cases hmodule : c.jet with
      | none => rfl
      | some jet =>
        obtain ⟨hpaused, hnoted⟩ := hjet jet hmodule
        simp [WaterJet.resume, hpaused, hnoted]
    rw [AnswersResumed, hhandled, c.value_resume.2.2, htankWas, hjetWas, Bool.or_false]
    cases c.tankPaused <;> simp

section

variable {P : Controller → String → Prop} (hsuspend : ∀ c, ¬P c suspendCommand)
  {suspends : List String} (hall : ∀ command ∈ suspends, command = suspendCommand)

include hsuspend hall

/-- Among suspend commands no line meets a condition that none of them meets. -/
theorem not_someLine_suspends (c : Controller) : ¬c.SomeLine P suspends := by
  induction suspends generalizing c with
  | nil => exact id
  | cons command rest ih =>
    obtain ⟨rfl, hrest⟩ := List.forall_mem_cons.1 hall
    exact not_or_intro (hsuspend c) (ih hrest _)

/-- Behind suspend commands the resume command finds the water modules as they
    were. So all that counts is what the resume command does to a controller
    whose cutter is in no pause. -/
theorem someLine_suspends_resume
    (hresume : ∀ c : Controller, c.JetUnpaused → (P c resumeCommand ↔ c.tankPaused = true))
    {c : Controller} (hjet : c.JetUnpaused) :
    c.SomeLine P (suspends ++ [resumeCommand]) ↔ c.tankPaused = true := by
  induction suspends generalizing c with
  | nil =>
    rw [List.nil_append, SomeLine, SomeLine, or_false]
    exact hresume c hjet
  | cons command rest ih =>
    -- The timers may have changed, so the induction is over all controllers with these
    -- water modules.
    obtain ⟨rfl, hrest⟩ := List.forall_mem_cons.1 hall
    obtain ⟨hsameTank, hsameJet, _⟩ := c.suspend_spec
    have hjetAfter : (c.handleLine suspendCommand).value.1.JetUnpaused := by
      rwa [JetUnpaused, hsameJet]
    have hlater := ih hrest hjetAfter
    rw [List.cons_append, SomeLine, or_iff_right (hsuspend c), hlater, tankPaused, hsameTank]
    rfl

end

/-- Of what comes back after a second only the resume command counts. The cutter
    that sent it is in no pause any more, so that the command is left with the
    tank. -/
theorem Commanded.someLine_second_iff {P : Controller → String → Prop}
    (hsuspend : ∀ c, ¬P c suspendCommand)
    (hresume : ∀ c : Controller, c.JetUnpaused → (P c resumeCommand ↔ c.tankPaused = true))
    {c : Controller} (hcommanded : c.Commanded) (switches : σ) (pins : ι) :
    (c.second switches pins).value.SomeLine P (c.second switches pins).trace.sent ↔
      c.JetLeavesPause ∧ (c.second switches pins).value.tankPaused = true := by
  obtain ⟨suspends, hall, hleaving, hstaying⟩ := hcommanded.sent_second switches pins
  by_cases hleaves : c.JetLeavesPause
  · rw [hleaving hleaves, and_iff_right hleaves]
    refine someLine_suspends_resume hsuspend hall hresume fun after hafter => ?_
    obtain ⟨jet, hjet, hjetLeaves⟩ := hleaves
    obtain ⟨_, jetPanel, jetPins, _, hsecond, _⟩ := c.second_spec switches pins
    rw [hsecond, hjet, Option.map_some, Option.some.injEq] at hafter
    subst hafter
    have hsettled := (hcommanded jet hjet).1.settled
    have hunpaused := hsettled.unpaused_of_leavesPause hjetLeaves jetPanel
    exact ⟨hunpaused, (hsettled.tick jetPanel).paused_eq.trans hunpaused⟩
  · rw [hstaying hleaves]
    constructor
    · exact fun hsome => absurd hsome (not_someLine_suspends hsuspend hall _)
    · exact fun hboth => absurd hboth.1 hleaves

/-- What comes back after a second ends a pause exactly if the cutter left its
    own in that second and the tank ended it paused. -/
theorem Commanded.endsPause_second_iff {c : Controller} (hcommanded : c.Commanded) (switches : σ)
    (pins : ι) :
    (c.second switches pins).value.SomeLine EndsPause (c.second switches pins).trace.sent ↔
      c.JetLeavesPause ∧ (c.second switches pins).value.tankPaused = true :=
  hcommanded.someLine_second_iff (fun c => c.suspend_spec.2.2.1)
    (fun _ hjet => (resume_spec hjet).1)
    switches pins

end

/-- In a closed loop, readings and seconds end no pause. A line of the operator
    ends one exactly if it resumes the machine or, for the cutter alone, starts
    a job. The commands that come back after a second end one, and are answered
    so, exactly if the cutter left its pause in that second and the tank ended
    it paused. -/
theorem pause_ends_iff {c : Controller} (hloop : c.ClosedLoop) :
    (∀ {ι : Type} [PinAccess ι] (pins : ι), ¬c.PauseEnds (c.poll pins).value) ∧
      (∀ line : String,
        (c.TankPauseEnds (c.handleLine line).value.1 ↔ c.tankPaused = true ∧ Resumes line) ∧
          (c.JetPauseEnds (c.handleLine line).value.1 ↔
            c.jetPaused = true ∧ (Resumes line ∨ c.StartsJob line))) ∧
      ∀ {σ ι : Type} [SwitchAccess σ] [PinAccess ι] (switches : σ) (pins : ι),
        let ticked := (c.tick switches).value.1
        let driven := c.second switches pins
        ¬c.PauseEnds ticked ∧ ¬ticked.PauseEnds driven.value ∧
          (driven.value.SomeLine EndsPause driven.trace.sent ↔
            c.JetLeavesPause ∧ driven.value.tankPaused = true) ∧
          (driven.value.SomeLine AnswersResumed driven.trace.sent ↔
            c.JetLeavesPause ∧ driven.value.tankPaused = true) := by
  have hcommanded := hloop.commanded
  refine ⟨c.not_pauseEnds_poll, fun line => ⟨c.tankPauseEnds_line_iff line, ?_⟩, ?_⟩
  · exact hcommanded.jetPauseEnds_line_iff line
  · intro σ ι _ _ switches pins ticked driven
    refine ⟨hcommanded.not_pauseEnds_tick switches, ticked.not_pauseEnds_drive pins, ?_, ?_⟩
    · exact hcommanded.endsPause_second_iff switches pins
    · exact hcommanded.someLine_second_iff (fun c => c.suspend_spec.2.2.2)
        (fun _ hjet => (resume_spec hjet).2) switches pins

/-- A tank and a cutter with pins of their own. -/
def waterSettings : Settings where
  tank :=
    { enable := true
      middleFloatPin := "T.mid"
      highFloatPin := "T.high"
      dumpValvePin := "T.dump"
      lowPressurePumpPin := "T.low"
      lowWaterMenu := "/sd/menu/tlow"
      highWaterMenu := "/sd/menu/thigh"
      filtersBlockedMenu := "/sd/menu/tfilters" }
  jet := plainSettings

/-- The board of `waterSettings`, of which the given pins are high. -/
def waterPins (high : List String) : PinBank :=
  high.foldl (fun pins name => pins.setLevel name true) (Simulator.boardOf waterSettings)

/-- A reading of the inputs and a second, of which the commands come back. -/
def cycle (c : Controller) (high : List String) : Controller :=
  let pins := waterPins high
  let driven := (c.poll pins).value.second (SwitchBank.ofNames []) pins
  (driven.value.handleLines driven.trace.sent).value.1

theorem ClosedLoop.cycle {c : Controller} (hloop : c.ClosedLoop) (high : List String) :
    (c.cycle high).ClosedLoop :=
  (hloop.poll (waterPins high)).second (SwitchBank.ofNames []) (waterPins high)

/-- A cutter in a job behind a closed door. -/
def cutting : Controller :=
  let c := ((build waterSettings (waterPins [])).value.handleLine "M1401").value.1
  ((c.poll (waterPins ["P2.12"])).value.handleLine "M1403").value.1.cycle ["P2.12"]

/-- The cutter was overfull, and the operator has just resumed it. Now the tank
    is overfull. -/
def recovering : Controller :=
  let c := ((cutting.cycle ["P2.12", "P1.29"]).handleLine "resume").value.1
  (c.poll (waterPins ["P2.12", "T.high"])).value

theorem closedLoop_recovering : recovering.ClosedLoop := by
  have hcutting : cutting.ClosedLoop :=
    (((ClosedLoop.build waterSettings (waterPins [])).line "M1401").poll _ |>.line "M1403").cycle _
  exact ((hcutting.cycle _).line "resume").poll _

theorem leavesPause_recovering : recovering.JetLeavesPause := by
  refine ⟨recovering.jet.get (by decide +kernel), by simp, ?_⟩
  unfold LeavesPause
  decide +kernel

theorem tankPaused_recovering :
    (recovering.second (SwitchBank.ofNames []) (waterPins ["P2.12", "T.high"])).value.tankPaused =
      true := by
  decide +kernel

/-- The tank is resumed in the second in which its fault is found. -/
theorem pause_ends_recovering :
    recovering.ClosedLoop ∧
      let driven := recovering.second (SwitchBank.ofNames []) (waterPins ["P2.12", "T.high"])
      driven.value.SomeLine EndsPause driven.trace.sent ∧
        driven.value.SomeLine AnswersResumed driven.trace.sent := by
  obtain ⟨_, _, hseconds⟩ := pause_ends_iff closedLoop_recovering
  obtain ⟨_, _, hends, hanswers⟩ :=
    hseconds (SwitchBank.ofNames []) (waterPins ["P2.12", "T.high"])
  have hresumes := And.intro leavesPause_recovering tankPaused_recovering
  exact ⟨closedLoop_recovering, hends.2 hresumes, hanswers.2 hresumes⟩

/-- Not every pause lasts until a line of the operator ends it. -/
theorem pause_ended_by_machine :
    ¬∀ c : Controller, c.ClosedLoop → ∀ (switches : SwitchBank) (pins : PinBank),
      ¬(c.second switches pins).value.SomeLine EndsPause (c.second switches pins).trace.sent := by
  intro hnever
  have hends := hnever recovering closedLoop_recovering (SwitchBank.ofNames [])
    (waterPins ["P2.12", "T.high"])
  rw [closedLoop_recovering.commanded.endsPause_second_iff] at hends
  exact hends ⟨leavesPause_recovering, tankPaused_recovering⟩

end Controller

end Interlock
