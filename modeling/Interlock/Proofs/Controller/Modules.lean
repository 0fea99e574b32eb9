import Interlock.Controller
import Interlock.Proofs.Jet.Invariant
import Interlock.Proofs.Tank.Pause
import Interlock.Proofs.Timer.Operation

namespace Interlock

namespace SwitchTimer

theorem sent_notify {π : Type} [Panel π] (t : SwitchTimer) (act : Actuation) (panel : π) :
    (t.notify act panel).trace.sent = [] := by
  unfold notify
  split <;> rfl

/-- A second of a timer sends nothing to the machine. -/
theorem sent_tick {σ π : Type} [SwitchAccess σ] [Panel π] (t : SwitchTimer) (switches : σ)
    (panel : π) : (t.tick switches panel).trace.sent = [] := by
  unfold tick
  split
  · rfl
  · simp only [Traced.trace_bind, Trace.sent_append,
      (SwitchPolicy.onlySwitches_apply ..).sent, List.nil_append]
    split
    · rfl
    · simp [report, sent_notify]

theorem sent_command (t : SwitchTimer) (code : Nat) : (t.command code).trace.sent = [] := by
  unfold command
  split_ifs <;> rfl

/-- The answers of timers start with the name of the module, so a text with
    another first character is none of them. -/
theorem reply_ne {text : String} (hother : text.toList.head? ≠ owner.toList.head?) (t : SwitchTimer)
    (code : Nat) : (t.command code).value.2 ≠ some text := by
  have hanswer (ending : String) : owner ++ " " ++ t.name ++ ending ≠ text := by
    rintro rfl
    exact hother (by simp [owner])
  unfold command
  split_ifs
  · exact fun hsame => hanswer _ (Option.some.inj hsame)
  · nofun
  · exact fun hsame => hanswer _ (Option.some.inj hsame)
  · nofun

end SwitchTimer

namespace Controller

variable {σ ι : Type} [SwitchAccess σ] [PinAccess ι]

theorem sent_tickTimers {π : Type} [Panel π] (timers : List SwitchTimer) (switches : σ)
    (panel : π) : (tickTimers timers switches panel).trace.sent = [] := by
  induction timers generalizing switches panel with
  | nil => rfl
  | cons timer rest ih => simp [tickTimers, SwitchTimer.sent_tick, ih]

theorem sent_commandTimers (code : Nat) (timers : List SwitchTimer) :
    (commandTimers code timers).trace.sent = [] := by
  induction timers with
  | nil => rfl
  | cons timer rest ih => simp [commandTimers, SwitchTimer.sent_command, ih]

/-- A text that does not start like the name of the timers is none of their
    answers. -/
theorem not_mem_commandTimers {text : String}
    (hother : text.toList.head? ≠ SwitchTimer.owner.toList.head?) (code : Nat)
    (timers : List SwitchTimer) : text ∉ (commandTimers code timers).value.2 := by
  induction timers with
  | nil => simp [commandTimers]
  | cons timer rest ih =>
    simp only [commandTimers, Traced.value_bind, Traced.value_pure, List.mem_append,
      Option.mem_toList]
    exact not_or_intro (SwitchTimer.reply_ne hother timer code) ih

/-- A module is kept exactly if it could be built, whatever kept it from that. -/
theorem value_keepBuilt {α : Type} (owner : String) (built : Traced (Except SetupFailure α)) :
    (keepBuilt owner built).value = built.value.toOption := by
  simp only [keepBuilt, Traced.value_bind]
  split
  · rename_i hbuilt
    rw [hbuilt]
    rfl
  · rename_i hbuilt
    rw [hbuilt]
    rfl
  · rename_i hbuilt
    rw [hbuilt]
    rfl

theorem jet_build (s : Settings) (pins : ι) :
    (build s pins).value.jet = (WaterJet.build s.jet s.faultDelay pins).value.toOption := by
  rw [← value_keepBuilt WaterJet.owner]
  rfl

/-- If a controller has a cutter, that is the one of its settings: the pins only
    decide whether there is one. -/
theorem jet_eq_of_build {s : Settings} {pins : ι} {jet : WaterJet}
    (hjet : (build s pins).value.jet = some jet) :
    jet = WaterJet.ofSettings s.jet s.faultDelay := by
  rw [jet_build] at hjet
  cases hbuilt : (WaterJet.build s.jet s.faultDelay pins).value with
  | ok built =>
    rw [hbuilt] at hjet
    cases hjet
    exact (WaterJet.build_ok hbuilt).1
  | error cause =>
    rw [hbuilt] at hjet
    cases hjet

/-- A controller starts without a pause, with or without water modules: a module
    that is built is not paused, and one that is missing cannot be. -/
theorem isSuspended_build (s : Settings) (pins : ι) : (build s pins).value.isSuspended = false := by
  have htank : (build s pins).value.tank.elim false WaterTank.isPaused = false := by
    have hbuilt : (build s pins).value.tank =
        (WaterTank.build s.tank s.faultDelay pins).value.toOption := by
      rw [← value_keepBuilt WaterTank.owner]
      rfl
    rw [hbuilt]
    cases htank : (WaterTank.build s.tank s.faultDelay pins).value with
    | ok tank => exact WaterTank.isPaused_build htank
    | error cause => rfl
  have hjet : (build s pins).value.jet.elim false WaterJet.isPaused = false := by
    cases hmodule : (build s pins).value.jet with
    | none => rfl
    | some jet =>
      obtain rfl := jet_eq_of_build hmodule
      rfl
  rw [isSuspended, htank, hjet, Bool.or_false]

theorem value_onModule {α β : Type} (step : α → β → Traced (α × β)) (module : Option α) (b : β) :
    (onModule step module b).value.1 = module.map fun a => (step a b).value.1 := by
  cases module <;> rfl

theorem sent_onModule {α β : Type} (step : α → β → Traced (α × β)) (module : Option α) (b : β) :
    (onModule step module b).trace.sent = module.elim [] fun a => (step a b).trace.sent := by
  cases module <;> simp [onModule]

/-- Reading the inputs is a reading by each water module. -/
theorem value_poll (c : Controller) (pins : ι) :
    (c.poll pins).value.tank = c.tank.map (fun t => (t.poll pins).value) ∧
      (c.poll pins).value.jet = c.jet.map (fun j => (j.poll pins).value) := by
  have hmap {α : Type} (step : α → Traced α) (module : Option α) :
      (module.mapM step).value = module.map fun a => (step a).value := by
    cases module <;> rfl
  exact ⟨hmap _ _, hmap _ _⟩

/-- Reading the inputs sends nothing. -/
theorem sent_poll (c : Controller) (pins : ι) : (c.poll pins).trace.sent = [] := by
  have htank (tank : WaterTank) : (tank.poll pins).trace.sent = [] := tank.sent_poll pins
  have hjet (jet : WaterJet) : (jet.poll pins).trace.sent = [] := jet.sent_poll pins
  have hmap {α : Type} (step : α → Traced α) (hstep : ∀ a, (step a).trace.sent = [])
      (module : Option α) : (module.mapM step).trace.sent = [] := by
    cases module with
    | none => rfl
    | some a =>
      have hsent : ((some a).mapM step).trace.sent = (step a).trace.sent ++ [] := rfl
      rw [hsent, hstep, List.append_nil]
  simp [poll, hmap _ htank, hmap _ hjet]

/-- A second of the controller is a second of each water module; what it sends,
    the tank sends first. -/
theorem tick_spec (c : Controller) (switches : σ) :
    ∃ tankPanel jetPanel : Menu.Navigator,
      (c.tick switches).value.1.tank = c.tank.map (fun t => (t.tick tankPanel).value.1) ∧
        (c.tick switches).value.1.jet = c.jet.map (fun j => (j.tick jetPanel).value.1) ∧
        (c.tick switches).trace.sent =
          (c.tank.elim [] fun t => (t.tick tankPanel).trace.sent) ++
            c.jet.elim [] fun j => (j.tick jetPanel).trace.sent := by
  refine ⟨(tickTimers c.timers switches c.navigator).value.2.2,
    (onModule WaterTank.tick c.tank (tickTimers c.timers switches c.navigator).value.2.2).value.2,
    ?_, ?_, ?_⟩
  · exact value_onModule _ _ _
  · exact value_onModule _ _ _
  · simp [tick, sent_tickTimers, sent_onModule]

/-- Driving the outputs drives those of each water module, and sends what waits
    in the cutter. -/
theorem drive_spec (c : Controller) (pins : ι) :
    (c.drive pins).value.1.tank = c.tank.map (fun t => (t.drive pins).value.1) ∧
      (∃ jetPins : ι, (c.drive pins).value.1.jet = c.jet.map fun j => (j.drive jetPins).value.1) ∧
      (c.drive pins).trace.sent = c.jet.elim [] fun j => j.context.outbox := by
  refine ⟨value_onModule _ _ _, ⟨(onModule WaterTank.drive c.tank pins).value.2,
    value_onModule _ _ _⟩, ?_⟩
  have htank : (onModule WaterTank.drive c.tank pins).trace.sent = [] := by
    rw [sent_onModule]
    cases c.tank with
    | none => rfl
    | some tank => exact tank.sent_drive pins
  simp only [drive, Traced.trace_bind, Trace.sent_append, htank, sent_onModule, WaterJet.sent_drive,
    Traced.trace_pure, List.nil_append, List.append_nil]

theorem value_commandTank (code : Nat) (tank : Option WaterTank) :
    (commandTank code tank).value.1 = tank.map fun t => (t.command code).value.1 := by
  cases tank <;> rfl

theorem value_commandJet (code : Nat) (jet : Option WaterJet) :
    (commandJet code jet).value.1 = jet.map fun j => (j.command code).value.1 := by
  cases jet <;> rfl

/-- A code goes to both water modules, whether one of them takes it or not. -/
theorem value_command (c : Controller) (code : Nat) :
    (c.command code).value.1.tank = c.tank.map (fun t => (t.command code).value.1) ∧
      (c.command code).value.1.jet = c.jet.map (fun j => (j.command code).value.1) := by
  refine ⟨?_, ?_⟩
  · rw [← value_commandTank]
    rfl
  · rw [← value_commandJet]
    rfl

/-- A command code sends nothing by itself; what the cutter queues is sent with
    its outputs. -/
theorem sent_command (c : Controller) (code : Nat) : (c.command code).trace.sent = [] := by
  have htank : (commandTank code c.tank).trace.sent = [] := by
    cases c.tank with
    | none => rfl
    | some tank => simp [commandTank, WaterTank.sent_command]
  have hjet : (commandJet code c.jet).trace.sent = [] := by
    cases c.jet with
    | none => rfl
    | some jet => simp [commandJet, WaterJet.sent_command]
  simp [command, sent_commandTimers, htank, hjet]

theorem value_resumeModule {α : Type} (step : α → Traced (α × Bool)) (module : Option α) :
    (resumeModule step module).value =
      (module.map (fun a => (step a).value.1), module.elim false fun a => (step a).value.2) := by
  cases module <;> rfl

/-- The operator's resume is one of each water module, and the answer tells
    whether any was paused. -/
theorem value_resume (c : Controller) :
    let was := (c.tank.elim false fun t => t.resume.value.2) ||
      c.jet.elim false fun j => j.resume.value.2
    c.resume.value.1.tank = c.tank.map (fun t => t.resume.value.1) ∧
      c.resume.value.1.jet = c.jet.map (fun j => j.resume.value.1) ∧
      c.resume.value.2 = [if was then "resumed" else "not suspended"] := by
  intro was
  simp only [resume, Traced.value_bind, value_resumeModule]
  split <;> exact ⟨rfl, rfl, rfl⟩

/-- The operator's resume ends every pause. -/
theorem isSuspended_resume (c : Controller) : c.resume.value.1.isSuspended = false := by
  obtain ⟨htank, hjet, _⟩ := c.value_resume
  unfold isSuspended
  rw [htank, hjet]
  cases c.tank <;> cases c.jet <;>
    simp [WaterJet.value_resume, WaterJet.isPaused, Escalator.resume, WaterTank.resume,
      WaterTank.isPaused]

/-- A suspended machine answers that it was resumed. Which module kept it
    suspended makes no difference. -/
theorem replies_resume {c : Controller} (hsuspended : c.isSuspended = true) :
    c.resume.value.2 = ["resumed"] := by
  obtain ⟨_, _, hreplies⟩ := c.value_resume
  have hwas : ((c.tank.elim false fun tank => tank.resume.value.2) ||
      c.jet.elim false fun jet => jet.resume.value.2) = true := by
    rw [isSuspended, Bool.or_eq_true] at hsuspended
    rw [Bool.or_eq_true]
    refine hsuspended.imp (fun htank => ?_) fun hjet => ?_
    · cases hmodule : c.tank with
      | none => simp [hmodule] at htank
      | some tank =>
        rw [hmodule] at htank
        exact htank
    · cases hmodule : c.jet with
      | none => simp [hmodule] at hjet
      | some jet =>
        rw [hmodule] at hjet
        change jet.isPaused = true at hjet
        simp [WaterJet.resume, hjet]
  rw [hreplies, if_pos hwas]

/-- A resume sends nothing by itself. -/
theorem sent_resume (c : Controller) : c.resume.trace.sent = [] := by
  have htank : (resumeModule WaterTank.resume c.tank).trace.sent = [] := by
    cases c.tank <;> rfl
  have hjet : (resumeModule WaterJet.resume c.jet).trace.sent = [] := by
    cases c.jet with
    | none => rfl
    | some jet => simp [resumeModule, WaterJet.sent_resume]
  simp only [resume, Traced.trace_bind, Trace.sent_append, htank, hjet, List.nil_append]
  split <;> simp

theorem value_handleLines_cons (c : Controller) (line : String) (rest : List String) :
    (c.handleLines (line :: rest)).value =
      (((c.handleLine line).value.1.handleLines rest).value.1,
        (c.handleLine line).value.2 :: ((c.handleLine line).value.1.handleLines rest).value.2) := by
  simp only [handleLines, Traced.value_bind, Traced.value_pure]

/-- Console lines send nothing to the machine by themselves. -/
theorem sent_handleLine (c : Controller) (line : String) : (c.handleLine line).trace.sent = [] := by
  unfold handleLine
  split
  · exact c.sent_resume
  · exact c.sent_command _
  · rfl

end Controller

end Interlock
