import Interlock.Proofs.Alarm.Report
import Interlock.Proofs.Jet.Move

namespace Interlock

namespace WaterJet

variable {π : Type} [Panel π]

/-- A report changes neither the process nor what it asks of the outputs. -/
theorem frame_escalate (j : WaterJet) (panel : π) :
    let reported := (j.escalate panel).value.1
    reported.process = j.process ∧ reported.active = j.active ∧
      reported.context.outputs = j.context.outputs ∧
      reported.context.verdict = j.context.verdict ∧
      reported.context.suspendRequested = j.context.suspendRequested ∧
      reported.context.raisedFault = none := by
  intro reported
  simp only [reported, escalate]
  split <;> simp

theorem escalate_reporting {j : WaterJet}
    (hreports : (j.context.raisedFault.isSome || j.state.escalates) = true) (panel : π) :
    (j.escalate panel).value.1.alarm = (j.alarm.report j.context.raisedFault panel).value.1 ∧
      (j.escalate panel).trace = (j.alarm.report j.context.raisedFault panel).trace := by
  unfold state at hreports
  simp [escalate, state, hreports]

theorem escalate_silent {j : WaterJet}
    (hsilent : (j.context.raisedFault.isSome || j.state.escalates) = false) (panel : π) :
    (j.escalate panel).value.1.alarm = j.alarm ∧ (j.escalate panel).trace = {} := by
  unfold state at hsilent
  simp [escalate, state, hsilent]

/-- A report leaves the level history, the waiting commands and useful work
    alone. -/
theorem kept_escalate (j : WaterJet) (panel : π) :
    let reported := (j.escalate panel).value.1
    reported.guard = j.guard ∧ reported.sensors = j.sensors ∧
      reported.context.outbox = j.context.outbox ∧
      reported.context.frozen = j.context.frozen ∧
      reported.context.abrasiveHopper = j.context.abrasiveHopper ∧
      reported.context.spentAbrasive = j.context.spentAbrasive := by
  intro reported
  simp only [reported, escalate]
  split <;> simp

/-- A report that suspends the machine is noted as the suspension, unless
    another one is. -/
theorem suspension_escalate (j : WaterJet) (panel : π) :
    (j.escalate panel).value.1.context.suspension =
      if j.context.raisedFault.isSome && !j.isPaused then
        some (j.context.suspension.getD .escalation)
      else j.context.suspension := by
  unfold escalate
  dsimp only
  split
  · simp [Alarm.suspended_report, isPaused]
  · rename_i hquiet
    have hnone : j.context.raisedFault.isSome = false := by
      simp only [Bool.or_eq_true, not_or, Bool.not_eq_true] at hquiet
      exact hquiet.1
    simp [hnone]

/-- What the evaluation of this second finds. -/
def found (j : WaterJet) : Verdict :=
  j.evaluate.value.2

/-- What the process is asked with in this second. -/
def seen (j : WaterJet) : JobContext :=
  (j.observe j.found).tickWork

/-- The cutter once the process has moved on. -/
def advanced (j : WaterJet) : WaterJet :=
  { j with
    alarm := { j.alarm with escalator := j.alarm.escalator.tick }
    guard := j.evaluate.value.1
    process := (j.process.tick j.seen).process
    context := (j.process.tick j.seen).context }

theorem tick_of_inactive {j : WaterJet} (hinactive : j.active = false) (panel : π) :
    j.tick panel = ⟨(j, panel), {}⟩ := by
  simp only [tick, hinactive]
  rfl

/-- A second evaluates the level and moves the process on, takes note of a
    suspension, reports what was found and settles the pause. -/
theorem value_tick {j : WaterJet} (hactive : j.active = true) (panel : π) :
    (j.tick panel).value.1 =
      (j.advanced.absorbSuspend.value.escalate panel).value.1.settlePause := by
  unfold tick
  rw [if_neg (by simp [hactive])]
  rfl

theorem sent_evaluate (j : WaterJet) : j.evaluate.trace.sent = [] := by
  unfold evaluate
  split <;> rfl

theorem events_evaluate (j : WaterJet) : j.evaluate.trace.events = [] := by
  unfold evaluate
  split <;> rfl

/-- Nothing but the report of a second sends commands. What the process queues
    is left for the next drive. -/
theorem sent_tick {j : WaterJet} (hactive : j.active = true) (panel : π) :
    (j.tick panel).trace.sent = (j.advanced.absorbSuspend.value.escalate panel).trace.sent := by
  have htrace : (j.tick panel).trace.sent =
      j.evaluate.trace.sent ++ ([] ++ ([] ++ (j.advanced.absorbSuspend.trace.sent ++
        ((j.advanced.absorbSuspend.value.escalate panel).trace.sent ++ [])))) := by
    unfold tick
    rw [if_neg (by simp [hactive])]
    rfl
  simp [htrace, sent_evaluate]

/-- A second tells of the move of the process, of a suspension by the process
    itself and of what the alarm reports. -/
theorem events_tick {j : WaterJet} (hactive : j.active = true) (panel : π) :
    (j.tick panel).trace.events =
      moveEvents (j.process.tick j.seen).move ++ (j.advanced.absorbSuspend.trace.events ++
        (j.advanced.absorbSuspend.value.escalate panel).trace.events) := by
  have htrace : (j.tick panel).trace.events =
      j.evaluate.trace.events ++ ([] ++ (moveEvents (j.process.tick j.seen).move ++
        (j.advanced.absorbSuspend.trace.events ++
          ((j.advanced.absorbSuspend.value.escalate panel).trace.events ++ [])))) := by
    unfold tick
    rw [if_neg (by simp [hactive])]
    rfl
  simp [htrace, events_evaluate]

theorem reports_tick {j : WaterJet} (hactive : j.active = true) (panel : π) (source : String) :
    Event.reports source (j.tick panel).trace.events =
      Event.reports source (j.advanced.absorbSuspend.value.escalate panel).trace.events := by
  simp [events_tick hactive, reports_moveEvents]

@[simp] theorem verdict_seen (j : WaterJet) : j.seen.verdict = j.found := rfl

@[simp] theorem paused_seen (j : WaterJet) : j.seen.paused = j.isPaused := rfl

theorem state_advanced (j : WaterJet) : j.advanced.state = j.state.successor j.seen := by
  simp [advanced, state, JobProcess.tick_eq_moveTo]

/-- Moving on enters the successor, unless that is the state of the process
    already. -/
theorem context_advanced (j : WaterJet) :
    j.advanced.context =
      let asked := { j.seen with raisedFault := (j.state.raises j.found).or j.context.raisedFault }
      if j.state.successor j.seen = j.state then asked
      else (j.state.successor j.seen).enter asked := by
  simp only [advanced, JobProcess.tick_eq_moveTo, JobProcess.context_moveTo]
  rfl

/-- Moving on leaves of a suspension what the state leaves that is entered. -/
theorem suspension_advanced (j : WaterJet) :
    j.advanced.context.suspension =
      if j.state.successor j.seen = j.state then j.context.suspension
      else (j.state.successor j.seen).entrySuspension j.context.suspension := by
  rw [context_advanced]
  dsimp only
  split
  · rfl
  · exact ProcessState.suspension_enter _ _

/-- Moving on queues the commands of the state that is entered, as far as there
    is room. -/
theorem outbox_advanced (j : WaterJet) :
    j.advanced.context.outbox =
      if j.state.successor j.seen = j.state then j.context.outbox
      else
        j.context.outbox ++
          ((j.state.successor j.seen).entryCommands j.context.suspension).take j.context.room := by
  rw [context_advanced]
  dsimp only
  split
  · rfl
  · exact ProcessState.outbox_enter _ _

theorem verdict_advanced (j : WaterJet) : j.advanced.context.verdict = j.found := by
  rw [context_advanced]
  dsimp only
  split <;> simp

theorem Settled.raisedFault_advanced {j : WaterJet} (hsettled : j.Settled) :
    j.advanced.context.raisedFault = j.state.raises j.found := by
  rw [context_advanced]
  dsimp only
  split <;> simp [hsettled.none_raised]

/-- A second does not suspend the machine by the process itself, since the
    states that do are never chosen as the next one. -/
theorem Settled.suspendRequested_advanced {j : WaterJet} (hsettled : j.Settled) :
    j.advanced.context.suspendRequested = false := by
  rw [context_advanced]
  dsimp only
  split
  · exact hsettled.none_requested
  · rename_i hmoves
    rw [ProcessState.suspendRequested_enter, ProcessState.suspends_successor hmoves]
    exact hsettled.none_requested

/-- Moving on leaves the head as the state sets it, entered or not: a state that
    was entered before has set it already, which a settled cutter keeps. -/
theorem Settled.headOn_advanced {j : WaterJet} (hsettled : j.Settled) :
    j.advanced.headOn = j.advanced.state.entryHead.getD j.headOn := by
  rw [state_advanced]
  unfold headOn
  rw [context_advanced]
  dsimp only
  split
  · rename_i hstays
    rw [hstays]
    exact hsettled.entryHead_getD.symm
  · rw [ProcessState.highPressurePump_enter]
    rfl

theorem Settled.absorbSuspend_advanced {j : WaterJet} (hsettled : j.Settled) :
    j.advanced.absorbSuspend = ⟨j.advanced, {}⟩ := by
  simp [absorbSuspend, hsettled.suspendRequested_advanced]

/-- The state after a second is the successor that the finding of the second
    decides. -/
theorem Settled.state_tick {j : WaterJet} (hsettled : j.Settled) (hactive : j.active = true)
    (panel : π) : (j.tick panel).value.1.state = j.state.successor j.seen := by
  rw [value_tick hactive, hsettled.absorbSuspend_advanced, ← state_advanced]
  unfold settlePause state
  rw [(frame_escalate j.advanced panel).1]

/-- The context after a second is that of the process, with the fault reported
    and the pause settled. -/
theorem Settled.context_tick {j : WaterJet} (hsettled : j.Settled) (hactive : j.active = true)
    (panel : π) :
    let after := (j.tick panel).value.1
    after.context.outputs = j.advanced.context.outputs ∧ after.context.verdict = j.found ∧
      after.context.suspendRequested = false ∧ after.context.raisedFault = none ∧
      after.context.paused = after.isPaused ∧ after.active = j.active := by
  intro after
  have hvalue : after = (j.advanced.escalate panel).value.1.settlePause := by
    rw [← show j.advanced.absorbSuspend.value = j.advanced by rw [hsettled.absorbSuspend_advanced]]
    exact value_tick hactive panel
  obtain ⟨_, hactiveAfter, houtputs, hverdict, hrequested, hraised⟩ :=
    frame_escalate j.advanced panel
  rw [hvalue]
  refine ⟨houtputs, hverdict.trans (verdict_advanced j), ?_, hraised, rfl, hactiveAfter⟩
  exact hrequested.trans hsettled.suspendRequested_advanced

/-- The head after a second is as the state sets it. -/
theorem Settled.headOn_tick {j : WaterJet} (hsettled : j.Settled) (hactive : j.active = true)
    (panel : π) :
    (j.tick panel).value.1.headOn = (j.tick panel).value.1.state.entryHead.getD j.headOn := by
  obtain ⟨houtputs, _⟩ := hsettled.context_tick hactive panel
  rw [hsettled.state_tick hactive, ← state_advanced, ← hsettled.headOn_advanced]
  unfold headOn
  rw [houtputs]

/-- In a second with a report, the alarm and the outside see the report and
    nothing else. -/
theorem Settled.tick_reporting {j : WaterJet} (hsettled : j.Settled) (hactive : j.active = true)
    (hreports : ((j.state.raises j.found).isSome || (j.state.successor j.seen).escalates) = true)
    (panel : π) :
    let report := j.advanced.alarm.report (j.state.raises j.found) panel
    (j.tick panel).value.1.alarm = report.value.1 ∧ (j.tick panel).trace.sent = report.trace.sent ∧
      ∀ source, Event.reports source (j.tick panel).trace.events =
        Event.reports source report.trace.events := by
  rw [← hsettled.raisedFault_advanced] at hreports ⊢
  rw [← state_advanced] at hreports
  obtain ⟨halarm, htrace⟩ := escalate_reporting hreports panel
  refine ⟨?_, ?_, fun source => ?_⟩
  · rw [value_tick hactive, hsettled.absorbSuspend_advanced]
    exact halarm
  · rw [sent_tick hactive, hsettled.absorbSuspend_advanced, htrace]
  · rw [reports_tick hactive, hsettled.absorbSuspend_advanced, htrace]

/-- In a second without a report, the alarm only counts and the outside sees
    nothing of it. A process that raises nothing asks for no suspension either. -/
theorem Settled.tick_silent {j : WaterJet} (hsettled : j.Settled) (hactive : j.active = true)
    (hsilent : ((j.state.raises j.found).isSome || (j.state.successor j.seen).escalates) = false)
    (panel : π) :
    (j.tick panel).value.1.alarm = j.advanced.alarm ∧ (j.tick panel).trace.sent = [] ∧
      ∀ source, Event.reports source (j.tick panel).trace.events = [] := by
  rw [← hsettled.raisedFault_advanced, ← state_advanced] at hsilent
  obtain ⟨halarm, htrace⟩ := escalate_silent hsilent panel
  refine ⟨?_, ?_, fun source => ?_⟩
  · rw [value_tick hactive, hsettled.absorbSuspend_advanced]
    exact halarm
  · rw [sent_tick hactive, hsettled.absorbSuspend_advanced, htrace]
  · rw [reports_tick hactive, hsettled.absorbSuspend_advanced, htrace]
    rfl

/-- A second in which the process leaves a fault behind suspends the machine,
    once, and tells of the fault when it is another one than that of the last
    report. Any panel will do, since none can keep the machine from being
    suspended. -/
theorem Settled.tick_fault {j : WaterJet} (hsettled : j.Settled) (hactive : j.active = true)
    {fault : LevelFault} (hfault : j.state.raises j.found = some fault) (panel : π) :
    let after := (j.tick panel).value.1
    after.isPaused = true ∧ after.context.frozen = true ∧
      (j.tick panel).trace.sent = (if j.isPaused then [] else [suspendCommand]) ∧
      Event.reports owner (j.tick panel).trace.events =
        (if j.alarm.last = some fault then [] else [some fault]) := by
  intro after
  obtain ⟨halarm, hsent, hreports⟩ := hsettled.tick_reporting hactive (by simp [hfault]) panel
  rw [hfault] at halarm hsent hreports
  obtain ⟨hpaused, _, _, hsentReport, hreportsReport⟩ := j.advanced.alarm.report_fault fault panel
  have howner : j.advanced.alarm.escalator.owner = owner := hsettled.owner_eq
  rw [howner] at hreportsReport
  have hpausedAfter : after.isPaused = true := by
    unfold isPaused
    rw [halarm]
    exact hpaused
  refine ⟨hpausedAfter, ?_, hsent.trans hsentReport, (hreports owner).trans hreportsReport⟩
  have hvalue : after = (j.advanced.absorbSuspend.value.escalate panel).value.1.settlePause :=
    value_tick hactive panel
  rw [hvalue] at hpausedAfter ⊢
  simp only [settlePause, Bool.or_eq_true]
  exact Or.inl hpausedAfter

/-- A second in which the process leaves no fault behind neither suspends the
    machine nor lifts a pause. -/
theorem Settled.tick_clear {j : WaterJet} (hsettled : j.Settled) (hactive : j.active = true)
    (hclear : j.state.raises j.found = none) (panel : π) :
    (j.tick panel).value.1.isPaused = j.isPaused ∧ (j.tick panel).trace.sent = [] := by
  cases hescalates : (j.state.successor j.seen).escalates with
  | true =>
    obtain ⟨halarm, hsent, _⟩ := hsettled.tick_reporting hactive (by simp [hescalates]) panel
    rw [hclear] at halarm hsent
    obtain ⟨hpaused, _, _, hsentReport, _⟩ := j.advanced.alarm.report_clear panel
    refine ⟨?_, hsent.trans hsentReport⟩
    unfold isPaused
    rw [halarm]
    exact hpaused
  | false =>
    obtain ⟨halarm, hsent, _⟩ :=
      hsettled.tick_silent hactive (by simp [hclear, hescalates]) panel
    refine ⟨?_, hsent⟩
    unfold isPaused
    rw [halarm]
    rfl

/-- A second pauses the cutter by a fault that the process leaves behind, and by
    nothing else. -/
theorem Settled.isPaused_tick {j : WaterJet} (hsettled : j.Settled) (hactive : j.active = true)
    (panel : π) :
    (j.tick panel).value.1.isPaused = ((j.state.raises j.found).isSome || j.isPaused) := by
  cases hraises : j.state.raises j.found with
  | some fault => simpa using (hsettled.tick_fault hactive hraises panel).1
  | none => simpa using (hsettled.tick_clear hactive hraises panel).1

/-- Of itself a second sends nothing but the suspend command, by a fault in a
    cutter that was not paused. -/
theorem Settled.sent_tick_eq {j : WaterJet} (hsettled : j.Settled) (hactive : j.active = true)
    (panel : π) :
    (j.tick panel).trace.sent =
      if (j.state.raises j.found).isSome && !j.isPaused then [suspendCommand] else [] := by
  cases hraises : j.state.raises j.found with
  | some fault =>
    rw [(hsettled.tick_fault hactive hraises panel).2.2.1]
    cases j.isPaused <;> rfl
  | none => simpa using (hsettled.tick_clear hactive hraises panel).2

/-- The fault on which a second of an active cutter leaves its state. -/
def fault? (j : WaterJet) : Option LevelFault :=
  if j.active then j.state.raises j.found else none

/-- A second pauses the cutter, active or not, by the fault that it finds and by
    nothing else. -/
theorem Settled.isPaused_second {j : WaterJet} (hsettled : j.Settled) (panel : π) :
    (j.tick panel).value.1.isPaused = (j.fault?.isSome || j.isPaused) := by
  unfold fault?
  cases hactive : j.active with
  | false =>
    rw [tick_of_inactive hactive]
    rfl
  | true => exact hsettled.isPaused_tick hactive panel

/-- Of itself a second sends the suspend command by a fault that is found in a
    cutter which was not paused; an inactive one finds none. -/
theorem Settled.sent_second {j : WaterJet} (hsettled : j.Settled) (panel : π) :
    (j.tick panel).trace.sent =
      if j.fault?.isSome && !j.isPaused then [suspendCommand] else [] := by
  unfold fault?
  cases hactive : j.active with
  | false =>
    rw [tick_of_inactive hactive]
    rfl
  | true => exact hsettled.sent_tick_eq hactive panel

/-- What a second leaves as the process left it. The report of a fault comes
    after the process has moved, and only touches the alarm, the panel and the
    freezing of the counters. -/
theorem Settled.kept_tick {j : WaterJet} (hsettled : j.Settled) (hactive : j.active = true)
    (panel : π) :
    let after := (j.tick panel).value.1
    after.guard = j.evaluate.value.1 ∧ after.sensors = j.sensors ∧
      after.context.outbox = j.advanced.context.outbox ∧
      after.context.frozen = (after.isPaused || j.advanced.context.frozen) ∧
      after.context.abrasiveHopper = j.advanced.context.abrasiveHopper ∧
      after.context.spentAbrasive = j.advanced.context.spentAbrasive := by
  intro after
  have hvalue : after = (j.advanced.escalate panel).value.1.settlePause := by
    rw [← show j.advanced.absorbSuspend.value = j.advanced by rw [hsettled.absorbSuspend_advanced]]
    exact value_tick hactive panel
  obtain ⟨hguard, hsensors, houtbox, hfrozen, hhopper, hspent⟩ := kept_escalate j.advanced panel
  rw [hvalue]
  refine ⟨hguard, hsensors, houtbox, ?_, hhopper, hspent⟩
  rw [← hfrozen]
  rfl

/-- A second in which a fault suspends the machine notes the escalation, unless
    the pause sequence was sent before. -/
theorem Settled.suspension_tick {j : WaterJet} (hsettled : j.Settled) (hactive : j.active = true)
    (panel : π) :
    (j.tick panel).value.1.context.suspension =
      if (j.state.raises j.found).isSome && !j.isPaused then
        some (j.advanced.context.suspension.getD .escalation)
      else j.advanced.context.suspension := by
  rw [value_tick hactive, hsettled.absorbSuspend_advanced, ← hsettled.raisedFault_advanced]
  exact suspension_escalate j.advanced panel

/-- A second keeps the cutter settled: the fault that the process raised is
    reported in the same second, and both notes of the pause are brought in line
    at its end. -/
theorem Settled.tick {j : WaterJet} (hsettled : j.Settled) (panel : π) :
    (j.tick panel).value.1.Settled := by
  cases hactive : j.active with
  | false => rwa [tick_of_inactive hactive]
  | true =>
    obtain ⟨_, _, hrequested, hraised, hpaused, _⟩ := hsettled.context_tick hactive panel
    have howner : (j.tick panel).value.1.alarm.escalator.owner = owner := by
      cases hreports :
          ((j.state.raises j.found).isSome || (j.state.successor j.seen).escalates) with
      | true =>
        rw [(hsettled.tick_reporting hactive hreports panel).1, Alarm.owner_report]
        exact hsettled.owner_eq
      | false =>
        rw [(hsettled.tick_silent hactive hreports panel).1]
        exact hsettled.owner_eq
    refine ⟨howner, hpaused, hrequested, hraised, ?_, ?_⟩
    · intro hrunning
      rw [hsettled.state_tick hactive] at hrunning
      exact absurd hrunning (ProcessState.successor_ne_running _ _)
    · intro on hentry
      rw [hsettled.headOn_tick hactive, hentry]
      rfl

end WaterJet

end Interlock
