import Interlock.Proofs.Alarm.Report
import Interlock.Proofs.Jet.Operation
import Interlock.Proofs.Job.Machine

namespace Interlock

namespace WaterJet

/-- Whether the process asks for the cutting head. -/
def headOn (j : WaterJet) : Bool :=
  j.context.outputs.highPressurePump

@[simp] theorem value_absorbSuspend (j : WaterJet) :
    j.absorbSuspend.value =
      { j with
        context := { j.context with suspendRequested := false }
        alarm :=
          { j.alarm with
            escalator :=
              { j.alarm.escalator with
                paused := j.context.suspendRequested || j.alarm.escalator.paused } } } := by
  unfold absorbSuspend
  cases hrequested : j.context.suspendRequested with
  | true => simp [Escalator.markPaused]
  | false =>
    simp only [Bool.false_eq_true, if_false, Bool.false_or]
    rw [← hrequested]

@[simp] theorem sent_absorbSuspend (j : WaterJet) : j.absorbSuspend.trace.sent = [] := by
  unfold absorbSuspend
  split <;> rfl

@[simp] theorem reports_absorbSuspend (source : String) (j : WaterJet) :
    Event.reports source j.absorbSuspend.trace.events = [] := by
  unfold absorbSuspend
  split <;> rfl

theorem reports_moveEvents (source : String) (move : Option (ProcessState × ProcessState)) :
    Event.reports source (moveEvents move) = [] := by
  rcases move with _ | ⟨before, after⟩ <;> rfl

/-- What holds of a cutter whenever no operation is under way: the pause is
    known to the process, no suspension and no fault wait to be taken note of,
    and the head is as the state has set it. -/
structure Settled (j : WaterJet) : Prop where
  owner_eq : j.alarm.escalator.owner = owner
  paused_eq : j.context.paused = j.isPaused
  none_requested : j.context.suspendRequested = false
  none_raised : j.context.raisedFault = none
  running_unpaused : j.state = .running → j.isPaused = false
  head_eq : ∀ on, j.state.entryHead = some on → j.headOn = on

/-- The head of a settled cutter needs no distinction between states that set it
    and those that leave it. -/
theorem Settled.entryHead_getD {j : WaterJet} (hsettled : j.Settled) :
    j.state.entryHead.getD j.headOn = j.headOn := by
  cases hentry : j.state.entryHead with
  | none => rfl
  | some on => simp [hsettled.head_eq on hentry]

/-- A job starts afresh before the process moves into it. -/
def preparedFor (j : WaterJet) (target : ProcessState) : WaterJet :=
  if target = .running then j.freshen else j

/-- The move of the process that a command makes. -/
def moved (j : WaterJet) (target : ProcessState) : WaterJet :=
  { j.preparedFor target with
    process := ((j.preparedFor target).process.moveTo target (j.preparedFor target).context).process
    context :=
      ((j.preparedFor target).process.moveTo target (j.preparedFor target).context).context }

/-- A move by command is the move of the process, and then takes note of a
    suspension. -/
theorem value_goto (j : WaterJet) (target : ProcessState) :
    (j.goto target).value = (j.moved target).absorbSuspend.value := rfl

@[simp] theorem sent_goto (j : WaterJet) (target : ProcessState) :
    (j.goto target).trace.sent = [] := by
  simp [goto]

@[simp] theorem reports_goto (source : String) (j : WaterJet) (target : ProcessState) :
    Event.reports source (j.goto target).trace.events = [] := by
  simp [goto, reports_moveEvents]

@[simp] theorem process_preparedFor (j : WaterJet) (target : ProcessState) :
    (j.preparedFor target).process = j.process := by
  unfold preparedFor
  split <;> rfl

theorem context_preparedFor (j : WaterJet) (target : ProcessState) :
    (j.preparedFor target).context =
      { j.context with
        suspension := if target = .running then none else j.context.suspension } := by
  unfold preparedFor
  split <;> rfl

/-- A new job starts unpaused, whatever paused the one before. -/
theorem alarm_preparedFor (j : WaterJet) (target : ProcessState) :
    (j.preparedFor target).alarm =
      { j.alarm with
        escalator :=
          { j.alarm.escalator with
            paused := target != .running && j.alarm.escalator.paused } } := by
  unfold preparedFor
  split
  · rename_i hrunning
    simp [freshen, Escalator.resume, hrunning]
  · rename_i hrunning
    rw [bne_iff_ne.2 hrunning, Bool.true_and]

theorem context_goto (j : WaterJet) (target : ProcessState) :
    (j.goto target).value.context =
      { (if target = j.state then (j.preparedFor target).context
          else target.enter (j.preparedFor target).context) with suspendRequested := false } := by
  simp only [value_goto, value_absorbSuspend, moved, process_preparedFor, JobProcess.context_moveTo]
  rfl

/-- A move by command queues the commands of the state that is entered, as far
    as there is room. -/
theorem outbox_goto (j : WaterJet) (target : ProcessState) :
    (j.goto target).value.context.outbox =
      if target = j.state then j.context.outbox
      else j.context.outbox ++ (target.entryCommands j.context.suspension).take j.context.room := by
  rw [context_goto, context_preparedFor]
  split
  · rfl
  · dsimp only
    rw [ProcessState.outbox_enter]
    cases target <;> rfl

@[simp] theorem state_goto (j : WaterJet) (target : ProcessState) :
    (j.goto target).value.state = target := by
  simp [value_goto, moved, state]

@[simp] theorem active_goto (j : WaterJet) (target : ProcessState) :
    (j.goto target).value.active = j.active := by
  simp only [value_goto, value_absorbSuspend, moved, preparedFor]
  split <;> rfl

@[simp] theorem sensors_goto (j : WaterJet) (target : ProcessState) :
    (j.goto target).value.sensors = j.sensors := by
  simp only [value_goto, value_absorbSuspend, moved, preparedFor]
  split <;> rfl

@[simp] theorem last_goto (j : WaterJet) (target : ProcessState) :
    (j.goto target).value.alarm.last = j.alarm.last := by
  simp [value_goto, moved, alarm_preparedFor]

theorem frozen_goto (j : WaterJet) (target : ProcessState) :
    (j.goto target).value.context.frozen =
      if target = j.state then j.context.frozen else target.entryFrozen.getD j.context.frozen := by
  rw [context_goto, context_preparedFor]
  split <;> simp

/-- A move by command leaves the head as the state sets it. If the process is in
    the state already nothing is entered, and a settled head is as the state
    sets it. -/
theorem Settled.headOn_goto {j : WaterJet} (hsettled : j.Settled) (target : ProcessState) :
    (j.goto target).value.headOn = target.entryHead.getD j.headOn := by
  simp only [value_goto, value_absorbSuspend, moved, headOn, process_preparedFor,
    context_preparedFor, JobProcess.context_moveTo]
  split
  · rename_i hstay
    have hhead := hsettled.entryHead_getD
    rw [state, ← hstay] at hhead
    exact hhead.symm
  · simp

/-- A move by command lifts the pause for a new job, and pauses where the
    process suspends the machine. Entering is what suspends, so that staying in
    such a state does not. -/
theorem Settled.isPaused_goto {j : WaterJet} (hsettled : j.Settled) (target : ProcessState) :
    (j.goto target).value.isPaused =
      (target != .running && ((target != j.state && target.suspends) || j.isPaused)) := by
  simp only [value_goto, value_absorbSuspend, moved, isPaused, process_preparedFor,
    context_preparedFor, alarm_preparedFor, JobProcess.context_moveTo]
  by_cases hstay : target = j.process.current
  · simp [hstay, state, hsettled.none_requested]
  · cases target <;> simp [hstay, state, hsettled.none_requested, ProcessState.suspends]

/-- A move by command keeps the cutter settled: it takes note of a suspension at
    once, and no state raises a fault as it is entered. -/
theorem Settled.goto {j : WaterJet} (hsettled : j.Settled) (target : ProcessState) :
    (j.goto target).value.Settled where
  owner_eq := by
    simpa [value_goto, moved, alarm_preparedFor] using hsettled.owner_eq
  paused_eq := by
    rw [hsettled.isPaused_goto]
    simp only [value_goto, value_absorbSuspend, moved, process_preparedFor, context_preparedFor,
      JobProcess.context_moveTo]
    by_cases hstay : target = j.process.current
    · -- Only here the resume for a new job could leave the process behind.
      by_cases hrunning : target = .running
      · have hpaused := hsettled.running_unpaused (hstay.symm.trans hrunning)
        simp [hstay.symm, hrunning, hsettled.paused_eq, hpaused]
      · simp [hstay.symm, hrunning, state, hsettled.paused_eq]
    · simp [hstay, state, hsettled.paused_eq, bne_iff_ne.2 hstay]
  none_requested := by simp [value_goto]
  none_raised := by
    simp only [value_goto, value_absorbSuspend, moved, process_preparedFor, context_preparedFor,
      JobProcess.context_moveTo]
    split <;> simp [hsettled.none_raised]
  running_unpaused := by
    intro hrunning
    rw [state_goto] at hrunning
    simp [hsettled.isPaused_goto, hrunning]
  head_eq := by
    intro on hentry
    rw [state_goto] at hentry
    simp [hsettled.headOn_goto, hentry]

end WaterJet

end Interlock
