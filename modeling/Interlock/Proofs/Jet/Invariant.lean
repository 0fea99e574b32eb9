import Interlock.Proofs.Jet.Second
import Interlock.Proofs.Run

namespace Interlock

namespace WaterJet

@[simp] theorem value_setActive (j : WaterJet) (active : Bool) :
    (j.setActive active).value = { j with active } := by
  unfold setActive
  split
  · rename_i hsame
    rw [← hsame]
  · rfl

/-- Switching on moves a cutter out of `off`, and starts the counters of useful
    work in any case. -/
theorem value_enable (j : WaterJet) :
    j.enable.value =
      let moved := if j.state = .off then (goto { j with active := true } .menu).value
        else { j with active := true }
      { moved with context := moved.context.startWork } := by
  simp only [enable, Traced.value_bind, value_setActive]
  unfold state
  split <;> rfl

theorem value_disable (j : WaterJet) :
    j.disable.value =
      (goto { j with active := false, context := j.context.stopWork } .off).value := by
  simp [disable]

theorem value_startJob (j : WaterJet) :
    j.startJob.value.1 =
      if j.active = true ∧ j.sensors.doorClosed = true then (j.goto .running).value else j := by
  unfold startJob
  cases j.active <;> cases j.sensors.doorClosed <;> rfl

theorem value_command (j : WaterJet) (code : Nat) :
    (j.command code).value.1 =
      if code = statusCode then j
      else if code = enableCode then j.enable.value
      else if code = disableCode then j.disable.value
      else if code = startCode then j.startJob.value.1
      else if code = endCode then (j.goto .ending).value
      else j := by
  unfold command
  split_ifs <;> rfl

/-- What a command makes of a cutter. -/
inductive AfterCommand (j : WaterJet) : Nat → WaterJet → Prop where
  | switchedOn (hoff : j.state = .off) :
      AfterCommand j enableCode
        { (goto { j with active := true } .menu).value with
          context := (goto { j with active := true } .menu).value.context.startWork }
  | keptOn (hon : j.state ≠ .off) :
      AfterCommand j enableCode { j with active := true, context := j.context.startWork }
  | switchedOff :
      AfterCommand j disableCode
        (goto { j with active := false, context := j.context.stopWork } .off).value
  | started (haccepts : j.active = true ∧ j.sensors.doorClosed = true) :
      AfterCommand j startCode (j.goto .running).value
  | ended : AfterCommand j endCode (j.goto .ending).value
  | unchanged {code : Nat} (hother : code ∉ [enableCode, disableCode, endCode])
      (hrefused : ¬(code = startCode ∧ j.active = true ∧ j.sensors.doorClosed = true)) :
      AfterCommand j code j

/-- A command makes of the cutter one of these, by the code and by whether the
    cutter was off or accepts a job. -/
theorem afterCommand_command (j : WaterJet) (code : Nat) :
    AfterCommand j code (j.command code).value.1 := by
  rw [value_command, value_startJob, value_enable, value_disable]
  dsimp only
  split_ifs with hstatus henable hoff hdisable hstart haccepts hend
  · exact hstatus ▸ .unchanged (by decide) (fun hjob => absurd hjob.1 (by decide))
  · exact henable ▸ .switchedOn hoff
  · exact henable ▸ .keptOn hoff
  · exact hdisable ▸ .switchedOff
  · exact hstart ▸ .started haccepts
  · exact .unchanged (by simp [hstart, startCode, enableCode, disableCode, endCode])
      (fun hjob => haccepts hjob.2)
  · exact hend ▸ .ended
  · exact .unchanged (by simp [henable, hdisable, hend]) (fun hjob => hstart hjob.1)

/-- A resume lifts the pause in both notes of it. The level history starts over
    only if one of them was set. -/
theorem value_resume (j : WaterJet) :
    j.resume.value.1 =
      { j with
        alarm := { j.alarm with escalator := j.alarm.escalator.resume }
        context := { j.context with paused := false }
        guard := if j.isPaused || j.context.paused then j.guard.resetTimers else j.guard } := by
  unfold resume
  by_cases hwas : (j.isPaused || j.context.paused) = true
  · simp only [hwas, if_true]
  · have hpaused : j.context.paused = false := by simp_all
    rw [if_neg hwas, if_neg hwas, ← hpaused]

/-- Reading the inputs touches the sensors alone, and those of an active module
    only. -/
theorem value_poll {ι : Type} [PinAccess ι] (j : WaterJet) (pins : ι) :
    (j.poll pins).value =
      { j with sensors := if j.active then (j.sensors.poll pins).value else j.sensors } := by
  unfold poll
  by_cases hactive : j.active = true
  · rw [if_neg (by simp [hactive]), if_pos hactive]
    rfl
  · rw [if_pos (by simp [hactive]), if_neg hactive]
    rfl

/-- A new cutter is settled, with nothing noted anywhere. -/
theorem settled_ofSettings (s : JetSettings) (delay : Nat) : (ofSettings s delay).Settled where
  owner_eq := rfl
  paused_eq := rfl
  none_requested := rfl
  none_raised := rfl
  running_unpaused := fun _ => rfl
  head_eq := by
    intro on hentry
    cases hentry
    rfl

/-- Being settled is up to the alarm, the process and what the two have noted
    for each other. -/
theorem Settled.frame {j j' : WaterJet} (hsettled : j.Settled) (halarm : j'.alarm = j.alarm)
    (hprocess : j'.process = j.process) (hpaused : j'.context.paused = j.context.paused)
    (hrequested : j'.context.suspendRequested = j.context.suspendRequested)
    (hraised : j'.context.raisedFault = j.context.raisedFault)
    (houtputs : j'.context.outputs = j.context.outputs) : j'.Settled where
  owner_eq := by simpa [halarm] using hsettled.owner_eq
  paused_eq := by simpa [isPaused, halarm, hpaused] using hsettled.paused_eq
  none_requested := hrequested.trans hsettled.none_requested
  none_raised := hraised.trans hsettled.none_raised
  running_unpaused := by
    simpa [state, isPaused, halarm, hprocess] using hsettled.running_unpaused
  head_eq := by
    simpa [state, headOn, hprocess, houtputs] using hsettled.head_eq

theorem Settled.poll {ι : Type} [PinAccess ι] {j : WaterJet} (hsettled : j.Settled) (pins : ι) :
    (j.poll pins).value.Settled := by
  rw [value_poll]
  exact hsettled.frame rfl rfl rfl rfl rfl rfl

theorem Settled.drive {ι : Type} [PinAccess ι] {j : WaterJet} (hsettled : j.Settled) (pins : ι) :
    (j.drive pins).value.1.Settled :=
  hsettled.frame rfl rfl rfl rfl rfl rfl

theorem Settled.activated {j : WaterJet} (hsettled : j.Settled) :
    Settled { j with active := true } :=
  hsettled.frame rfl rfl rfl rfl rfl rfl

theorem Settled.deactivated {j : WaterJet} (hsettled : j.Settled) :
    Settled { j with active := false, context := j.context.stopWork } :=
  hsettled.frame rfl rfl rfl rfl rfl rfl

/-- A command keeps the cutter settled, as it is made of moves and of parts that
    make no difference. -/
theorem Settled.command {j : WaterJet} (hsettled : j.Settled) (code : Nat) :
    (j.command code).value.1.Settled := by
  have hafter := afterCommand_command j code
  generalize (j.command code).value.1 = after at hafter ⊢
  cases hafter with
  | switchedOn => exact (hsettled.activated.goto .menu).frame rfl rfl rfl rfl rfl rfl
  | keptOn => exact hsettled.frame rfl rfl rfl rfl rfl rfl
  | switchedOff => exact hsettled.deactivated.goto .off
  | started => exact hsettled.goto .running
  | ended => exact hsettled.goto .ending
  | unchanged => exact hsettled

/-- A command keeps what its parts keep: switching the module, asking for the
    counters of useful work and the moves that commands make. The moves may rely
    on a settled cutter, and lead to four states only. -/
theorem Settled.keeps_command {P : WaterJet → Prop} {j : WaterJet} (hsettled : j.Settled)
    (hholds : P j)
    (hactive : ∀ {j : WaterJet} (active : Bool), P j → P { j with active })
    (hstart : ∀ {j : WaterJet}, P j → P { j with context := j.context.startWork })
    (hstop : ∀ {j : WaterJet}, P j → P { j with context := j.context.stopWork })
    (hgoto : ∀ {j : WaterJet}, j.Settled → P j →
      ∀ target ∈ [ProcessState.off, .menu, .running, .ending], P (j.goto target).value)
    (code : Nat) : P (j.command code).value.1 := by
  have hafter := afterCommand_command j code
  generalize (j.command code).value.1 = after at hafter ⊢
  cases hafter with
  | switchedOn => exact hstart (hgoto hsettled.activated (hactive true hholds) .menu (by simp))
  | keptOn => exact hstart (hactive true hholds)
  | switchedOff => exact hgoto hsettled.deactivated (hstop (hactive false hholds)) .off (by simp)
  | started => exact hgoto hsettled hholds .running (by simp)
  | ended => exact hgoto hsettled hholds .ending (by simp)
  | unchanged => exact hholds

/-- A resume keeps the cutter settled, as it lifts both notes of the pause at
    once. -/
theorem Settled.resume {j : WaterJet} (hsettled : j.Settled) : j.resume.value.1.Settled := by
  obtain ⟨howner, hpaused, hrequested, hraised, hrunning, hhead⟩ := hsettled
  rw [value_resume]
  exact ⟨howner, rfl, hrequested, hraised, fun _ => rfl, hhead⟩

theorem isPaused_poll {ι : Type} [PinAccess ι] (j : WaterJet) (pins : ι) :
    (j.poll pins).value.isPaused = j.isPaused := by
  rw [value_poll]
  rfl

theorem Settled.stays_paused {j : WaterJet} (hsettled : j.Settled) (hpaused : j.isPaused = true)
    {π : Type} [Panel π] (panel : π) : (j.tick panel).value.1.isPaused = true := by
  cases hactive : j.active with
  | false => rwa [tick_of_inactive hactive]
  | true => rw [hsettled.isPaused_tick hactive, hpaused, Bool.or_true]

/-- Of the commands, only the start of a job ends a pause, and only if it is
    granted. -/
theorem Settled.isPaused_command {j : WaterJet} (hsettled : j.Settled) (code : Nat) :
    (j.command code).value.1.isPaused =
      if code = startCode ∧ j.active = true ∧ j.sensors.doorClosed = true then false
      else j.isPaused := by
  have hkept {target : ProcessState} {j : WaterJet} (hsettled : j.Settled)
      (hsuspends : target.suspends = false) (hrunning : target ≠ .running) :
      (j.goto target).value.isPaused = j.isPaused := by
    simp [hsettled.isPaused_goto, hsuspends, hrunning]
  have hafter := afterCommand_command j code
  generalize (j.command code).value.1 = after at hafter ⊢
  cases hafter with
  | started haccepts =>
    rw [if_pos ⟨rfl, haccepts⟩, hsettled.isPaused_goto]
    rfl
  | unchanged _ hrefused => rw [if_neg hrefused]
  | switchedOn => exact hkept hsettled.activated rfl (by decide)
  | keptOn => rfl
  | switchedOff => exact hkept hsettled.deactivated rfl (by decide)
  | ended => exact hkept hsettled rfl (by decide)

/-- The step of the invariant: no operation leaves anything unsettled, neither
    those that move the process nor those that only read or drive. -/
theorem Settled.perform {j : WaterJet} (hsettled : j.Settled) (op : Operation) :
    (j.perform op).value.Settled := by
  cases op with
  | poll pins => exact hsettled.poll pins
  | tick panel => exact hsettled.tick panel
  | drive pins => exact hsettled.drive pins
  | command code => exact hsettled.command code
  | requestState raw => exact hsettled.goto (.ofRaw raw)
  | resume => exact hsettled.resume

/-- No run leaves anything unsettled. -/
theorem Settled.performAll {j : WaterJet} (hsettled : j.Settled) (ops : List Operation) :
    (j.performAll ops).value.Settled := by
  induction ops generalizing j with
  | nil => exact hsettled
  | cons op ops ih => exact ih (hsettled.perform op)

/-- If each operation either keeps a property or meets a known condition, the
    property holds all through a run exactly if no operation of the run meets
    the condition. The cutter may be taken as settled in every step, as no
    operation leaves it otherwise. -/
theorem Settled.throughout_iff {P : WaterJet → Prop} {Breaks : WaterJet → Operation → Prop}
    (hstep : ∀ {j : WaterJet}, j.Settled → P j → ∀ op, P (j.perform op).value ↔ ¬Breaks j op)
    {j : WaterJet} (hsettled : j.Settled) (hstart : P j) (ops : List Operation) :
    (∀ before, before <+: ops → P (j.performAll before).value) ↔
      ∀ before op after, ops = before ++ op :: after → ¬Breaks (j.performAll before).value op := by
  have hthroughout := foldl_throughout_iff (fun j op => (j.perform op).value) Settled.perform hstep
    hsettled hstart ops
  simpa only [← value_performAll] using hthroughout

/-- A cutter is settled between two operations, whatever its history. -/
theorem Reached.settled {j : WaterJet} {past : Trace} (hreached : Reached j past) : j.Settled :=
  hreached.invariant settled_ofSettings fun _ op hsettled => hsettled.perform op

/-- The process and the alarm each note whether the machine is paused. From the
    construction on, after every operation and in whatever order, active or not,
    the two notes agree, and neither a suspension nor a fault that the process
    left behind still waits to be taken note of. -/
theorem pause_notes_agree {ι : Type} [PinAccess ι] {s : JetSettings} {delay : Nat} {pins : ι}
    {j : WaterJet} (hbuild : (build s delay pins).value = .ok j) (ops : List Operation) :
    let after := (j.performAll ops).value
    after.context.paused = after.alarm.escalator.paused ∧
      after.context.suspendRequested = false ∧ after.context.raisedFault = none := by
  intro after
  obtain ⟨rfl, -⟩ := build_ok hbuild
  have hsettled : after.Settled := (settled_ofSettings s delay).performAll ops
  exact ⟨hsettled.paused_eq, hsettled.none_requested, hsettled.none_raised⟩

/-- Paused by request, resumed, paused again by a stalled gantry, and switched
    off. -/
theorem pause_notes_agree_stalled :
    let ops : List Operation :=
      [.command enableCode, .requestState 7, .tick ({} : StubPanel), .resume,
        .requestState 15, .command disableCode]
    (build plainSettings 20 (plainPins [])).value = .ok (ofSettings plainSettings 20) ∧
      (plain ops).alarm.escalator.paused = true ∧ (plain ops).context.paused = true ∧
      (plain ops).active = false := by
  intro ops
  have hbuild : (build plainSettings 20 (plainPins [])).value = .ok (ofSettings plainSettings 20) :=
    rfl
  obtain ⟨hagree, -, -⟩ := pause_notes_agree hbuild ops
  have hpaused : (plain ops).alarm.escalator.paused = true := by decide
  exact ⟨hbuild, hpaused, hagree.trans hpaused, by decide⟩

@[simp] theorem sent_setActive (j : WaterJet) (active : Bool) :
    (j.setActive active).trace.sent = [] := by
  unfold setActive
  split <;> rfl

/-- A command sends nothing by itself: what a state has to send waits until the
    outputs are driven. -/
theorem sent_command (j : WaterJet) (code : Nat) : (j.command code).trace.sent = [] := by
  have henable : j.enable.trace.sent = [] := by
    simp only [enable, Traced.trace_bind, Trace.sent_append, sent_setActive]
    split <;> simp
  have hdisable : j.disable.trace.sent = [] := by simp [disable]
  have hstart : j.startJob.trace.sent = [] := by
    unfold startJob
    split_ifs <;> simp
  unfold command
  split_ifs
  · rfl
  · simp [henable]
  · simp [hdisable]
  · simp [hstart]
  · simp
  · rfl

theorem sent_resume (j : WaterJet) : j.resume.trace.sent = [] := by
  unfold resume
  dsimp only
  split <;> rfl

theorem sent_poll {ι : Type} [PinAccess ι] (j : WaterJet) (pins : ι) :
    (j.poll pins).trace.sent = [] := by
  unfold poll
  split <;> simp

theorem sent_drive {ι : Type} [PinAccess ι] (j : WaterJet) (pins : ι) :
    (j.drive pins).trace.sent = j.context.outbox := by
  simp [drive]

@[simp] theorem reports_setActive (source : String) (j : WaterJet) (active : Bool) :
    Event.reports source (j.setActive active).trace.events = [] := by
  unfold setActive
  split <;> rfl

theorem last_command (j : WaterJet) (code : Nat) :
    (j.command code).value.1.alarm.last = j.alarm.last := by
  rw [value_command, value_startJob, value_enable, value_disable]
  split_ifs <;> simp

theorem reports_enable (source : String) (j : WaterJet) :
    Event.reports source j.enable.trace.events = [] := by
  simp only [enable, Traced.trace_bind, Trace.events_append, Event.reports_append,
    reports_setActive]
  split <;> simp

theorem reports_startJob (source : String) (j : WaterJet) :
    Event.reports source j.startJob.trace.events = [] := by
  unfold startJob
  split_ifs <;> simp

/-- No command reports a fault. -/
theorem reports_command (source : String) (j : WaterJet) (code : Nat) :
    Event.reports source (j.command code).trace.events = [] := by
  unfold command
  split_ifs
  · rfl
  · simp [reports_enable]
  · simp [disable]
  · simp [reports_startJob]
  · simp
  · rfl

theorem last_poll {ι : Type} [PinAccess ι] (j : WaterJet) (pins : ι) :
    (j.poll pins).value.alarm.last = j.alarm.last := by
  rw [value_poll]

theorem reports_poll {ι : Type} [PinAccess ι] (source : String) (j : WaterJet) (pins : ι) :
    Event.reports source (j.poll pins).trace.events = [] := by
  unfold poll
  split <;> simp

theorem reports_drive {ι : Type} [PinAccess ι] (source : String) (j : WaterJet) (pins : ι) :
    Event.reports source (j.drive pins).trace.events = [] := by
  simp [drive, Traced.send]

theorem reports_resume (source : String) (j : WaterJet) :
    Event.reports source j.resume.trace.events = [] := by
  unfold resume
  dsimp only
  split <;> rfl

/-- Whatever happens in a second, the alarm's note of its last report is what
    the outside was told. A settled alarm reports in the name of the cutter,
    whose reports are followed here. -/
theorem Settled.last_tick {π : Type} [Panel π] {j : WaterJet} (hsettled : j.Settled) (panel : π)
    {past : List Event} (hlast : j.alarm.last = Event.lastReported owner past) :
    (j.tick panel).value.1.alarm.last =
      Event.lastReported owner (past ++ (j.tick panel).trace.events) := by
  cases hactive : j.active with
  | false => simpa [tick_of_inactive hactive] using hlast
  | true =>
    cases hreports : ((j.state.raises j.found).isSome || (j.state.successor j.seen).escalates) with
    | true =>
      obtain ⟨halarm, _, hevents⟩ := hsettled.tick_reporting hactive hreports panel
      have hreport := j.advanced.alarm.last_report (j.state.raises j.found) panel past
        (hlast.trans (by rw [← hsettled.owner_eq]; rfl))
      rw [halarm, hreport]
      have howner : j.advanced.alarm.escalator.owner = owner := hsettled.owner_eq
      simp only [Event.lastReported, Event.reports_append, hevents, howner]
    | false =>
      obtain ⟨halarm, _, hevents⟩ := hsettled.tick_silent hactive hreports panel
      rw [Event.lastReported_append_of_quiet past (hevents owner), halarm]
      exact hlast

/-- The step of the invariant: every operation keeps the alarm's note of its
    last report true. -/
theorem Settled.last_perform {j : WaterJet} (hsettled : j.Settled) (op : Operation)
    {past : List Event} (hlast : j.alarm.last = Event.lastReported owner past) :
    (j.perform op).value.alarm.last =
      Event.lastReported owner (past ++ (j.perform op).trace.events) := by
  have hquiet (hkept : (j.perform op).value.alarm.last = j.alarm.last)
      (hreports : Event.reports owner (j.perform op).trace.events = []) :
      (j.perform op).value.alarm.last =
        Event.lastReported owner (past ++ (j.perform op).trace.events) := by
    rw [hkept, Event.lastReported_append_of_quiet past hreports, hlast]
  cases op with
  | poll pins => exact hquiet (last_poll j pins) (reports_poll owner j pins)
  | tick panel =>
    rw [perform_tick]
    exact hsettled.last_tick panel hlast
  | drive pins =>
    rw [perform_drive] at hquiet ⊢
    exact hquiet rfl (reports_drive owner j pins)
  | command code =>
    rw [perform_command] at hquiet ⊢
    exact hquiet (last_command j code) (reports_command owner j code)
  | requestState raw => exact hquiet (last_goto j _) (by simp [requestState])
  | resume =>
    rw [perform_resume] at hquiet ⊢
    exact hquiet (by rw [value_resume]) (reports_resume owner j)

/-- What the alarm notes of its last report is what the outside was told,
    whatever the history. -/
theorem Reached.last_eq {j : WaterJet} {past : Trace} (hreached : Reached j past) :
    j.alarm.last = Event.lastReported owner past.events := by
  induction hreached with
  | build hbuild =>
    obtain ⟨rfl, hevents⟩ := build_ok hbuild
    rw [hevents]
    rfl
  | perform op hreached ih => exact hreached.settled.last_perform op ih

end WaterJet

end Interlock
