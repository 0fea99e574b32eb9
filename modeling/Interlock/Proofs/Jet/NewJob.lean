import Interlock.Proofs.Jet.Invariant
import Interlock.Proofs.Level.History

namespace Interlock

namespace LevelGuard

theorem advance_faults (g : LevelGuard) (faults : FaultSet) (floats : Floats) :
    LevelGuard.advance { g with faults } floats = g.advance floats := by
  have hphase : LevelGuard.phase { g with faults } floats = g.phase floats := rfl
  simp only [advance, hphase]
  cases g.phase floats <;> rfl

/-- An evaluation is the same from two guards that differ in their last faults
    only: it never looks at those. -/
theorem evaluate_faults (g : LevelGuard) (faults : FaultSet) (floats : Floats) :
    LevelGuard.evaluate { g with faults } floats = g.evaluate floats := by
  simp only [evaluate, advance_faults]
  rfl

end LevelGuard

namespace WaterJet

open ProcessState

/-- What holds of every cutter of the settings, whatever its history: the floats
    are read from the pins of the settings and judged by their limits, and a job
    that is starting feeds the head. -/
structure Fitted (s : JetSettings) (j : WaterJet) : Prop where
  settled : j.Settled
  middle_pin : j.sensors.middle.pin = s.middleFloatPin
  high_pin : j.sensors.high.pin = s.highFloatPin
  limits_eq : j.guard.limits = limitsOf s
  running_feed : j.state = running → j.context.outputs.lowPressurePump = true

/-- A new cutter fits its settings. -/
theorem fitted_ofSettings (s : JetSettings) (delay : Nat) : (ofSettings s delay).Fitted s where
  settled := settled_ofSettings s delay
  middle_pin := rfl
  high_pin := rfl
  limits_eq := rfl
  running_feed := nofun

/-- What leaves the inputs, the guard, the process and the outputs alone keeps a
    cutter fitted, provided that it stays settled. -/
theorem Fitted.frame {s : JetSettings} {j j' : WaterJet} (hfitted : j.Fitted s)
    (hsettled : j'.Settled) (hsensors : j'.sensors = j.sensors) (hguard : j'.guard = j.guard)
    (hprocess : j'.process = j.process) (houtputs : j'.context.outputs = j.context.outputs) :
    j'.Fitted s where
  settled := hsettled
  middle_pin := by rw [hsensors, hfitted.middle_pin]
  high_pin := by rw [hsensors, hfitted.high_pin]
  limits_eq := by rw [hguard, hfitted.limits_eq]
  running_feed := by
    unfold state
    rw [hprocess, houtputs]
    exact hfitted.running_feed

theorem guard_preparedFor (j : WaterJet) (target : ProcessState) :
    (j.preparedFor target).guard = if target = running then j.guard.resetTimers else j.guard := by
  unfold preparedFor
  split <;> rfl

theorem guard_goto (j : WaterJet) (target : ProcessState) :
    (j.goto target).value.guard = (j.preparedFor target).guard := by
  rw [value_goto, value_absorbSuspend, moved]

/-- A move by command keeps a cutter fitted. A job that starts switches the feed
    on. -/
theorem Fitted.goto {s : JetSettings} {j : WaterJet} (hfitted : j.Fitted s)
    (target : ProcessState) : (j.goto target).value.Fitted s := by
  refine ⟨hfitted.settled.goto target, ?_, ?_, ?_, ?_⟩
  · rw [sensors_goto, hfitted.middle_pin]
  · rw [sensors_goto, hfitted.high_pin]
  · rw [guard_goto, guard_preparedFor, ← hfitted.limits_eq]
    split <;> rfl
  · intro hrunning
    rw [state_goto] at hrunning
    rw [context_goto, hrunning]
    split
    · rename_i hstays
      rw [context_preparedFor]
      exact hfitted.running_feed hstays.symm
    · rfl

/-- An evaluation keeps the limits. -/
theorem limits_evaluate (j : WaterJet) : j.evaluate.value.1.limits = j.guard.limits := by
  unfold evaluate
  split
  · exact LevelGuard.limits_advance j.guard j.sensors.floats
  · rfl

/-- A second keeps a cutter fitted. None ends in `running`, so nothing has to be
    known of the feed. -/
theorem Fitted.tick {s : JetSettings} {j : WaterJet} (hfitted : j.Fitted s) {π : Type} [Panel π]
    (panel : π) : (j.tick panel).value.1.Fitted s := by
  have hsettled := hfitted.settled
  cases hactive : j.active with
  | false => rwa [tick_of_inactive hactive]
  | true =>
    obtain ⟨hguard, hsensors, _⟩ := hsettled.kept_tick hactive panel
    refine ⟨hsettled.tick panel, ?_, ?_, ?_, ?_⟩
    · rw [hsensors, hfitted.middle_pin]
    · rw [hsensors, hfitted.high_pin]
    · rw [hguard, limits_evaluate, hfitted.limits_eq]
    · intro hrunning
      rw [hsettled.state_tick hactive] at hrunning
      exact absurd hrunning (successor_ne_running _ _)

/-- Reading the inputs keeps the pins that are read. -/
theorem Fitted.poll {s : JetSettings} {j : WaterJet} (hfitted : j.Fitted s) {ι : Type}
    [PinAccess ι] (pins : ι) : (j.poll pins).value.Fitted s := by
  have hsettled := hfitted.settled.poll pins
  rw [value_poll] at hsettled ⊢
  refine ⟨hsettled, ?_, ?_, hfitted.limits_eq, hfitted.running_feed⟩
  · dsimp only
    split
    · simpa [Sensors.middle_poll] using hfitted.middle_pin
    · exact hfitted.middle_pin
  · dsimp only
    split
    · simpa [Sensors.high_poll] using hfitted.high_pin
    · exact hfitted.high_pin

/-- A resume starts the level history over at most, which keeps the limits. -/
theorem Fitted.resume {s : JetSettings} {j : WaterJet} (hfitted : j.Fitted s) :
    j.resume.value.1.Fitted s := by
  have hsettled := hfitted.settled.resume
  rw [value_resume] at hsettled ⊢
  refine ⟨hsettled, hfitted.middle_pin, hfitted.high_pin, ?_, hfitted.running_feed⟩
  rw [← hfitted.limits_eq]
  dsimp only
  split <;> rfl

/-- A command keeps a cutter fitted. -/
theorem Fitted.command {s : JetSettings} {j : WaterJet} (hfitted : j.Fitted s) (code : Nat) :
    (j.command code).value.1.Fitted s := by
  refine hfitted.settled.keeps_command hfitted ?_ ?_ ?_ ?_ code
  · intro j active hfitted
    exact hfitted.frame (hfitted.settled.frame rfl rfl rfl rfl rfl rfl) rfl rfl rfl rfl
  · intro j hfitted
    exact hfitted.frame (hfitted.settled.frame rfl rfl rfl rfl rfl rfl) rfl rfl rfl rfl
  · intro j hfitted
    exact hfitted.frame (hfitted.settled.frame rfl rfl rfl rfl rfl rfl) rfl rfl rfl rfl
  · intro j _ hfitted target _
    exact hfitted.goto target

/-- Every operation keeps a cutter fitted, since none changes the pins, the
    limits or the delay that its settings gave it. -/
theorem Fitted.perform {s : JetSettings} {j : WaterJet} (hfitted : j.Fitted s) (op : Operation) :
    (j.perform op).value.Fitted s := by
  cases op with
  | poll pins => exact hfitted.poll pins
  | tick panel =>
    rw [perform_tick]
    exact hfitted.tick panel
  | drive pins =>
    rw [perform_drive]
    exact hfitted.frame (hfitted.settled.drive pins) rfl rfl rfl rfl
  | command code =>
    rw [perform_command]
    exact hfitted.command code
  | requestState raw => exact hfitted.goto (.ofRaw raw)
  | resume =>
    rw [perform_resume]
    exact hfitted.resume

theorem Fitted.performAll {s : JetSettings} {j : WaterJet} (hfitted : j.Fitted s)
    (ops : List Operation) : (j.performAll ops).value.Fitted s := by
  induction ops generalizing j with
  | nil => exact hfitted
  | cons op ops ih => exact ih (hfitted.perform op)

/-- Two cutters whose next seconds depend on the same. Their floats agree once
    they were `read` in the job; the demand on the dump valve and the verdict
    agree once a second of the job has `passed`, which starts in `running`. -/
structure SameJob (s : JetSettings) (read passed : Bool) (j₁ j₂ : WaterJet) : Prop where
  fitted_left : j₁.Fitted s
  fitted_right : j₂.Fitted s
  active_left : j₁.active = true
  active_right : j₂.active = true
  state_eq : j₁.state = j₂.state
  guard_eq : { j₁.guard with faults := j₂.guard.faults } = j₂.guard
  paused_eq : j₁.isPaused = j₂.isPaused
  suspension_eq : j₁.context.suspension = j₂.context.suspension
  outbox_eq : j₁.context.outbox = j₂.context.outbox
  feed_eq : j₁.context.outputs.lowPressurePump = j₂.context.outputs.lowPressurePump
  head_eq : j₁.context.outputs.highPressurePump = j₂.context.outputs.highPressurePump
  floats_eq : read = true → j₁.sensors.floats = j₂.sensors.floats
  starting : passed = false → j₁.state = running
  dump_eq : passed = true → j₁.context.outputs.dumpValve = j₂.context.outputs.dumpValve
  verdict_eq : passed = true → j₁.context.verdict = j₂.context.verdict

variable {s : JetSettings} {read passed : Bool} {j₁ j₂ : WaterJet}

/-- Where the tank is in use, both cutters evaluate the same, once the floats
    were read in the job: guards that differ in their last faults make no
    difference. -/
theorem SameJob.evaluate_eq (hsame : SameJob s true passed j₁ j₂)
    (huse : j₁.state.tankInUse = true) :
    j₁.evaluate.value = j₂.evaluate.value := by
  have huse₂ : j₂.state.tankInUse = true := hsame.state_eq ▸ huse
  have hguard := LevelGuard.evaluate_faults j₁.guard j₂.guard.faults j₁.sensors.floats
  rw [hsame.guard_eq] at hguard
  simp only [evaluate, huse, huse₂, if_true]
  rw [← hguard, hsame.floats_eq rfl]

/-- Both cutters find the same in a second, whether the tank is in use or not. -/
theorem SameJob.found_eq (hsame : SameJob s true passed j₁ j₂) : j₁.found = j₂.found := by
  cases huse : j₁.state.tankInUse with
  | true => exact congrArg Prod.snd (hsame.evaluate_eq huse)
  | false =>
    have huse₂ : j₂.state.tankInUse = false := hsame.state_eq ▸ huse
    simp [found, evaluate, huse, huse₂]

/-- The guards of both cutters stay the same up to the faults, whether a second
    evaluates them or not. -/
theorem SameJob.guard_evaluate_eq (hsame : SameJob s true passed j₁ j₂) :
    { j₁.evaluate.value.1 with faults := j₂.evaluate.value.1.faults } = j₂.evaluate.value.1 := by
  cases huse : j₁.state.tankInUse with
  | true => rw [hsame.evaluate_eq huse]
  | false =>
    have huse₂ : j₂.state.tankInUse = false := hsame.state_eq ▸ huse
    simpa [evaluate, huse, huse₂] using hsame.guard_eq

/-- The first second of a job asks something of the dump valve, so that the
    valve of the past is replaced. -/
theorem dumpValve_found_running {j : WaterJet} (hrunning : j.state = running) :
    ∃ open_, j.found.dumpValve = some open_ := by
  simp [found, evaluate, hrunning, tankInUse, LevelGuard.evaluate]

/-- Both processes are asked with the same outputs. Before the first second has
    passed the valves may differ, but then the job is running and the verdict
    replaces them. -/
theorem SameJob.outputs_seen_eq (hsame : SameJob s true passed j₁ j₂) :
    j₁.seen.outputs = j₂.seen.outputs := by
  have hdump : j₁.found.dumpValve.getD j₁.context.outputs.dumpValve =
      j₂.found.dumpValve.getD j₂.context.outputs.dumpValve := by
    rw [← hsame.found_eq]
    cases hpassed : passed with
    | true => rw [hsame.dump_eq hpassed]
    | false =>
      -- The valves may still be as the pasts left them. The first verdict of the job sets both.
      obtain ⟨level, hlevel⟩ := dumpValve_found_running (hsame.starting hpassed)
      simp [hlevel]
  have hseen (j : WaterJet) : j.seen.outputs =
      { j.context.outputs with
        dumpValve := j.found.dumpValve.getD j.context.outputs.dumpValve
        lowPressurePump := j.found.lowPressurePump.getD j.context.outputs.lowPressurePump } := rfl
  rw [hseen, hseen, hdump, hsame.found_eq, hsame.feed_eq]
  dsimp only
  rw [hsame.head_eq]

theorem SameJob.successor_eq (hsame : SameJob s true passed j₁ j₂) :
    j₁.state.successor j₁.seen = j₂.state.successor j₂.seen := by
  simp only [successor, verdict_seen, paused_seen, hsame.found_eq, hsame.paused_eq, hsame.state_eq]

theorem SameJob.outputs_advanced_eq (hsame : SameJob s true passed j₁ j₂) :
    j₁.advanced.context.outputs = j₂.advanced.context.outputs := by
  rw [context_advanced, context_advanced]
  dsimp only
  rw [hsame.successor_eq, hsame.state_eq]
  split
  · exact hsame.outputs_seen_eq
  · exact outputs_enter_congr _ hsame.outputs_seen_eq

theorem SameJob.suspension_advanced_eq (hsame : SameJob s true passed j₁ j₂) :
    j₁.advanced.context.suspension = j₂.advanced.context.suspension := by
  rw [suspension_advanced, suspension_advanced, hsame.successor_eq, hsame.state_eq,
    hsame.suspension_eq]

theorem SameJob.outbox_advanced_eq (hsame : SameJob s true passed j₁ j₂) :
    j₁.advanced.context.outbox = j₂.advanced.context.outbox := by
  have hroom : j₁.context.room = j₂.context.room := by
    unfold JobContext.room
    rw [hsame.outbox_eq]
  rw [outbox_advanced, outbox_advanced, hsame.successor_eq, hsame.state_eq, hsame.suspension_eq,
    hsame.outbox_eq, hroom]

/-- A second that finds the same floats leaves two cutters at one job, and they
    send the same. The panels may differ, since a panel decides about menus
    alone. -/
theorem SameJob.tick {π₁ π₂ : Type} [Panel π₁] [Panel π₂] (hsame : SameJob s true passed j₁ j₂)
    (panel₁ : π₁) (panel₂ : π₂) :
    SameJob s true true (j₁.tick panel₁).value.1 (j₂.tick panel₂).value.1 ∧
      (j₁.tick panel₁).trace.sent = (j₂.tick panel₂).trace.sent := by
  have hsettled₁ := hsame.fitted_left.settled
  have hsettled₂ := hsame.fitted_right.settled
  obtain ⟨hguard₁, hsensors₁, houtbox₁, _⟩ := hsettled₁.kept_tick hsame.active_left panel₁
  obtain ⟨hguard₂, hsensors₂, houtbox₂, _⟩ := hsettled₂.kept_tick hsame.active_right panel₂
  obtain ⟨houtputs₁, hverdict₁, _, _, _, hactive₁⟩ :=
    hsettled₁.context_tick hsame.active_left panel₁
  obtain ⟨houtputs₂, hverdict₂, _, _, _, hactive₂⟩ :=
    hsettled₂.context_tick hsame.active_right panel₂
  have hraises : j₁.state.raises j₁.found = j₂.state.raises j₂.found := by
    rw [hsame.state_eq, hsame.found_eq]
  have houtputs :
      (j₁.tick panel₁).value.1.context.outputs = (j₂.tick panel₂).value.1.context.outputs := by
    rw [houtputs₁, houtputs₂, hsame.outputs_advanced_eq]
  refine ⟨?_, ?_⟩
  · exact {
      fitted_left := hsame.fitted_left.tick panel₁
      fitted_right := hsame.fitted_right.tick panel₂
      active_left := hactive₁.trans hsame.active_left
      active_right := hactive₂.trans hsame.active_right
      state_eq := by
        rw [hsettled₁.state_tick hsame.active_left, hsettled₂.state_tick hsame.active_right,
          hsame.successor_eq]
      guard_eq := by rw [hguard₁, hguard₂, hsame.guard_evaluate_eq]
      paused_eq := by
        rw [hsettled₁.isPaused_tick hsame.active_left, hsettled₂.isPaused_tick hsame.active_right,
          hraises, hsame.paused_eq]
      suspension_eq := by
        rw [hsettled₁.suspension_tick hsame.active_left,
          hsettled₂.suspension_tick hsame.active_right, hraises, hsame.paused_eq,
          hsame.suspension_advanced_eq]
      outbox_eq := by rw [houtbox₁, houtbox₂, hsame.outbox_advanced_eq]
      feed_eq := congrArg Outputs.lowPressurePump houtputs
      head_eq := congrArg Outputs.highPressurePump houtputs
      floats_eq := fun _ => by rw [hsensors₁, hsensors₂, hsame.floats_eq rfl]
      starting := nofun
      dump_eq := fun _ => congrArg Outputs.dumpValve houtputs
      verdict_eq := fun _ => by rw [hverdict₁, hverdict₂, hsame.found_eq] }
  · rw [hsettled₁.sent_tick_eq hsame.active_left, hsettled₂.sent_tick_eq hsame.active_right,
      hraises, hsame.paused_eq]

/-- Reading floats that show the same leaves two cutters at one job. The boards
    may differ in all other pins, and in the doors. -/
theorem SameJob.poll {ι₁ ι₂ : Type} [PinAccess ι₁] [PinAccess ι₂]
    (hsame : SameJob s read passed j₁ j₂) {pins₁ : ι₁} {pins₂ : ι₂} {middle high : Bool}
    (hmiddle₁ : PinAccess.read pins₁ s.middleFloatPin = .ok middle)
    (hmiddle₂ : PinAccess.read pins₂ s.middleFloatPin = .ok middle)
    (hhigh₁ : PinAccess.read pins₁ s.highFloatPin = .ok high)
    (hhigh₂ : PinAccess.read pins₂ s.highFloatPin = .ok high) :
    SameJob s true passed (j₁.poll pins₁).value (j₂.poll pins₂).value := by
  have hvalue {ι : Type} [PinAccess ι] {pins : ι} {j : WaterJet} (hactive : j.active = true) :
      (j.poll pins).value = { j with sensors := (j.sensors.poll pins).value } := by
    rw [value_poll, if_pos hactive]
  have hfloats {ι : Type} [PinAccess ι] {pins : ι} {j : WaterJet} (hfitted : j.Fitted s)
      (hmiddle : PinAccess.read pins s.middleFloatPin = .ok middle)
      (hhigh : PinAccess.read pins s.highFloatPin = .ok high) :
      (j.sensors.poll pins).value.floats = ⟨middle, high⟩ := by
    rw [← hfitted.middle_pin] at hmiddle
    rw [← hfitted.high_pin] at hhigh
    rw [Sensors.floats, Sensors.middle_poll, Sensors.high_poll, SampledInput.level_sample hmiddle,
      SampledInput.level_sample hhigh]
  have hfitted₁ := hsame.fitted_left.poll pins₁
  have hfitted₂ := hsame.fitted_right.poll pins₂
  rw [hvalue hsame.active_left] at hfitted₁ ⊢
  rw [hvalue hsame.active_right] at hfitted₂ ⊢
  exact { hsame with
    fitted_left := hfitted₁
    fitted_right := hfitted₂
    floats_eq := fun _ => by
      rw [hfloats hsame.fitted_left hmiddle₁ hhigh₁, hfloats hsame.fitted_right hmiddle₂ hhigh₂] }

/-- Driving the outputs leaves two cutters at one job, whatever their outputs
    were driven to before. -/
theorem SameJob.drive {ι₁ ι₂ : Type} [PinAccess ι₁] [PinAccess ι₂]
    (hsame : SameJob s read passed j₁ j₂) (pins₁ : ι₁) (pins₂ : ι₂) :
    SameJob s read passed (j₁.drive pins₁).value.1 (j₂.drive pins₂).value.1 :=
  { hsame with
    fitted_left := hsame.fitted_left.frame (hsame.fitted_left.settled.drive pins₁) rfl rfl rfl rfl
    fitted_right :=
      hsame.fitted_right.frame (hsame.fitted_right.settled.drive pins₂) rfl rfl rfl rfl
    outbox_eq := rfl }

/-- The operator's resume starts the level history over in both cutters or in
    neither. -/
theorem SameJob.resume (hsame : SameJob s read passed j₁ j₂) :
    SameJob s read passed j₁.resume.value.1 j₂.resume.value.1 := by
  have hfitted₁ := hsame.fitted_left.resume
  have hfitted₂ := hsame.fitted_right.resume
  have hpaused₁ := hsame.fitted_left.settled.paused_eq
  have hpaused₂ := hsame.fitted_right.settled.paused_eq
  rw [value_resume, hpaused₁, Bool.or_self] at hfitted₁ ⊢
  rw [value_resume, hpaused₂, Bool.or_self, ← hsame.paused_eq] at hfitted₂ ⊢
  refine { hsame with
    fitted_left := hfitted₁
    fitted_right := hfitted₂
    paused_eq := rfl
    guard_eq := ?_ }
  have hguard := hsame.guard_eq
  dsimp only
  cases j₁.isPaused with
  | true => exact congrArg LevelGuard.resetTimers hguard
  | false => exact hguard

/-- What the console answers when a job starts. -/
def startReply : List String :=
  [s!"{owner} job started"]

theorem command_startCode (j : WaterJet) :
    (j.command startCode).value = (j.startJob.value.1, some [j.startJob.value.2]) := rfl

/-- A job is accepted exactly in an active cutter behind a closed door. -/
theorem accepts_iff (j : WaterJet) :
    (j.command startCode).value.2 = some startReply ↔
      j.active = true ∧ j.sensors.doorClosed = true := by
  rw [command_startCode]
  unfold startJob
  cases j.active <;> cases j.sensors.doorClosed
  case true.true => exact ⟨fun _ => ⟨rfl, rfl⟩, fun _ => rfl⟩
  all_goals
    refine iff_of_false (fun hreply => ?_) (by simp)
    revert hreply
    dsimp [startReply]
    decide

theorem value_startCode {j : WaterJet}
    (haccepts : (j.command startCode).value.2 = some startReply) :
    (j.command startCode).value.1 = (j.goto .running).value ∧ j.active = true := by
  have hguarded := (accepts_iff j).1 haccepts
  rw [command_startCode, value_startJob, if_pos hguarded]
  exact ⟨rfl, hguarded.1⟩

/-- What the start of a job leaves of the past: the outbox, and the level guard
    but for its counters. The pause and the note of a suspension are gone, and
    both pumps run. -/
theorem Fitted.start {j : WaterJet} (hfitted : j.Fitted s) :
    let after := (j.goto .running).value
    after.guard = j.guard.resetTimers ∧ after.isPaused = false ∧ after.context.suspension = none ∧
      after.context.outbox = j.context.outbox ∧ after.context.outputs.lowPressurePump = true ∧
      after.context.outputs.highPressurePump = true := by
  intro after
  have hafter := hfitted.goto .running
  refine ⟨?_, ?_, ?_, ?_, hafter.running_feed (state_goto j _), ?_⟩
  · rw [guard_goto, guard_preparedFor, if_pos rfl]
  · exact hfitted.settled.isPaused_goto .running
  · simp only [after, context_goto, context_preparedFor, if_true]
    split <;> rfl
  · simp only [after, context_goto, context_preparedFor, if_true]
    split
    · rfl
    · simp [outbox_enter, entryCommands]
  · exact hfitted.settled.headOn_goto .running

/-- Whatever came before, two cutters that start a job are at one job. What
    waits to be sent is the one thing that a start leaves of the past, hence the
    premise about it. -/
theorem SameJob.start (hfitted₁ : j₁.Fitted s) (hfitted₂ : j₂.Fitted s)
    (hactive₁ : j₁.active = true)
    (hactive₂ : j₂.active = true) (houtbox : j₁.context.outbox = j₂.context.outbox) :
    SameJob s false false (j₁.goto .running).value (j₂.goto .running).value := by
  obtain ⟨hguard₁, hpaused₁, hsuspension₁, houtbox₁, hfeed₁, hhead₁⟩ := hfitted₁.start
  obtain ⟨hguard₂, hpaused₂, hsuspension₂, houtbox₂, hfeed₂, hhead₂⟩ := hfitted₂.start
  have hlimits : j₁.guard.limits = j₂.guard.limits := by
    rw [hfitted₁.limits_eq, hfitted₂.limits_eq]
  exact {
    fitted_left := hfitted₁.goto .running
    fitted_right := hfitted₂.goto .running
    active_left := (active_goto j₁ _).trans hactive₁
    active_right := (active_goto j₂ _).trans hactive₂
    state_eq := by rw [state_goto, state_goto]
    guard_eq := by
      rw [hguard₁, hguard₂]
      simp only [LevelGuard.resetTimers, hlimits]
    paused_eq := by rw [hpaused₁, hpaused₂]
    suspension_eq := by rw [hsuspension₁, hsuspension₂]
    outbox_eq := by rw [houtbox₁, houtbox₂, houtbox]
    feed_eq := by rw [hfeed₁, hfeed₂]
    head_eq := by rw [hhead₁, hhead₂]
    floats_eq := nofun
    starting := fun _ => state_goto j₁ _
    dump_eq := nofun
    verdict_eq := nofun }

/-- Two operations that are the same for both cutters: readings that succeed on
    both boards and show the same, a second with any panels, driving of any
    outputs, and the operator's resume. -/
inductive Alike (s : JetSettings) : Operation → Operation → Prop where
  | poll {ι₁ ι₂ : Type} [PinAccess ι₁] [PinAccess ι₂] {pins₁ : ι₁} {pins₂ : ι₂} :
      (∀ pin ∈ [s.middleFloatPin, s.highFloatPin, s.doorSwitchPin], ∃ level,
        PinAccess.read pins₁ pin = .ok level ∧ PinAccess.read pins₂ pin = .ok level) →
      Alike s (.poll pins₁) (.poll pins₂)
  | tick {π₁ π₂ : Type} [Panel π₁] [Panel π₂] (panel₁ : π₁) (panel₂ : π₂) :
      Alike s (.tick panel₁) (.tick panel₂)
  | drive {ι₁ ι₂ : Type} [PinAccess ι₁] [PinAccess ι₂] (pins₁ : ι₁) (pins₂ : ι₂) :
      Alike s (.drive pins₁) (.drive pins₂)
  | resume : Alike s .resume .resume

/-- Whether the inputs are read before the first second passes. -/
def ReadsFirst : List Operation → Prop
  | [] => True
  | @Operation.poll _ _ _ :: _ => True
  | @Operation.tick _ _ _ :: _ => False
  | _ :: rest => ReadsFirst rest

/-- The step: an operation alike for both leaves them at one job, and they send
    the same. -/
theorem SameJob.perform (hsame : SameJob s read passed j₁ j₂) {op₁ op₂ : Operation}
    (halike : Alike s op₁ op₂) {rest : List Operation}
    (hread : read = true ∨ ReadsFirst (op₁ :: rest)) :
    ∃ read passed, SameJob s read passed (j₁.perform op₁).value (j₂.perform op₂).value ∧
      (read = true ∨ ReadsFirst rest) ∧
      (j₁.perform op₁).trace.sent = (j₂.perform op₂).trace.sent := by
  cases halike with
  | poll hreads =>
    obtain ⟨middle, hmiddle₁, hmiddle₂⟩ := hreads s.middleFloatPin (by simp)
    obtain ⟨high, hhigh₁, hhigh₂⟩ := hreads s.highFloatPin (by simp)
    refine ⟨true, passed, hsame.poll hmiddle₁ hmiddle₂ hhigh₁ hhigh₂, .inl rfl, ?_⟩
    rw [perform_poll, perform_poll, sent_poll, sent_poll]
  | tick panel₁ panel₂ =>
    have hread : read = true := hread.resolve_right id
    subst hread
    rw [perform_tick, perform_tick]
    exact ⟨true, true, (hsame.tick panel₁ panel₂).1, .inl rfl, (hsame.tick panel₁ panel₂).2⟩
  | drive pins₁ pins₂ =>
    rw [perform_drive, perform_drive]
    refine ⟨read, passed, hsame.drive pins₁ pins₂, hread, ?_⟩
    rw [sent_drive, sent_drive, hsame.outbox_eq]
  | resume =>
    rw [perform_resume, perform_resume]
    refine ⟨read, passed, hsame.resume, hread, ?_⟩
    rw [sent_resume, sent_resume]

/-- The run: after each second of the job the two cutters agree, and so does all
    that they sent. The inputs have to be read before the first second, as the
    floats of the past may differ. -/
theorem SameJob.performAll {π₁ π₂ : Type} [Panel π₁] [Panel π₂] (panel₁ : π₁) (panel₂ : π₂)
    {ops₁ ops₂ : List Operation} (halike : List.Forall₂ (Alike s) ops₁ ops₂)
    (hsame : SameJob s read passed j₁ j₂)
    (hread : read = true ∨ ReadsFirst (ops₁ ++ [.tick panel₁])) :
    SameJob s true true (j₁.performAll (ops₁ ++ [.tick panel₁])).value
        (j₂.performAll (ops₂ ++ [.tick panel₂])).value ∧
      (j₁.performAll (ops₁ ++ [.tick panel₁])).trace.sent =
        (j₂.performAll (ops₂ ++ [.tick panel₂])).trace.sent := by
  induction halike generalizing j₁ j₂ read passed with
  | nil =>
    have hread : read = true := hread.resolve_right id
    subst hread
    obtain ⟨hafter, hsent⟩ := hsame.tick panel₁ panel₂
    simp only [List.nil_append, WaterJet.performAll, perform_tick, Traced.value_bind,
      Traced.trace_bind, Traced.value_pure, Traced.trace_pure, Trace.append_empty]
    exact ⟨hafter, hsent⟩
  | cons hop hops ih =>
    obtain ⟨read, passed, hafter, hread, hsent⟩ := hsame.perform hop hread
    obtain ⟨hlater, hsentLater⟩ := ih hafter hread
    refine ⟨hlater, ?_⟩
    simp only [List.cons_append, WaterJet.performAll, Traced.trace_bind, Trace.sent_append, hsent,
      hsentLater]

/-- A new job carries nothing over. Take two new cutters of one configuration
    with any pasts that left no command waiting, let both accept a job, and let
    both undergo the same, with any panels. After every second they agree on the
    state, the verdict, what they ask of the outputs, the pause and the
    suspension, and they have sent the same commands since the start. -/
theorem job_carries_nothing_over {ι₁ ι₂ π₁ π₂ : Type} [PinAccess ι₁] [PinAccess ι₂] [Panel π₁]
    [Panel π₂] {s : JetSettings} {delay : Nat} {pins₁ : ι₁} {pins₂ : ι₂} {new₁ new₂ : WaterJet}
    (hbuild₁ : (build s delay pins₁).value = .ok new₁)
    (hbuild₂ : (build s delay pins₂).value = .ok new₂) {past₁ past₂ : List Operation}
    (hempty₁ : (new₁.performAll past₁).value.context.outbox = [])
    (hempty₂ : (new₂.performAll past₂).value.context.outbox = [])
    (haccepts₁ : ((new₁.performAll past₁).value.command startCode).value.2 = some startReply)
    (haccepts₂ : ((new₂.performAll past₂).value.command startCode).value.2 = some startReply)
    {ops₁ ops₂ : List Operation} (halike : List.Forall₂ (Alike s) ops₁ ops₂) (panel₁ : π₁)
    (panel₂ : π₂) (hread : ReadsFirst (ops₁ ++ [.tick panel₁])) :
    let job₁ := (new₁.performAll past₁).value.performAll
      (.command startCode :: ops₁ ++ [.tick panel₁])
    let job₂ := (new₂.performAll past₂).value.performAll
      (.command startCode :: ops₂ ++ [.tick panel₂])
    job₁.value.state = job₂.value.state ∧
      job₁.value.context.verdict = job₂.value.context.verdict ∧
      job₁.value.context.outputs = job₂.value.context.outputs ∧
      job₁.value.isPaused = job₂.value.isPaused ∧
      job₁.value.context.suspension = job₂.value.context.suspension ∧
      job₁.trace.sent = job₂.trace.sent := by
  obtain ⟨rfl, _⟩ := build_ok hbuild₁
  obtain ⟨rfl, _⟩ := build_ok hbuild₂
  have hfitted₁ := (fitted_ofSettings s delay).performAll past₁
  have hfitted₂ := (fitted_ofSettings s delay).performAll past₂
  generalize ((ofSettings s delay).performAll past₁).value = j₁ at *
  generalize ((ofSettings s delay).performAll past₂).value = j₂ at *
  obtain ⟨hstarted₁, hactive₁⟩ := value_startCode haccepts₁
  obtain ⟨hstarted₂, hactive₂⟩ := value_startCode haccepts₂
  have hsame := SameJob.start hfitted₁ hfitted₂ hactive₁ hactive₂ (hempty₁.trans hempty₂.symm)
  rw [← hstarted₁, ← hstarted₂] at hsame
  obtain ⟨hafter, hsent⟩ := hsame.performAll panel₁ panel₂ halike (.inr hread)
  have houtputs : ∀ {a b : Outputs}, a.dumpValve = b.dumpValve →
      a.lowPressurePump = b.lowPressurePump → a.highPressurePump = b.highPressurePump → a = b := by
    rintro ⟨⟩ ⟨⟩ rfl rfl rfl
    rfl
  intro job₁ job₂
  refine ⟨hafter.state_eq, hafter.verdict_eq rfl,
    houtputs (hafter.dump_eq rfl) hafter.feed_eq hafter.head_eq, hafter.paused_eq,
    hafter.suspension_eq, ?_⟩
  simp only [job₁, job₂, List.cons_append, WaterJet.performAll, Traced.trace_bind,
    Trace.sent_append, perform_command, sent_command, hsent]

/-- A job in a cutter that was just switched on, and in one that is suspended in
    the middle of an earlier job. -/
theorem job_carries_nothing_over_suspended :
    let fresh : List Operation := [.command 1401, .poll (plainPins ["P2.12"])]
    let suspended : List Operation :=
      [.command 1401, .poll (plainPins ["P2.12", "P1.29"]), .command 1403, .tick ({} : StubPanel),
        .tick ({} : StubPanel)]
    let ops : List Operation := [.poll (plainPins ["P2.12", "P1.28"]), .tick ({} : StubPanel)]
    let job (past : List Operation) :=
      (plain past).performAll (.command startCode :: ops ++ [.tick ({} : StubPanel)])
    (plain fresh).state = menu ∧ (plain fresh).isPaused = false ∧
      (plain suspended).state = levelTooHigh ∧ (plain suspended).isPaused = true ∧
      (job fresh).value.state = (job suspended).value.state ∧
      (job fresh).trace.sent = (job suspended).trace.sent := by
  intro fresh suspended ops job
  have hbuild : (WaterJet.build plainSettings 20 (plainPins [])).value =
      .ok (ofSettings plainSettings 20) := rfl
  have hpoll : Alike plainSettings (.poll (plainPins ["P2.12", "P1.28"]))
      (.poll (plainPins ["P2.12", "P1.28"])) := by
    refine .poll fun pin hpin => ?_
    simp only [List.mem_cons, List.not_mem_nil, or_false] at hpin
    rcases hpin with rfl | rfl | rfl
    · exact ⟨true, rfl, rfl⟩
    · exact ⟨false, rfl, rfl⟩
    · exact ⟨true, rfl, rfl⟩
  have halike : List.Forall₂ (Alike plainSettings) ops ops :=
    .cons hpoll (.cons (.tick ({} : StubPanel) ({} : StubPanel)) .nil)
  have hempty₁ : (plain fresh).context.outbox = [] := by decide
  have hempty₂ : (plain suspended).context.outbox = [] := by decide
  obtain ⟨hstate, _, _, _, _, hsent⟩ := job_carries_nothing_over hbuild hbuild hempty₁ hempty₂
    (by decide) (by decide) halike ({} : StubPanel) ({} : StubPanel) trivial
  exact ⟨by decide, by decide, by decide, by decide, hstate, hsent⟩

end WaterJet

end Interlock
