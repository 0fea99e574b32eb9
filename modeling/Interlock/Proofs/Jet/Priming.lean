import Interlock.Proofs.Jet.Escalation
import Interlock.Proofs.Jet.NewJob
import Interlock.Proofs.Jet.Suspension
import Interlock.Proofs.Level.Recovery

namespace Interlock

namespace WaterJet

open ProcessState

/-- Whether an operation starts the level history over: a job is asked for, or
    the operator resumes a paused cutter. -/
def startsOver (j : WaterJet) : Operation → Bool
  | .resume => j.isPaused
  | op => j.asksForJob op

/-- What the guard reads in an operation: the floats as last polled, in a second
    of a tank in use. -/
def evaluated (j : WaterJet) : Operation → List Floats
  | @Operation.tick _ _ _ => if j.active && j.state.tankInUse then [j.sensors.floats] else []
  | _ => []

/-- The readings since the level history started over, after one more operation. -/
def readingsAfter (j : WaterJet) (before : List Floats) (op : Operation) : List Floats :=
  if j.startsOver op then [] else before ++ j.evaluated op

/-- The readings since a run started the level history over; if it did not, they
    add to those that came before. -/
def readingsSince (j : WaterJet) (before : List Floats) : List Operation → List Floats
  | [] => before
  | op :: ops => (j.perform op).value.readingsSince (j.readingsAfter before op) ops

theorem readingsAfter_of_startsOver {j : WaterJet} (before : List Floats) {op : Operation}
    (hover : j.startsOver op = true) : j.readingsAfter before op = [] := by
  rw [readingsAfter, hover, if_pos rfl]

theorem readingsAfter_of_quiet {j : WaterJet} (before : List Floats) {op : Operation}
    (hgoesOn : j.startsOver op = false) (hnone : j.evaluated op = []) :
    j.readingsAfter before op = before := by
  rw [readingsAfter, hgoesOn, hnone, List.append_nil]
  rfl

/-- A move by command starts the level history over for a new job, and only
    then. -/
theorem tracks_goto {j : WaterJet} {before : List Floats} (htracks : j.guard.Tracks before)
    (target : ProcessState) :
    (j.goto target).value.guard.Tracks (if target = running then [] else before) := by
  rw [guard_goto, guard_preparedFor]
  split
  · exact LevelGuard.tracks_nil rfl rfl
  · exact htracks

/-- A command keeps the guard in line with the readings. The start code does so
    whether the job is accepted or not, as only an accepted one asks for a job. -/
theorem tracks_command {j : WaterJet} {before : List Floats} (htracks : j.guard.Tracks before)
    (code : Nat) :
    (j.command code).value.1.guard.Tracks (j.readingsAfter before (.command code)) := by
  have hafter := afterCommand_command j code
  generalize (j.command code).value.1 = after at hafter ⊢
  have hkept (hgoesOn : j.startsOver (.command code) = false) :
      j.readingsAfter before (.command code) = before :=
    readingsAfter_of_quiet before hgoesOn rfl
  cases hafter with
  | started haccepts =>
    have hover : j.startsOver (.command startCode) = true := by
      simp [startsOver, asksForJob, haccepts]
    rw [readingsAfter_of_startsOver before hover]
    exact tracks_goto htracks running
  | unchanged _ hrefused =>
    rw [hkept (by simpa [startsOver, asksForJob] using hrefused)]
    exact htracks
  | switchedOn =>
    rw [hkept rfl]
    exact tracks_goto (j := { j with active := true }) htracks menu
  | keptOn =>
    rw [hkept rfl]
    exact htracks
  | switchedOff =>
    rw [hkept rfl]
    exact tracks_goto (j := { j with active := false, context := j.context.stopWork }) htracks off
  | ended =>
    rw [hkept rfl]
    exact tracks_goto htracks ending

/-- A second adds a reading where it evaluates one, that is in an active cutter
    whose state uses the tank. Otherwise the guard is left as it is. -/
theorem Settled.tracks_tick {j : WaterJet} (hsettled : j.Settled) {before : List Floats}
    (htracks : j.guard.Tracks before) {π : Type} [Panel π] (panel : π) :
    (j.tick panel).value.1.guard.Tracks (j.readingsAfter before (.tick panel)) := by
  unfold readingsAfter startsOver asksForJob evaluated
  cases hactive : j.active with
  | false => simpa [tick_of_inactive hactive] using htracks
  | true =>
    rw [(hsettled.kept_tick hactive panel).1]
    unfold evaluate
    cases j.state.tankInUse with
    | true => exact htracks.advance j.sensors.floats
    | false => simpa using htracks

/-- The step: an operation keeps the guard in line with the readings. The starts
    of jobs and the ends of pauses begin the readings anew, as they reset the
    guard. -/
theorem Settled.tracks_perform {j : WaterJet} (hsettled : j.Settled) {before : List Floats}
    (htracks : j.guard.Tracks before) (op : Operation) :
    (j.perform op).value.guard.Tracks (j.readingsAfter before op) := by
  cases op with
  | poll pins =>
    rw [perform_poll, value_poll, readingsAfter_of_quiet before rfl rfl]
    exact htracks
  | tick panel =>
    rw [perform_tick]
    exact hsettled.tracks_tick htracks panel
  | drive pins =>
    rw [perform_drive, readingsAfter_of_quiet before rfl rfl]
    exact htracks
  | command code =>
    rw [perform_command]
    exact tracks_command htracks code
  | requestState raw =>
    have hrequested : (j.requestState raw).value = (j.goto (ofRaw raw)).value := rfl
    rw [perform_requestState, hrequested]
    simpa [readingsAfter, startsOver, evaluated, asksForJob] using tracks_goto htracks (ofRaw raw)
  | resume =>
    have hover : j.startsOver .resume = j.isPaused := rfl
    rw [perform_resume, value_resume, hsettled.paused_eq, Bool.or_self]
    cases hpaused : j.isPaused with
    | true =>
      rw [readingsAfter_of_startsOver before (hover.trans hpaused)]
      exact LevelGuard.tracks_nil rfl rfl
    | false =>
      rw [readingsAfter_of_quiet before (hover.trans hpaused) rfl]
      exact htracks

/-- The run: the guard knows of the readings since the level history started
    over what the next evaluation needs. -/
theorem Settled.tracks_performAll {j : WaterJet} (hsettled : j.Settled) {before : List Floats}
    (htracks : j.guard.Tracks before) (ops : List Operation) :
    (j.performAll ops).value.guard.Tracks (j.readingsSince before ops) := by
  induction ops generalizing j before with
  | nil => exact htracks
  | cons op ops ih => exact ih (hsettled.perform op) (hsettled.tracks_perform htracks op)

/-- What goes on without anybody's doing: inputs are read, seconds pass and
    outputs are driven. -/
def Operation.IsRoutine : Operation → Prop
  | @Operation.poll _ _ _ => True
  | @Operation.tick _ _ _ => True
  | @Operation.drive _ _ _ => True
  | _ => False

/-- A second of preparing ends it exactly if the guard finds the tank draining.
    Preparing looks at no fault, so nothing else leads out of it in a second. -/
theorem Settled.state_tick_of_prep {j : WaterJet} (hsettled : j.Settled) (hactive : j.active = true)
    (hprep : j.state = prep) {π : Type} [Panel π] (panel : π) :
    (j.tick panel).value.1.state =
      if j.guard.phase j.sensors.floats = .dumping then ready else prep := by
  have hfound : j.found.phase = j.guard.phase j.sensors.floats := by
    rw [found_of_tankInUse (by rw [hprep]; rfl)]
    rfl
  rw [hsettled.state_tick hactive, successor_of_quiet (by rw [hprep]; rfl), hprep, verdict_seen,
    hfound]
  rfl

/-- A cutter that prepares over a tank which was given up. -/
structure Stuck (j : WaterJet) : Prop where
  settled : j.Settled
  prep : j.state = prep
  abandoned : j.guard.Abandoned

/-- A second keeps a cutter stuck: the guard of a tank that was given up finds
    it too low, whatever the floats read, and so never draining. -/
theorem Stuck.tick {j : WaterJet} (hstuck : j.Stuck) {π : Type} [Panel π] (panel : π) :
    (j.tick panel).value.1.Stuck := by
  obtain ⟨hsettled, hprep, habandoned⟩ := hstuck
  cases hactive : j.active with
  | false =>
    rw [tick_of_inactive hactive]
    exact ⟨hsettled, hprep, habandoned⟩
  | true =>
    have hlow : j.guard.isTooLow = true := by simp [LevelGuard.isTooLow, habandoned.lt_fill]
    have hphase : j.guard.phase j.sensors.floats = .tooLow :=
      (LevelGuard.phase_eq_tooLow_iff _ _).2 hlow
    have hguard : (j.tick panel).value.1.guard = j.guard.advance j.sensors.floats := by
      rw [(hsettled.kept_tick hactive panel).1]
      simp [evaluate, hprep, tankInUse, LevelGuard.evaluate]
    refine ⟨hsettled.tick panel, ?_, ?_⟩
    · rw [hsettled.state_tick_of_prep hactive hprep, hphase]
      rfl
    · rw [hguard]
      exact habandoned.advance j.sensors.floats

/-- What goes on without anybody's doing is a second, or touches neither state
    nor guard. -/
theorem Stuck.perform {j : WaterJet} (hstuck : j.Stuck) {op : Operation} (hroutine : op.IsRoutine) :
    (j.perform op).value.Stuck := by
  cases op with
  | poll pins =>
    rw [perform_poll]
    have hsettled := hstuck.settled.poll pins
    rw [value_poll] at hsettled ⊢
    exact ⟨hsettled, hstuck.prep, hstuck.abandoned⟩
  | tick panel =>
    rw [perform_tick]
    exact hstuck.tick panel
  | drive pins =>
    rw [perform_drive]
    exact ⟨hstuck.settled.drive pins, hstuck.prep, hstuck.abandoned⟩
  | command code => exact hroutine.elim
  | requestState raw => exact hroutine.elim
  | resume => exact hroutine.elim

/-- Of itself nothing ends the preparing of a tank that was given up. -/
theorem Stuck.performAll {j : WaterJet} (hstuck : j.Stuck) {ops : List Operation}
    (hroutine : ∀ op ∈ ops, op.IsRoutine) : (j.performAll ops).value.Stuck := by
  induction ops generalizing j with
  | nil => exact hstuck
  | cons op ops ih =>
    have hop := hroutine op List.mem_cons_self
    exact ih (hstuck.perform hop) fun later hlater =>
      hroutine later (List.mem_cons_of_mem op hlater)

/-- A second of an active cutter that prepares over a wet middle float, whatever
    was done since the cutter was built. Preparing ends exactly if the tank was
    not given up: no dry run of the readings since the level history started
    over went beyond the last limit. Entering `prep` does not start that history
    over. After such a run preparing does not end by itself, however many
    seconds pass and whatever the floats read. -/
theorem prep_ends_iff {ι π : Type} [PinAccess ι] [Panel π] {s : JetSettings} {delay : Nat}
    {pins : ι}
    {new : WaterJet} (hbuild : (build s delay pins).value = .ok new) (ops : List Operation)
    (panel : π)
    (hactive : (new.performAll ops).value.active = true)
    (hprep : (new.performAll ops).value.state = prep)
    (hwet : (new.performAll ops).value.sensors.floats.middle = true) :
    let j := (new.performAll ops).value
    let givenUp := LevelGuard.GivenUp (limitsOf s) (new.readingsSince [] ops)
    ((j.tick panel).value.1.state = ready ↔ ¬givenUp) ∧
      (givenUp → ∀ later : List Operation, (∀ op ∈ later, op.IsRoutine) →
        (j.performAll later).value.state = prep) := by
  intro j givenUp
  obtain ⟨rfl, _⟩ := build_ok hbuild
  have hfitted : j.Fitted s := (fitted_ofSettings s delay).performAll ops
  have htracks : j.guard.Tracks ((ofSettings s delay).readingsSince [] ops) :=
    (settled_ofSettings s delay).tracks_performAll (LevelGuard.tracks_nil rfl rfl) ops
  have hlow : j.guard.isTooLow = true ↔ givenUp := by
    rw [htracks.isTooLow_iff, hfitted.limits_eq]
  refine ⟨?_, fun hgiven later hroutine => ?_⟩
  · have hdrains := LevelGuard.phase_eq_dumping_iff j.guard hwet
    rw [hfitted.settled.state_tick_of_prep hactive hprep, ← hlow, Bool.not_eq_true, ← hdrains]
    refine ⟨fun hready => ?_, fun hdumping => if_pos hdumping⟩
    by_contra hnot
    rw [if_neg hnot] at hready
    cases hready
  · obtain ⟨hnot, _⟩ | ⟨_, habandoned⟩ := htracks
    · exact absurd hgiven (by rwa [hfitted.limits_eq] at hnot)
    · exact (Stuck.performAll ⟨hfitted.settled, hprep, habandoned⟩ hroutine).prep

/-- The tank was dry for two seconds of preparing, and the third finds it wet. -/
theorem prep_outlasts_wet_float :
    ¬∀ (j : WaterJet) (past : Trace) (panel : StubPanel), Reached j past → j.active = true →
      j.state = prep → j.sensors.floats.middle = true → (j.tick panel).value.1.state = ready := by
  intro hends
  have hready := hends
    (hasty [.command 1401, .requestState 2, .tick ({} : StubPanel), .tick ({} : StubPanel),
      .poll (plainPins ["P1.28"])]) _ {} (reached_hasty _) (by decide) (by decide) (by decide)
  exact absurd hready (by decide)

/-- Preparing over a tank that is wet after one second, and over one that stays
    wet for a minute after two. -/
theorem prep_ends_iff_hasty :
    let second : Operation := .tick ({} : StubPanel)
    let wet : Operation := .poll (plainPins ["P1.28"])
    let intime := hasty [.command 1401, .requestState 2, second, wet]
    let late := hasty [.command 1401, .requestState 2, second, second, wet]
    (intime.tick ({} : StubPanel)).value.1.state = ready ∧
      (late.performAll (List.replicate 60 second)).value.state = prep := by
  intro second wet intime late
  have hbuild : (WaterJet.build hastySettings 20 (plainPins [])).value =
      .ok (ofSettings hastySettings 20) := rfl
  have hintime := prep_ends_iff hbuild [.command 1401, .requestState 2, second, wet]
    ({} : StubPanel) (by decide) (by decide) (by decide)
  have hlate := prep_ends_iff hbuild [.command 1401, .requestState 2, second, second, wet]
    ({} : StubPanel) (by decide) (by decide) (by decide)
  refine ⟨hintime.1.2 (by decide), hlate.2 (by decide) _ fun op hop => ?_⟩
  obtain rfl := List.eq_of_mem_replicate hop
  exact trivial

end WaterJet

end Interlock
