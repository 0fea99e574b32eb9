import Interlock.Proofs.Jet.Escalation
import Interlock.Proofs.Jet.Suspension

namespace Interlock

namespace WaterJet

open ProcessState

/-- Whether the process asks for the feed. -/
def feedOn (j : WaterJet) : Bool :=
  j.context.outputs.lowPressurePump

/-- Whether an operation is a second that starts in `levelTooHigh` and finds the
    tank idle for too long. -/
def findsIdle (j : WaterJet) : Operation → Bool
  | @Operation.tick _ _ _ =>
    j.active && j.state == levelTooHigh && j.found.faults.has .tankIdleTooLong
  | _ => false

/-- Whether some second found the tank idle since `levelTooHigh` was entered,
    after one more operation. -/
def idleAfter (j : WaterJet) (before : Bool) (op : Operation) : Bool :=
  !j.enters op [levelTooHigh] && (before || j.findsIdle op)

/-- Whether some second found the tank idle since a run entered `levelTooHigh`;
    without entering it that adds to what came before. -/
def idleSince (j : WaterJet) (before : Bool) : List Operation → Bool
  | [] => before
  | op :: ops => (j.perform op).value.idleSince (j.idleAfter before op) ops

/-- The feed in `levelTooHigh`, on the way from one cutter to another: entering
    the state switches it on, and a second in the state switches it off where
    the tank is found idle. -/
def FeedsOverfull (before after : WaterJet) (idle : Bool) : Prop :=
  after.state = levelTooHigh →
    after.feedOn = if before.state = levelTooHigh then before.feedOn && !idle else true

/-- Where process and outputs stay, so does the feed. -/
theorem FeedsOverfull.of_stays {before after : WaterJet} (hprocess : after.process = before.process)
    (houtputs : after.context.outputs = before.context.outputs) :
    FeedsOverfull before after false := by
  have hstate : after.state = before.state := congrArg JobProcess.current hprocess
  intro hafter
  rw [if_pos (hstate ▸ hafter), feedOn, houtputs]
  exact (Bool.and_true _).symm

/-- A move by command enters the state with the feed on. -/
theorem feedsOverfull_goto (j : WaterJet) (target : ProcessState) :
    FeedsOverfull j (j.goto target).value false := by
  intro hafter
  rw [state_goto] at hafter
  subst hafter
  rw [feedOn, context_goto, context_preparedFor]
  by_cases hstays : j.state = levelTooHigh
  · simp [hstays, feedOn]
  · rw [if_neg hstays, if_neg (Ne.symm hstays)]
    rfl

/-- No command leads to the state or cuts the feed off in it. Commands move to
    other states, or leave the process where it is. -/
theorem feedsOverfull_command (j : WaterJet) (code : Nat) :
    FeedsOverfull j (j.command code).value.1 false := by
  have hafter := afterCommand_command j code
  generalize (j.command code).value.1 = after at hafter ⊢
  cases hafter with
  | switchedOn => exact feedsOverfull_goto { j with active := true } menu
  | keptOn => exact .of_stays rfl rfl
  | switchedOff =>
    exact feedsOverfull_goto { j with active := false, context := j.context.stopWork } off
  | started => exact feedsOverfull_goto j running
  | ended => exact feedsOverfull_goto j ending
  | unchanged => exact .of_stays rfl rfl

/-- The verdict asks of the feed to go off where the tank is found idle, and
    else nothing. It never asks for the feed to come on. -/
theorem lowPressurePump_seen {j : WaterJet} (huse : j.state.tankInUse = true) :
    j.seen.outputs.lowPressurePump = (j.feedOn && !j.found.faults.has .tankIdleTooLong) := by
  have hseen : j.seen.outputs.lowPressurePump = j.found.lowPressurePump.getD j.feedOn := rfl
  have hverdict : j.found.lowPressurePump =
      if j.found.faults.has .tankIdleTooLong then some false else none := by
    rw [found_of_tankInUse huse]
    rfl
  rw [hseen, hverdict]
  cases j.found.faults.has .tankIdleTooLong <;> simp

/-- A second cuts the feed off exactly where it starts in the state and finds
    the tank idle. -/
theorem Settled.feedsOverfull_tick {j : WaterJet} (hsettled : j.Settled) {π : Type} [Panel π]
    (panel : π) : FeedsOverfull j (j.tick panel).value.1 (j.findsIdle (.tick panel)) := by
  unfold findsIdle
  cases hactive : j.active with
  | false =>
    rw [tick_of_inactive hactive]
    exact .of_stays rfl rfl
  | true =>
    intro hafter
    rw [hsettled.state_tick hactive] at hafter
    rw [feedOn, (hsettled.context_tick hactive panel).1, context_advanced]
    dsimp only
    rw [hafter]
    by_cases hstays : j.state = levelTooHigh
    · rw [if_pos hstays.symm, if_pos hstays, hstays, beq_self_eq_true, Bool.true_and, Bool.true_and]
      exact lowPressurePump_seen (by rw [hstays]; rfl)
    · -- The state is entered after the verdict has written to the outputs.
      rw [if_neg (Ne.symm hstays), if_neg hstays]
      rfl

/-- Every operation keeps the feed on in `levelTooHigh` unless it finds the tank
    idle, which only a second can. -/
theorem Settled.feedsOverfull_perform {j : WaterJet} (hsettled : j.Settled) (op : Operation) :
    FeedsOverfull j (j.perform op).value (j.findsIdle op) := by
  cases op with
  | poll pins =>
    rw [perform_poll, value_poll]
    exact .of_stays rfl rfl
  | tick panel =>
    rw [perform_tick]
    exact hsettled.feedsOverfull_tick panel
  | drive pins => exact .of_stays rfl rfl
  | command code =>
    rw [perform_command]
    exact feedsOverfull_command j code
  | requestState raw => exact feedsOverfull_goto j (.ofRaw raw)
  | resume =>
    rw [perform_resume, value_resume]
    exact .of_stays rfl rfl

/-- The step: in `levelTooHigh` the feed is on unless the tank was found idle
    since it was entered. -/
theorem Settled.feedOn_perform {j : WaterJet} (hsettled : j.Settled) {before : Bool}
    (hfeeds : j.state = levelTooHigh → j.feedOn = !before) (op : Operation)
    (hafter : (j.perform op).value.state = levelTooHigh) :
    (j.perform op).value.feedOn = !j.idleAfter before op := by
  rw [hsettled.feedsOverfull_perform op hafter, idleAfter, enters_eq, hafter]
  by_cases hstays : j.state = levelTooHigh
  · simp [hstays, hfeeds hstays]
  · simp [hstays, Ne.symm hstays]

theorem Settled.feedOn_performAll {j : WaterJet} (hsettled : j.Settled) {before : Bool}
    (hfeeds : j.state = levelTooHigh → j.feedOn = !before) (ops : List Operation)
    (hafter : (j.performAll ops).value.state = levelTooHigh) :
    (j.performAll ops).value.feedOn = !j.idleSince before ops := by
  induction ops generalizing j before with
  | nil => exact hfeeds hafter
  | cons op ops ih => exact ih (hsettled.perform op) (hsettled.feedOn_perform hfeeds op) hafter

/-- A second that finds the tank overfull and ends in `levelTooHigh` asks for an
    open dump valve: entering the state opens it, and in the state the verdict
    holds it open. -/
theorem Settled.dumpValve_tick {j : WaterJet} (hsettled : j.Settled) (hactive : j.active = true)
    {π : Type} [Panel π] (panel : π) (hstate : (j.tick panel).value.1.state = levelTooHigh)
    (hhigh : j.found.faults.has .levelTooHigh = true) :
    (j.tick panel).value.1.context.outputs.dumpValve = true := by
  rw [hsettled.state_tick hactive] at hstate
  rw [(hsettled.context_tick hactive panel).1, context_advanced]
  dsimp only
  rw [hstate]
  by_cases hstays : j.state = levelTooHigh
  · have hseen : j.seen.outputs.dumpValve =
        j.found.dumpValve.getD j.context.outputs.dumpValve := rfl
    rw [found_of_tankInUse (by rw [hstays]; rfl)] at hseen hhigh
    have hwet : j.sensors.floats.high = true := hhigh
    rw [if_pos hstays.symm, hseen, LevelGuard.evaluate, hwet]
    rfl
  · rw [if_neg (Ne.symm hstays)]
    rfl

/-- A second of an active cutter that ends in `levelTooHigh` and finds the tank
    overfull, whatever was done since the cutter was built. It asks for an open
    dump valve and for the head to be off; and it asks for the feed unless some
    second since the state was entered found the tank idle for too long. Such a
    second cuts the feed off, and nothing in the state switches it on again. -/
theorem overfull_outputs_eq {ι π : Type} [PinAccess ι] [Panel π] {s : JetSettings} {delay : Nat}
    {pins : ι} {new : WaterJet} (hbuild : (build s delay pins).value = .ok new)
    (ops : List Operation)
    (panel : π) (hactive : (new.performAll ops).value.active = true)
    (hstate : ((new.performAll ops).value.tick panel).value.1.state = levelTooHigh)
    (hhigh :
      ((new.performAll ops).value.tick panel).value.1.context.verdict.faults.has .levelTooHigh =
      true) :
    ((new.performAll ops).value.tick panel).value.1.context.outputs =
      ⟨true, !new.idleSince false (ops ++ [.tick panel]), false⟩ := by
  obtain ⟨rfl, _⟩ := build_ok hbuild
  have hnew := settled_ofSettings s delay
  have hsettled := hnew.performAll ops
  have hrun : ((ofSettings s delay).performAll (ops ++ [.tick panel])).value =
      (((ofSettings s delay).performAll ops).value.tick panel).value.1 := by
    simp [performAll_append, performAll]
  have hdump := hsettled.dumpValve_tick hactive panel hstate
    (by rwa [(hsettled.context_tick hactive panel).2.1] at hhigh)
  have hfeeds : (ofSettings s delay).state = levelTooHigh →
      (ofSettings s delay).feedOn = !false := by
    intro hoff
    cases hoff
  have hfeed := hnew.feedOn_performAll hfeeds (ops ++ [.tick panel]) (hrun ▸ hstate)
  have hhead := hsettled.headOn_tick hactive panel
  rw [hrun] at hfeed
  rw [hstate] at hhead
  generalize (((ofSettings s delay).performAll ops).value.tick panel).value.1 = after at *
  calc after.context.outputs = ⟨after.context.outputs.dumpValve, after.feedOn, after.headOn⟩ := rfl
    _ = ⟨true, !(ofSettings s delay).idleSince false (ops ++ [.tick panel]), false⟩ := by
      rw [hdump, hfeed, hhead]
      rfl

/-- A cutter whose tank is given up in a job and then found overfull. -/
def overfullAndIdle : List Operation :=
  [.command 1401, .poll (plainPins ["P2.12"]), .command 1403, .tick ({} : StubPanel),
    .tick ({} : StubPanel), .tick ({} : StubPanel), .poll (plainPins ["P2.12", "P1.28", "P1.29"])]

/-- The second after the one in which that cutter enters `levelTooHigh` asks for
    no feed. -/
theorem overfull_feed_cut_off :
    ¬∀ (j : WaterJet) (past : Trace) (panel : StubPanel), Reached j past → j.active = true →
      (j.tick panel).value.1.state = levelTooHigh →
      (j.tick panel).value.1.context.verdict.faults.has .levelTooHigh = true →
      (j.tick panel).value.1.context.outputs = ⟨true, true, false⟩ := by
  intro hheld
  have houtputs :=
    hheld (hasty (overfullAndIdle ++ [.tick ({} : StubPanel)])) _ {} (reached_hasty _)
    (by decide) (by decide) (by decide)
  exact absurd houtputs (by decide)

/-- The second in which that cutter enters `levelTooHigh`, and the next one. -/
theorem overfull_outputs_eq_idle :
    let second : Operation := .tick ({} : StubPanel)
    let outputs (ops : List Operation) :=
      ((hasty ops).tick ({} : StubPanel)).value.1.context.outputs
    outputs overfullAndIdle = ⟨true, true, false⟩ ∧
      outputs (overfullAndIdle ++ [second]) = ⟨true, false, false⟩ := by
  intro second outputs
  have hbuild : (WaterJet.build hastySettings 20 (plainPins [])).value =
      .ok (ofSettings hastySettings 20) := rfl
  have hentered := overfull_outputs_eq hbuild overfullAndIdle ({} : StubPanel) (by decide)
    (by decide) (by decide)
  have hlater := overfull_outputs_eq hbuild (overfullAndIdle ++ [second]) ({} : StubPanel)
    (by decide) (by decide) (by decide)
  exact ⟨hentered.trans (by decide), hlater.trans (by decide)⟩

end WaterJet

end Interlock
