import Interlock.Proofs.Jet.Escalation

namespace Interlock

namespace WaterJet

open ProcessState

/-- A second that ends a pause: the pause is lifted, and no fault that the state
    looks at is found. -/
def LeavesPause (j : WaterJet) : Prop :=
  j.active = true ∧ j.isPaused = false ∧
    ((j.state ∈ pausedStates ∧ j.found.faults.levelTooHigh = false) ∨
      (j.state ∈ faultStates ∧ j.found.faults.mask = 0))

/-- The operations that bring the head on. -/
def Starts (j : WaterJet) : Operation → Prop
  | .command code => code = startCode ∧ j.active = true ∧ j.sensors.doorClosed = true
  | .requestState raw => ofRaw raw = running ∨ ofRaw raw = resuming
  | @Operation.tick _ _ _ => j.LeavesPause
  | _ => False

/-- The operations that bring the head on in an inactive module or behind an
    open door: the requests, which ask for neither, and the end of a pause,
    which does not look at the door. -/
def StartsUnguarded (j : WaterJet) : Operation → Prop
  | .requestState raw =>
    (ofRaw raw = running ∨ ofRaw raw = resuming) ∧
      ¬(j.active = true ∧ j.sensors.doorClosed = true)
  | @Operation.tick _ _ _ => j.LeavesPause ∧ j.sensors.doorClosed = false
  | _ => False

/-- An active cutter leaves its pause exactly if the next state is `resuming`.
    An inactive one has a next state as well, but no second to go there in. -/
theorem leavesPause_iff {j : WaterJet} (hactive : j.active = true) :
    j.LeavesPause ↔ j.state.successor j.seen = resuming := by
  rw [successor_eq_resuming_iff, verdict_seen, paused_seen, primaryFault_found_eq_none_iff]
  simp [LeavesPause, hactive]

/-- A second that ends a pause finds no fault to leave on: the faults that the
    state looks at are among those that hold it back. -/
theorem LeavesPause.raises_eq_none {j : WaterJet} (hleaves : j.LeavesPause) :
    j.state.raises j.found = none := by
  have hresuming := (leavesPause_iff hleaves.1).1 hleaves
  cases hraises : j.state.raises j.found with
  | none => rfl
  | some fault =>
    rw [successor_of_raises hraises] at hresuming
    cases fault <;> cases hresuming

/-- A move by command brings the head on exactly in the states that set it. That
    the head is off before excludes the states that leave it as it is. -/
theorem Settled.headOn_goto_iff {j : WaterJet} (hsettled : j.Settled) (hoff : j.headOn = false)
    (target : ProcessState) :
    (j.goto target).value.headOn = true ↔ target = running ∨ target = resuming := by
  rw [hsettled.headOn_goto, hoff, entryHead_getD_false_iff]

/-- A second brings the head on exactly if it ends a pause. A state that sets
    the head is entered in no other way by a second, as `running` is entered by
    command alone. -/
theorem Settled.headOn_tick_iff {j : WaterJet} (hsettled : j.Settled) (hoff : j.headOn = false)
    {π : Type} [Panel π] (panel : π) : (j.tick panel).value.1.headOn = true ↔ j.LeavesPause := by
  cases hactive : j.active with
  | false => simp [tick_of_inactive hactive, hoff, LeavesPause, hactive]
  | true =>
    rw [hsettled.headOn_tick hactive, hoff, entryHead_getD_false_iff, hsettled.state_tick hactive,
      leavesPause_iff hactive, or_iff_right (successor_ne_running _ _)]

/-- Of the commands, only the start of a job brings the head on, and it asks for
    an active module and a closed door. -/
theorem Settled.headOn_command_iff {j : WaterJet} (hsettled : j.Settled) (hoff : j.headOn = false)
    (code : Nat) :
    (j.command code).value.1.headOn = true ↔
      code = startCode ∧ j.active = true ∧ j.sensors.doorClosed = true := by
  have hother {code : Nat} {after : WaterJet} (hcode : code ≠ startCode)
      (hstays : after.headOn = false) :
      after.headOn = true ↔ code = startCode ∧ j.active = true ∧ j.sensors.doorClosed = true := by
    simp [hstays, hcode]
  have hafter := afterCommand_command j code
  generalize (j.command code).value.1 = after at hafter ⊢
  cases hafter with
  | started haccepts => simp [hsettled.headOn_goto_iff hoff, haccepts]
  | unchanged _ hrefused => exact iff_of_false (by simp [hoff]) hrefused
  | switchedOn => exact hother (by decide) (hsettled.activated.headOn_goto .menu)
  | keptOn => exact hother (by decide) hoff
  | switchedOff => exact hother (by decide) (hsettled.deactivated.headOn_goto .off)
  | ended => exact hother (by decide) (hsettled.headOn_goto .ending)

/-- The head comes on by the operations that start it, and by no other: polls,
    resumes and the driving of the outputs leave it off. -/
theorem Settled.headOn_perform_iff {j : WaterJet} (hsettled : j.Settled) (hoff : j.headOn = false)
    (op : Operation) : (j.perform op).value.headOn = true ↔ j.Starts op := by
  cases op with
  | poll pins =>
    have hkept : (j.poll pins).value.headOn = j.headOn := by
      rw [value_poll]
      rfl
    simp [hkept, hoff, Starts]
  | tick panel =>
    rw [perform_tick]
    exact hsettled.headOn_tick_iff hoff panel
  | drive pins =>
    have hkept : (j.drive pins).value.1.headOn = j.headOn := rfl
    simp [hkept, hoff, Starts]
  | command code =>
    rw [perform_command]
    exact hsettled.headOn_command_iff hoff code
  | requestState raw => exact hsettled.headOn_goto_iff hoff (.ofRaw raw)
  | resume =>
    have hkept : j.resume.value.1.headOn = j.headOn := by
      rw [value_resume]
      rfl
    simp [hkept, hoff, Starts]

/-- The unguarded starts are those of an inactive module or behind an open door.
    The start of a job is not among them, since it asks for both. -/
theorem startsUnguarded_iff (j : WaterJet) (op : Operation) :
    j.StartsUnguarded op ↔
      j.Starts op ∧ ¬(j.active = true ∧ j.sensors.doorClosed = true) := by
  cases op with
  | tick panel =>
    refine and_congr_right fun hleaves => ?_
    simp [hleaves.1]
  | command code =>
    simp only [StartsUnguarded, Starts, false_iff]
    exact fun hstarts => hstarts.2 hstarts.1.2
  | requestState raw => rfl
  | poll pins | drive pins | resume => simp [StartsUnguarded, Starts]

/-- Of all that can happen to a cutter whose head is off, exactly the start of a
    job in an active module behind a closed door, a request for a state of
    cutting and a second that leaves a pause bring the head on. It comes on in
    an inactive module or behind an open door exactly by such a request or such
    a second. -/
theorem head_comes_on_iff {j : WaterJet} {past : Trace} (hreached : Reached j past)
    (hoff : j.context.outputs.highPressurePump = false) (op : Operation) :
    let after := (j.perform op).value
    (after.context.outputs.highPressurePump = true ↔ j.Starts op) ∧
      ((after.context.outputs.highPressurePump = true ∧
          ¬(j.active = true ∧ j.sensors.doorClosed = true)) ↔ j.StartsUnguarded op) := by
  intro after
  have hstarts := hreached.settled.headOn_perform_iff hoff op
  refine ⟨hstarts, ?_⟩
  rw [startsUnguarded_iff, ← hstarts]
  rfl

/-- A cutter whose door was opened while a fault was waited out, and whose pause
    is lifted. -/
def openedDuringPause : WaterJet :=
  plain [.command 1401, .poll (plainPins ["P2.12"]), .command 1403, .tick ({} : StubPanel),
    .poll (plainPins ["P2.12", "P1.29"]), .tick ({} : StubPanel), .poll (plainPins []), .resume]

/-- The end of a pause brings the head on behind an open door. -/
theorem head_comes_on_behind_open_door :
    ¬∀ (j : WaterJet) (past : Trace) (op : Operation), Reached j past →
      j.context.outputs.highPressurePump = false →
      (j.perform op).value.context.outputs.highPressurePump = true →
      j.active = true ∧ j.sensors.doorClosed = true := by
  intro hguarded
  have hclosed := (hguarded openedDuringPause _ (.tick ({} : StubPanel)) (reached_plain _)
    (by decide) (by decide)).2
  exact absurd hclosed (by decide)

/-- The end of that pause by the theorem, and a request to a cutter that was
    never enabled. -/
theorem head_comes_on_unguarded :
    openedDuringPause.sensors.doorClosed = false ∧
      (openedDuringPause.perform (.tick ({} : StubPanel))).value.headOn = true ∧
      (plain []).active = false ∧ ((plain []).perform (.requestState 5)).value.headOn = true := by
  have hpause : openedDuringPause.StartsUnguarded (.tick ({} : StubPanel)) :=
    ⟨⟨by decide, by decide, .inr ⟨by decide, by decide⟩⟩, by decide⟩
  have hrequest : (plain []).StartsUnguarded (.requestState 5) := ⟨.inl rfl, by decide⟩
  exact ⟨by decide, ((head_comes_on_iff (reached_plain _) (by decide) _).2.2 hpause).1, by decide,
    ((head_comes_on_iff (reached_plain []) (by decide) _).2.2 hrequest).1⟩

/-- How a second that finds a fault can end with the head on: in a state that
    looks at no fault, or by the end of a pause, which any fault but an overfull
    tank lets pass. -/
def OverlooksFault (j : WaterJet) : Prop :=
  match j.state with
  | .running | .resuming => True
  | .prep => j.headOn = true
  | .paused | .gantryStalled => j.isPaused = false ∧ j.found.faults.levelTooHigh = false
  | _ => False

/-- A fault is found only where the tank is in use: elsewhere nothing is
    evaluated. -/
theorem tankInUse_of_found {j : WaterJet} (hfaults : j.found.faults.mask ≠ 0) :
    j.state.tankInUse = true := by
  cases huse : j.state.tankInUse with
  | true => rfl
  | false =>
    have hidle : j.found = {} := by simp [found, evaluate, huse]
    simp [hidle, FaultSet.mask] at hfaults

/-- Among the states that use the tank, those that look at every fault switch
    the head off. A second that finds a fault leaves the head on only where the
    process does not look at that fault. -/
theorem Settled.headOn_successor_iff {j : WaterJet} (hsettled : j.Settled)
    (hfaults : j.found.faults.mask ≠ 0) :
    (j.state.successor j.seen).entryHead.getD j.headOn = true ↔ j.OverlooksFault := by
  have huse := tankInUse_of_found hfaults
  have hhead := hsettled.head_eq true
  obtain ⟨fault, hworst⟩ : ∃ fault, j.seen.verdict.primaryFault = some fault :=
    FaultSet.exists_mostSevere (unnamed_found j) hfaults
  unfold OverlooksFault
  cases hstate : j.state <;> rw [hstate] at huse hhead
  case running | resuming => simp [successor, raises, onward, entryHead, hhead rfl]
  case prep =>
    have hkeeps : (prep.successor j.seen).entryHead = none := by
      simp only [successor, raises, onward]
      split_ifs <;> rfl
    simp [hkeeps]
  case paused | gantryStalled =>
    cases hhigh : j.found.faults.levelTooHigh <;> cases hpaused : j.isPaused <;>
      simp [successor, raises, onward, entryHead, ofFault, hhigh, hpaused]
  case watching | dumping | waitFill | filtersBlocked | idleTooLong | levelTooHigh =>
    simp only [successor, raises, hworst, entryHead_ofFault]
    simp
  all_goals cases huse

/-- A second of an active cutter whose verdict has a fault ends with the head on
    exactly in a state that overlooks it. -/
theorem head_stays_on_iff {j : WaterJet} {past : Trace} (hreached : Reached j past)
    (hactive : j.active = true) {π : Type} [Panel π] (panel : π)
    (hfaults : (j.tick panel).value.1.context.verdict.faults.mask ≠ 0) :
    (j.tick panel).value.1.context.outputs.highPressurePump = true ↔ j.OverlooksFault := by
  have hsettled := hreached.settled
  have hverdict : (j.tick panel).value.1.context.verdict = j.found :=
    (hsettled.context_tick hactive panel).2.1
  rw [hverdict] at hfaults
  rw [← hsettled.headOn_successor_iff hfaults, ← hsettled.state_tick hactive panel,
    ← hsettled.headOn_tick hactive]
  rfl

/-- An overfull tank in the first second of a job leaves the head on. -/
theorem head_stays_on_overfull :
    ¬∀ (j : WaterJet) (past : Trace) (panel : StubPanel), Reached j past → j.active = true →
      (j.tick panel).value.1.context.verdict.faults.mask ≠ 0 →
      (j.tick panel).value.1.context.outputs.highPressurePump = false := by
  intro hoff
  have hfirst := hoff (plain [.command 1401, .poll (plainPins ["P2.12", "P1.29"]), .command 1403]) _
    {} (reached_plain _) rfl (by decide)
  exact absurd hfirst (by decide)

/-- The first second of a job finds an overfull tank, and the head stays on. -/
theorem head_stays_on_first_second :
    let j := plain [.command 1401, .poll (plainPins ["P2.12", "P1.29"]), .command 1403]
    let after := (j.tick ({} : StubPanel)).value.1
    after.context.verdict.faults.mask = 8 ∧ after.headOn = true ∧ after.state = watching := by
  intro j after
  have hoverlooks : j.OverlooksFault := trivial
  have hon := (head_stays_on_iff (j := j) (reached_plain _) rfl ({} : StubPanel) (by decide)).2
    hoverlooks
  exact ⟨by decide, hon, by decide⟩

end WaterJet

end Interlock
