import Interlock.Proofs.Jet.Head

namespace Interlock

namespace WaterJet

open ProcessState

theorem frame_resume (j : WaterJet) :
    j.resume.value.1.active = j.active ∧ j.resume.value.1.state = j.state ∧
      j.resume.value.1.isPaused = false := by
  rw [value_resume]
  exact ⟨rfl, rfl, rfl⟩

theorem resumed_of_isPaused {j : WaterJet} (hpaused : j.isPaused = true) :
    j.resume.value.2 = true := by
  simp [resume, hpaused]

/-- A second that leaves a pause switches both pumps on and lets useful work go
    on. The feed comes on with the job, whatever the verdict asked of it. -/
theorem Settled.tick_resuming {j : WaterJet} (hsettled : j.Settled) (hleaves : j.LeavesPause)
    {π : Type} [Panel π] (panel : π) :
    let after := (j.tick panel).value.1
    after.state = resuming ∧ after.context.outputs.lowPressurePump = true ∧
      after.context.outputs.highPressurePump = true ∧ after.context.frozen = false ∧
      after.isPaused = false ∧ (j.tick panel).trace.sent = [] := by
  intro after
  obtain ⟨hactive, hunpaused, hwaits⟩ := id hleaves
  have hresuming := (leavesPause_iff hactive).1 hleaves
  have hmoves : resuming ≠ j.state := by
    rintro hstays
    rw [← hstays] at hwaits
    simp [pausedStates, faultStates] at hwaits
  have hentered : j.advanced.context.outputs.lowPressurePump = true ∧
      j.advanced.context.outputs.highPressurePump = true ∧ j.advanced.context.frozen = false := by
    rw [context_advanced, hresuming]
    simp only [if_neg hmoves]
    exact ⟨rfl, rfl, rfl⟩
  obtain ⟨hlow, hhigh, hgoes⟩ := hentered
  obtain ⟨houtputs, _⟩ := hsettled.context_tick hactive panel
  obtain ⟨_, _, _, hfrozen, _⟩ := hsettled.kept_tick hactive panel
  obtain ⟨hpaused, hsent⟩ := hsettled.tick_clear hactive hleaves.raises_eq_none panel
  rw [hunpaused] at hpaused
  refine ⟨(hsettled.state_tick hactive panel).trans hresuming, ?_, ?_, ?_, hpaused, hsent⟩
  · exact (congrArg Outputs.lowPressurePump houtputs).trans hlow
  · exact (congrArg Outputs.highPressurePump houtputs).trans hhigh
  · rw [hfrozen, hpaused, hgoes]
    rfl

/-- A job that was taken up again is watched a second later, whatever that
    second finds: it looks at no fault. -/
theorem Settled.watching_of_resuming {j : WaterJet} (hsettled : j.Settled)
    (hactive : j.active = true) (hresuming : j.state = resuming) {π : Type} [Panel π] (panel : π) :
    (j.tick panel).value.1.state = watching := by
  rw [hsettled.state_tick hactive, hresuming]
  rfl

/-- A second of a cutter that is in no pause and finds a fault to leave on
    suspends the machine. The pause was lifted, so that the suspend command is
    sent and not only noted. -/
theorem Settled.tick_hindered {j : WaterJet} (hsettled : j.Settled) (hactive : j.active = true)
    (hunpaused : j.isPaused = false) {fault : LevelFault}
    (hraises : j.state.raises j.found = some fault) {π : Type} [Panel π] (panel : π) :
    let after := (j.tick panel).value.1
    after.state = ofFault fault ∧ after.context.outputs.highPressurePump = false ∧
      after.isPaused = true ∧ (j.tick panel).trace.sent = [suspendCommand] := by
  intro after
  obtain ⟨hpaused, _, hsent, _⟩ := hsettled.tick_fault hactive hraises panel
  have hstate : after.state = ofFault fault := by
    rw [hsettled.state_tick hactive, successor_of_raises hraises]
  have hhead : after.headOn = false := by
    rw [hsettled.headOn_tick hactive, hstate, entryHead_ofFault]
    rfl
  refine ⟨hstate, hhead, hpaused, ?_⟩
  rw [hsent, hunpaused]
  rfl

/-- What stands in the way of a cutter that waits: its most severe fault, which
    in a pause is an overfull tank. That is the most severe of all, so nothing
    outweighs it there. -/
theorem raises_of_hindered {j : WaterJet} (hwaits : j.state ∈ pausedStates ++ faultStates)
    (hhindered : ¬((j.state ∈ pausedStates ∧ j.found.faults.has .levelTooHigh = false) ∨
      (j.state ∈ faultStates ∧ j.found.faults.mask = 0))) :
    ∃ fault, j.state.raises j.found = some fault ∧ j.found.faults.has fault = true ∧
      (∀ other, j.found.faults.has other = true → other.severity ≤ fault.severity) ∧
      (j.state ∈ pausedStates → fault = .levelTooHigh) := by
  rw [not_or, not_and, not_and, Bool.not_eq_false] at hhindered
  obtain ⟨hpausing, hfaulty⟩ := hhindered
  by_cases hpause : j.state ∈ pausedStates
  · have hhigh := hpausing hpause
    refine ⟨.levelTooHigh, ?_, hhigh, fun other _ => by cases other <;> decide, fun _ => rfl⟩
    rw [raises_of_paused hpause]
    exact if_pos hhigh
  · have hfault : j.state ∈ faultStates := (List.mem_append.1 hwaits).resolve_left hpause
    obtain ⟨fault, hworst⟩ := FaultSet.exists_mostSevere (unnamed_found j) (hfaulty hfault)
    refine ⟨fault, ?_, FaultSet.has_of_mostSevere hworst, ?_,
      fun hpausing => absurd hpausing hpause⟩
    · rw [raises_of_watched (mem_watched_of_fault hfault)]
      exact hworst
    · intro other hother
      exact FaultSet.severity_le_of_mostSevere hworst hother

/-- A resume of a paused cutter that waits, and the second after it. The resume
    only lifts the pause and forgets the times of filling and draining; the
    second decides. If it finds nothing that stands in the way, which for a
    pause is an overfull tank and otherwise any fault, the job is taken up
    again: both pumps are on, useful work goes on, the module is not paused, and
    the next second watches the job. Otherwise the second ends in the state of
    the most severe fault, with the head off, the module paused again and the
    suspend command sent once. -/
theorem resume_restarts_or_suspends {j : WaterJet} {past : Trace} (hreached : Reached j past)
    (hactive : j.active = true) (hpaused : j.isPaused = true)
    (hwaits : j.state ∈ pausedStates ++ faultStates) {π : Type} [Panel π] (panel : π) :
    let resumed := j.resume.value.1
    let found := (resumed.guard.evaluate resumed.sensors.floats).2
    let after := (resumed.tick panel).value.1
    let sent := j.resume.trace.sent ++ (resumed.tick panel).trace.sent
    let clean := (j.state ∈ pausedStates ∧ found.faults.has .levelTooHigh = false) ∨
      (j.state ∈ faultStates ∧ found.faults.mask = 0)
    j.resume.value.2 = true ∧ after.context.verdict = found ∧
      (clean →
        after.state = resuming ∧
          after.context.outputs.lowPressurePump = true ∧
          after.context.outputs.highPressurePump = true ∧
          after.context.frozen = false ∧
          after.isPaused = false ∧
          sent = [] ∧
          ∀ {ρ : Type} [Panel ρ] (later : ρ), (after.tick later).value.1.state = watching) ∧
      (¬clean →
        ∃ fault, found.faults.has fault = true ∧
          (∀ other, found.faults.has other = true → other.severity ≤ fault.severity) ∧
          (j.state ∈ pausedStates → fault = .levelTooHigh) ∧
          after.state = ofFault fault ∧
          after.context.outputs.highPressurePump = false ∧
          after.isPaused = true ∧
          sent = ["M600"]) := by
  intro resumed found after sent clean
  have hsettled : resumed.Settled := hreached.settled.resume
  obtain ⟨hactiveKept, hstate, hlifted⟩ := frame_resume j
  have hactiveResumed : resumed.active = true := hactiveKept.trans hactive
  have hfound : resumed.found = found := by
    refine found_of_tankInUse ?_
    rw [hstate]
    revert hwaits
    cases j.state <;> decide
  have hsent : sent = (resumed.tick panel).trace.sent := by
    simp only [sent, sent_resume, List.nil_append, resumed]
  obtain ⟨_, hverdict, _, _, _, hactiveAfter⟩ := hsettled.context_tick hactiveResumed panel
  refine ⟨resumed_of_isPaused hpaused, hverdict.trans hfound, fun hclean => ?_, fun hhindered => ?_⟩
  · have hleaves : resumed.LeavesPause := by
      refine ⟨hactiveResumed, hlifted, ?_⟩
      rw [hstate, hfound]
      exact hclean
    obtain ⟨hstateAfter, hlow, hhigh, hfrozen, hunpaused, hquiet⟩ :=
      hsettled.tick_resuming hleaves panel
    refine ⟨hstateAfter, hlow, hhigh, hfrozen, hunpaused, hsent.trans hquiet, ?_⟩
    intro ρ _ later
    exact (hsettled.tick panel).watching_of_resuming (hactiveAfter.trans hactiveResumed)
      hstateAfter later
  · have hblocked : ∃ fault, resumed.state.raises resumed.found = some fault ∧ _ ∧ _ ∧ _ :=
      raises_of_hindered (hstate ▸ hwaits) (by rwa [hstate, hfound])
    rw [hfound, hstate] at hblocked
    obtain ⟨fault, hraises, hhas, hworst, hpausing⟩ := hblocked
    rw [← hfound, ← hstate] at hraises
    obtain ⟨hstateAfter, hoff, hpausedAfter, hsuspends⟩ :=
      hsettled.tick_hindered hactiveResumed hlifted hraises panel
    exact ⟨fault, hhas, hworst, hpausing, hstateAfter, hoff, hpausedAfter, hsent.trans hsuspends⟩

/-- The resume of an overfull tank, which suspends the machine again, and of one
    that has drained. -/
theorem resume_restarts_or_suspends_overfull :
    let overfull := [.command 1401, .poll (plainPins ["P2.12"]), .command 1403,
      .tick ({} : StubPanel), .poll (plainPins ["P2.12", "P1.29"]), .tick ({} : StubPanel)]
    let wet := plain overfull
    let drained := plain (overfull ++ [.poll (plainPins ["P2.12"])])
    let again := (wet.resume.value.1.tick ({} : StubPanel)).value.1
    let restarted := (drained.resume.value.1.tick ({} : StubPanel)).value.1
    wet.state = levelTooHigh ∧ wet.isPaused = true ∧
      again.isPaused = true ∧ again.context.outputs.highPressurePump = false ∧
      drained.state = levelTooHigh ∧ drained.isPaused = true ∧
      restarted.state = resuming ∧ restarted.context.outputs.highPressurePump = true ∧
      restarted.isPaused = false ∧
      (restarted.tick ({} : StubPanel)).value.1.state = watching := by
  intro overfull wet drained
  obtain ⟨_, _, _, hsuspends⟩ :=
    resume_restarts_or_suspends (reached_plain overfull) rfl rfl (by decide) ({} : StubPanel)
  obtain ⟨_, _, _, _, _, hoff, hpaused, _⟩ := hsuspends (by decide)
  obtain ⟨_, _, hrestarts, _⟩ :=
    resume_restarts_or_suspends (j := drained) (reached_plain _) rfl rfl (by decide)
      ({} : StubPanel)
  obtain ⟨hstate, _, hon, _, hunpaused, _, hwatched⟩ := hrestarts (by decide)
  exact ⟨rfl, rfl, hpaused, hoff, rfl, rfl, hstate, hon, hunpaused, hwatched ({} : StubPanel)⟩

end WaterJet

end Interlock
