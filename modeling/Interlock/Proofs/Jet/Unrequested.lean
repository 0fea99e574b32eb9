import Interlock.Proofs.Jet.Cutting
import Interlock.Proofs.Jet.Head

namespace Interlock

namespace WaterJet

open ProcessState

/-- What holds of a cutter between two operations as long as no state is
    requested of it. -/
structure Unrequested (j : WaterJet) : Prop where
  settled : j.Settled
  not_waiting : j.state ∉ pausedStates
  cutting_unpaused : j.state ∈ cuttingStates → j.isPaused = false
  no_sequence : j.context.suspension ≠ some .pauseSequence
  escalated : j.state ∈ faultStates → j.context.suspension = some .escalation

/-- A new cutter waits in no state and has no suspension to remember. -/
theorem unrequested_ofSettings (s : JetSettings) (delay : Nat) :
    (ofSettings s delay).Unrequested where
  settled := settled_ofSettings s delay
  not_waiting := by simp [ofSettings, state, JobProcess.ofInitial, pausedStates]
  cutting_unpaused := fun _ => rfl
  no_sequence := nofun
  escalated := by simp [ofSettings, state, JobProcess.ofInitial, faultStates]

/-- Only the process, the alarm and the note of the suspension count. -/
theorem Unrequested.frame {j j' : WaterJet} (hplain : j.Unrequested) (hsettled : j'.Settled)
    (hprocess : j'.process = j.process) (halarm : j'.alarm = j.alarm)
    (hsuspension : j'.context.suspension = j.context.suspension) : j'.Unrequested := by
  obtain ⟨_, hwaiting, hcutting, hsequence, hescalated⟩ := hplain
  refine ⟨hsettled, ?_, ?_, hsuspension ▸ hsequence, ?_⟩ <;> unfold state at *
  · rwa [hprocess]
  · unfold isPaused at *
    rwa [hprocess, halarm]
  · rwa [hprocess, hsuspension]

/-- The moves of commands lead to states outside of any suspension. Of these
    only `running` cuts, and to enter it ends the pause. -/
theorem Unrequested.goto {j : WaterJet} (hplain : j.Unrequested) {target : ProcessState}
    (htarget : target ∈ [off, menu, running, ending]) : (j.goto target).value.Unrequested := by
  have hsettled := hplain.settled
  have hsequence := hplain.no_sequence
  have houtside : target ∉ pausedStates ∧ target ∉ faultStates ∧
      (target ∈ cuttingStates → target = running) := by
    revert htarget
    cases target <;> decide
  refine ⟨hsettled.goto target, ?_, ?_, ?_, ?_⟩
  · rw [state_goto]
    exact houtside.1
  · intro hcutting
    rw [state_goto] at hcutting
    rw [hsettled.isPaused_goto, houtside.2.2 hcutting]
    rfl
  · rw [context_goto, context_preparedFor]
    split
    · dsimp only
      split
      · nofun
      · exact hsequence
    · dsimp only
      rw [suspension_enter]
      revert htarget
      cases target <;> simp [entrySuspension, hsequence]
  · intro hfault
    rw [state_goto] at hfault
    exact absurd hfault houtside.2.1

/-- A command makes such moves, and otherwise changes fields that do not count
    here. -/
theorem Unrequested.command {j : WaterJet} (hplain : j.Unrequested) (code : Nat) :
    (j.command code).value.1.Unrequested := by
  refine hplain.settled.keeps_command hplain ?_ ?_ ?_ ?_ code
  · intro j active hplain
    exact hplain.frame (hplain.settled.frame rfl rfl rfl rfl rfl rfl) rfl rfl rfl
  · intro j hplain
    exact hplain.frame (hplain.settled.frame rfl rfl rfl rfl rfl rfl) rfl rfl rfl
  · intro j hplain
    exact hplain.frame (hplain.settled.frame rfl rfl rfl rfl rfl rfl) rfl rfl rfl
  · intro j _ hplain target htarget
    exact hplain.goto htarget

/-- A resume lifts a pause, which no cutting state is the worse for. -/
theorem Unrequested.resume {j : WaterJet} (hplain : j.Unrequested) :
    j.resume.value.1.Unrequested := by
  have hsettled := hplain.settled.resume
  obtain ⟨_, hwaiting, _, hsequence, hescalated⟩ := hplain
  rw [value_resume] at hsettled ⊢
  exact ⟨hsettled, hwaiting, fun _ => rfl, hsequence, hescalated⟩

theorem Unrequested.poll {ι : Type} [PinAccess ι] {j : WaterJet} (hplain : j.Unrequested)
    (pins : ι) : (j.poll pins).value.Unrequested := by
  have hsettled := hplain.settled.poll pins
  rw [value_poll] at hsettled ⊢
  exact hplain.frame hsettled rfl rfl rfl

theorem Unrequested.drive {ι : Type} [PinAccess ι] {j : WaterJet} (hplain : j.Unrequested)
    (pins : ι) : (j.drive pins).value.1.Unrequested :=
  hplain.frame (hplain.settled.drive pins) rfl rfl rfl

/-- Commands queue nothing for the machine, as the states that they lead to have
    no commands. -/
theorem Settled.outbox_command {j : WaterJet} (hsettled : j.Settled) (code : Nat) :
    (j.command code).value.1.context.outbox = j.context.outbox := by
  refine hsettled.keeps_command (P := fun after => after.context.outbox = j.context.outbox) rfl
    (fun _ hkept => hkept) id id ?_ code
  intro j' _ hkept target htarget
  have hsilent (suspension : Option Suspension) : target.entryCommands suspension = [] := by
    revert htarget
    cases target <;> simp [entryCommands]
  rw [outbox_goto, hsilent, List.take_nil, List.append_nil, ite_self]
  exact hkept

theorem mem_pausedStates_iff (state : ProcessState) :
    state ∈ pausedStates ↔ state.suspends = true := by
  cases state <;> decide

/-- A state that a fault is raised in is a watched one, unless the operator's
    pause is on. -/
theorem watched_of_raises {state : ProcessState} {verdict : Verdict} {fault : LevelFault}
    (hraises : state.raises verdict = some fault) (hwaiting : state ∉ pausedStates) :
    state ∈ faultStates ∨ state ∈ cuttingStates := by
  cases state <;> simp_all [raises, pausedStates, faultStates, cuttingStates]

/-- A second without a fault to leave on comes to a cutting state from one of
    these, or by a resume, which takes a pause that was lifted. -/
theorem cutting_of_onward {state : ProcessState} {paused : Bool} {phase : LevelPhase}
    (hcutting : state.onward paused phase ∈ cuttingStates) :
    state ∈ cuttingStates ∨ paused = false := by
  revert hcutting
  cases state <;> cases paused <;> cases phase <;> decide

theorem fault_of_onward {state : ProcessState} {paused : Bool} {phase : LevelPhase}
    (hfault : state.onward paused phase ∈ faultStates) : state.onward paused phase = state := by
  revert hfault
  cases state <;> cases paused <;> cases phase <;> decide

theorem not_cutting_ofFault (fault : LevelFault) : ofFault fault ∉ cuttingStates := by
  cases fault <;> decide

/-- A second that does not resume a job sends nothing by the process: states
    with a pause sequence are not entered by seconds. -/
theorem entry_of_successor {state : ProcessState} {ctx : JobContext}
    (hmoves : state.successor ctx ≠ state) (hresuming : state.successor ctx ≠ resuming)
    (suspension : Option Suspension) :
    (state.successor ctx).entryCommands suspension = [] := by
  have hsuspends := suspends_successor hmoves
  revert hsuspends hresuming
  cases state.successor ctx <;> simp [suspends, entryCommands]

/-- Moving on notes no pause sequence, as that takes a state of pause, and a
    second never chooses one. -/
theorem Unrequested.no_sequence_advanced {j : WaterJet} (hplain : j.Unrequested) :
    j.advanced.context.suspension ≠ some .pauseSequence := by
  have hsequence := hplain.no_sequence
  rw [suspension_advanced]
  split
  · exact hsequence
  · rename_i hmoves
    have hsuspends := suspends_successor hmoves
    revert hsuspends
    cases j.state.successor j.seen <;> simp [suspends, entrySuspension, hsequence]

/-- Entering the state of a fault keeps what is known of the suspension. -/
theorem suspension_advanced_of_raises {j : WaterJet} {fault : LevelFault}
    (hraises : j.state.raises j.found = some fault) :
    j.advanced.context.suspension = j.context.suspension := by
  rw [suspension_advanced, successor_of_raises hraises]
  split
  · rfl
  · cases fault <;> rfl

/-- A fault that a second finds is noted as the one that suspends the machine.
    The note was empty or an escalation before, so nothing outweighs it. -/
theorem Unrequested.suspension_of_raises {j : WaterJet} (hplain : j.Unrequested)
    (hactive : j.active = true) {fault : LevelFault}
    (hraises : j.state.raises j.found = some fault) {π : Type} [Panel π] (panel : π) :
    (j.tick panel).value.1.context.suspension = some .escalation := by
  rw [hplain.settled.suspension_tick hactive, suspension_advanced_of_raises hraises, hraises]
  rcases watched_of_raises hraises hplain.not_waiting with hwaits | hcutting
  · rw [hplain.escalated hwaits]
    split <;> rfl
  · simp only [Option.isSome_some, hplain.cutting_unpaused hcutting, Bool.not_false, Bool.and_self,
      if_true]
    have hsequence := hplain.no_sequence
    cases hbefore : j.context.suspension with
    | none => rfl
    | some suspension =>
      cases suspension with
      | escalation => rfl
      | pauseSequence => exact absurd hbefore hsequence

/-- A second of a cutter that is run by commands keeps it so. Faults are then
    all that suspends the machine. -/
theorem Unrequested.tick {j : WaterJet} (hplain : j.Unrequested) {π : Type} [Panel π] (panel : π) :
    (j.tick panel).value.1.Unrequested := by
  cases hactive : j.active with
  | false => rwa [tick_of_inactive hactive]
  | true =>
    have hsettled := hplain.settled
    have hstate := hsettled.state_tick hactive panel
    have hpaused := hsettled.isPaused_tick hactive panel
    have hsuspension := hsettled.suspension_tick hactive panel
    refine ⟨hsettled.tick panel, ?_, ?_, ?_, ?_⟩
    · rw [hstate, mem_pausedStates_iff]
      by_cases hmoves : j.state.successor j.seen = j.state
      · rw [hmoves, ← mem_pausedStates_iff]
        exact hplain.not_waiting
      · simp [suspends_successor hmoves]
    · rw [hstate, hpaused]
      intro hcutting
      cases hraises : j.state.raises j.found with
      | some fault =>
        rw [successor_of_raises hraises] at hcutting
        exact absurd hcutting (not_cutting_ofFault fault)
      | none =>
        rw [successor_of_quiet hraises] at hcutting
        exact (cutting_of_onward hcutting).elim hplain.cutting_unpaused id
    · have hsequence := hplain.no_sequence_advanced
      rw [hsuspension]
      split
      · cases hbefore : j.advanced.context.suspension with
        | none => nofun
        | some suspension =>
          rw [hbefore] at hsequence
          exact hsequence
      · exact hsequence
    · rw [hstate]
      intro hfault
      cases hraises : j.state.raises j.found with
      | some fault => exact hplain.suspension_of_raises hactive hraises panel
      | none =>
        rw [successor_of_quiet hraises] at hfault
        have hstays := fault_of_onward hfault
        simp only [hsuspension, hraises, Option.isSome_none, Bool.false_and, Bool.false_eq_true,
          if_false]
        rw [suspension_advanced, successor_of_quiet hraises, if_pos hstays]
        rw [hstays] at hfault
        exact hplain.escalated hfault

theorem Settled.unpaused_of_leavesPause {j : WaterJet} (hsettled : j.Settled)
    (hleaves : j.LeavesPause) {π : Type} [Panel π] (panel : π) :
    (j.tick panel).value.1.isPaused = false := by
  rw [hsettled.isPaused_tick hleaves.1, hleaves.raises_eq_none, hleaves.2.1]
  rfl

/-- After a second the resume command waits exactly if the cutter left the state
    of a fault, and nothing else does. Nothing waited before, so there is room
    for it. -/
theorem Unrequested.outbox_tick {j : WaterJet} (hplain : j.Unrequested)
    (hempty : j.context.outbox = [])
    {π : Type} [Panel π] (panel : π) :
    (j.LeavesPause → (j.tick panel).value.1.context.outbox = [resumeCommand]) ∧
      (¬j.LeavesPause → (j.tick panel).value.1.context.outbox = []) := by
  cases hactive : j.active with
  | false =>
    refine ⟨fun hleaves => ?_, fun _ => ?_⟩
    · exact absurd hleaves.1 (by simp [hactive])
    · rw [tick_of_inactive hactive]
      exact hempty
  | true =>
    obtain ⟨_, _, houtbox, _⟩ := hplain.settled.kept_tick hactive panel
    have hroom : j.context.room = JobContext.outboxCapacity := by
      simp [JobContext.room, hempty]
    rw [houtbox, outbox_advanced, hempty, hroom, List.nil_append, leavesPause_iff hactive]
    constructor
    · intro hresuming
      have hwaits : j.state ∈ faultStates := by
        have hleaves := (leavesPause_iff hactive).2 hresuming
        exact hleaves.2.2.elim (fun hpaused => absurd hpaused.1 hplain.not_waiting) And.left
      have hmoves : resuming ≠ j.state := by
        rintro hstays
        rw [← hstays] at hwaits
        revert hwaits
        decide
      rw [hresuming, if_neg hmoves, hplain.escalated hwaits]
      rfl
    · intro hnot
      split
      · rfl
      · rename_i hmoves
        rw [entry_of_successor hmoves hnot]
        rfl

end WaterJet

end Interlock
