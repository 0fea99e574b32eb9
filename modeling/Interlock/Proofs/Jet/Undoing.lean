import Interlock.Proofs.Jet.Edges
import Interlock.Proofs.Jet.Unrequested

namespace Interlock

namespace WaterJet

open ProcessState

/-- What happens to a cutter that is run by commands, stays switched on, and has
    its outputs driven after every second. -/
inductive Turn : Type 1 where
  | poll {ι : Type} [PinAccess ι] (pins : ι)
  | drive {ι : Type} [PinAccess ι] (pins : ι)
  | second {π ι : Type} [Panel π] [PinAccess ι] (panel : π) (pins : ι)
  | command (code : Nat) (keeps : code ≠ disableCode)
  | resume

namespace Turn

/-- The operations of a turn, one after the other. -/
def operations : Turn → List Operation
  | @poll _ _ pins => [.poll pins]
  | @drive _ _ pins => [.drive pins]
  | @second _ _ _ _ panel pins => [.tick panel, .drive pins]
  | command code _ => [.command code]
  | resume => [.resume]

/-- Whether a turn is a second. -/
def isSecond : Turn → Bool
  | @second _ _ _ _ _ _ => true
  | _ => false

end Turn

/-- The cutter after several turns, with all that it did. -/
def play (j : WaterJet) (turns : List Turn) : Traced WaterJet :=
  j.performAll (turns.flatMap Turn.operations)

section Play

variable (j : WaterJet) (first second : List Turn) (turn : Turn)

theorem value_play_append :
    (j.play (first ++ second)).value = ((j.play first).value.play second).value := by
  rw [play, List.flatMap_append, performAll_append]
  rfl

theorem sent_play_append :
    (j.play (first ++ second)).trace.sent =
      (j.play first).trace.sent ++ ((j.play first).value.play second).trace.sent := by
  rw [play, List.flatMap_append, performAll_append]
  rfl

theorem play_singleton : j.play [turn] = j.performAll turn.operations := by
  rw [play, List.flatMap_cons, List.flatMap_nil, List.append_nil]

theorem value_play_cons :
    (j.play (turn :: second)).value = ((j.performAll turn.operations).value.play second).value := by
  rw [← play_singleton, ← value_play_append, List.singleton_append]

theorem sent_play_cons :
    (j.play (turn :: second)).trace.sent =
      (j.performAll turn.operations).trace.sent ++
        ((j.performAll turn.operations).value.play second).trace.sent := by
  rw [← play_singleton, ← sent_play_append, List.singleton_append]

theorem value_play_concat :
    (j.play (first ++ [turn])).value = ((j.play first).value.performAll turn.operations).value := by
  rw [value_play_append, play_singleton]

end Play

/-- The commands that take a cutter out of the state of a fault without a
    resume: the end of the job, and the start of one that is accepted. -/
def Abandons (j : WaterJet) : Turn → Prop
  | .command code _ =>
    code = endCode ∨ code = startCode ∧ j.active = true ∧ j.sensors.doorClosed = true
  | _ => False

/-- A cutter between two turns: no state was requested, and no command waits. -/
structure Driven (j : WaterJet) : Prop where
  unrequested : j.Unrequested
  empty : j.context.outbox = []

/-- What a turn sends, and whether the cutter waits out a fault after it. -/
inductive Outcome (before : WaterJet) (turn : Turn) (after : WaterJet) : List String → Prop where
  | suspends : turn.isSecond = true → before.fault?.isSome = true → after.state ∈ faultStates →
      Outcome before turn after [suspendCommand]
  | resumes : turn.isSecond = true → before.state ∈ faultStates → after.state ∉ faultStates →
      Outcome before turn after [resumeCommand]
  | silent : (after.state ∈ faultStates ↔ before.state ∈ faultStates ∧ ¬before.Abandons turn) →
      Outcome before turn after []

/-- A turn in which the process stays is silent, unless it abandons a fault:
    then the process would have left the state of the fault. -/
theorem Outcome.of_stays {before after : WaterJet} {turn : Turn} (hnot : ¬before.Abandons turn)
    (hprocess : after.process = before.process) : Outcome before turn after [] := by
  refine .silent ?_
  rw [state, hprocess]
  exact (and_iff_left hnot).symm

theorem not_abandons_of_isSecond {j : WaterJet} {turn : Turn} (hsecond : turn.isSecond = true) :
    ¬j.Abandons turn := by
  cases turn with
  | second panel pins => exact id
  | poll pins | drive pins | command code keeps | resume => cases hsecond

/-- A command sends nothing. It leads out of the state of a fault exactly if it
    ends the job or starts one, as switching off is excluded. -/
theorem outcome_command (j : WaterJet) {code : Nat} (keeps : code ≠ disableCode) :
    Outcome j (.command code keeps) (j.command code).value.1 [] := by
  have hleaves {target : ProcessState} (htarget : target ∉ faultStates)
      (habandons : j.Abandons (.command code keeps)) :
      Outcome j (.command code keeps) (j.goto target).value [] :=
    .silent (iff_of_false (by rwa [state_goto]) fun hwaits => hwaits.2 habandons)
  have hafter := afterCommand_command j code
  generalize (j.command code).value.1 = after at hafter ⊢
  cases hafter with
  | switchedOn hoff =>
    have hmenu := state_goto { j with active := true } menu
    refine .silent (iff_of_false (fun hfault => ?_) fun hwaits => ?_)
    · exact absurd (hmenu ▸ hfault) (by decide)
    · rw [hoff] at hwaits
      exact absurd hwaits.1 (by decide)
  | keptOn => exact .of_stays (by simp [Abandons, enableCode, endCode, startCode]) rfl
  | switchedOff => exact absurd rfl keeps
  | started haccepts => exact hleaves (by decide) (.inr ⟨rfl, haccepts⟩)
  | ended => exact hleaves (by decide) (.inl rfl)
  | unchanged hother hrefused =>
    refine .of_stays (fun habandons => habandons.elim (fun hend => hother ?_) hrefused) rfl
    simp [hend]

theorem sent_second_operations (j : WaterJet) {π ι : Type} [Panel π] [PinAccess ι] (panel : π)
    (pins : ι) :
    (j.performAll (Turn.second panel pins).operations).trace.sent =
      (j.tick panel).trace.sent ++ (j.tick panel).value.1.context.outbox := by
  simp [Turn.operations, performAll, sent_drive]

/-- Without a fault, a second leaves the state of one for `resuming`, or stays
    during a pause. -/
theorem onward_of_fault {state : ProcessState} (hfault : state ∈ faultStates) (paused : Bool)
    (phase : LevelPhase) : state.onward paused phase = if paused then state else resuming := by
  revert hfault
  cases state <;> simp [faultStates, onward]

/-- A second suspends the machine by a fault that it finds, resumes it by
    leaving the state of a fault, or sends nothing and leaves the waiting as it
    is. It cannot do both, since a cutter that resumes finds no fault. -/
theorem Driven.outcome_second {j : WaterJet} (hdriven : j.Driven) {π ι : Type} [Panel π]
    [PinAccess ι] (panel : π) (pins : ι) :
    let done := j.performAll (Turn.second panel pins).operations
    Outcome j (.second panel pins) done.value done.trace.sent := by
  intro done
  obtain ⟨hplain, hempty⟩ := hdriven
  obtain ⟨hleft, hstayed⟩ := hplain.outbox_tick hempty panel
  rw [sent_second_operations, hplain.settled.sent_second]
  cases hactive : j.active with
  | false =>
    have hfault : j.fault? = none := by simp [fault?, hactive]
    have hnot : ¬j.LeavesPause := fun ⟨hon, _⟩ => by simp [hactive] at hon
    have hprocess : done.value.process = (j.tick panel).value.1.process := rfl
    rw [hfault, hstayed hnot]
    rw [tick_of_inactive hactive] at hprocess
    exact .of_stays id hprocess
  | true =>
    have hfault : j.fault? = j.state.raises j.found := by simp [fault?, hactive]
    have hstate : done.value.state = j.state.successor j.seen :=
      hplain.settled.state_tick hactive panel
    cases hraises : j.state.raises j.found with
    | some fault =>
      have hwaits : done.value.state ∈ faultStates := by
        rw [hstate, successor_of_raises hraises]
        exact mem_faultStates_ofFault fault
      have hnot : ¬j.LeavesPause := fun hleaves => by simp [hleaves.raises_eq_none] at hraises
      rw [hfault, hraises, hstayed hnot]
      cases hpaused : j.isPaused with
      | false => exact .suspends rfl (by simp [hfault, hraises]) hwaits
      | true =>
        refine .silent (iff_of_true hwaits ⟨?_, id⟩)
        refine (watched_of_raises hraises hplain.not_waiting).resolve_right fun hcutting => ?_
        simp [hplain.cutting_unpaused hcutting] at hpaused
    | none =>
      by_cases hleaves : j.LeavesPause
      · have hwaits : j.state ∈ faultStates :=
          hleaves.2.2.elim (fun hpause => absurd hpause.1 hplain.not_waiting) And.left
        rw [hfault, hraises, hleft hleaves]
        refine .resumes rfl hwaits ?_
        rw [hstate, (leavesPause_iff hactive).1 hleaves]
        decide
      · rw [hfault, hraises, hstayed hleaves]
        rw [leavesPause_iff hactive, successor_of_quiet hraises] at hleaves
        rw [successor_of_quiet hraises] at hstate
        refine .silent ⟨fun hwaits => ⟨?_, id⟩, fun ⟨hwaits, _⟩ => ?_⟩
        · rw [hstate] at hwaits
          rwa [fault_of_onward hwaits] at hwaits
        · rw [onward_of_fault hwaits, paused_seen] at hstate hleaves
          split at hleaves
          · rename_i hpaused
            rwa [hstate, if_pos hpaused]
          · exact absurd rfl hleaves

/-- The step: a turn leaves no command waiting, and sends at most one. Commands
    that a second queues are sent by the outputs of that second. -/
theorem Driven.turn {j : WaterJet} (hdriven : j.Driven) (turn : Turn) :
    let done := j.performAll turn.operations
    done.value.Driven ∧ Outcome j turn done.value done.trace.sent := by
  obtain ⟨hplain, hempty⟩ := id hdriven
  intro done
  cases turn with
  | poll pins =>
    have hsent : done.trace.sent = [] := by
      simp [done, Turn.operations, performAll, WaterJet.sent_poll]
    have hpolled : (j.poll pins).value.context = j.context ∧
        (j.poll pins).value.process = j.process := by
      rw [value_poll]
      exact ⟨rfl, rfl⟩
    rw [hsent]
    exact ⟨⟨hplain.poll pins, (congrArg JobContext.outbox hpolled.1).trans hempty⟩,
      .of_stays id hpolled.2⟩
  | drive pins =>
    have hsent : done.trace.sent = [] := by
      simp [done, Turn.operations, performAll, sent_drive, hempty]
    rw [hsent]
    exact ⟨⟨hplain.drive pins, rfl⟩, .of_stays id rfl⟩
  | second panel pins =>
    exact ⟨⟨(hplain.tick panel).drive pins, rfl⟩, hdriven.outcome_second panel pins⟩
  | command code keeps =>
    have hsent : done.trace.sent = [] := by
      simp [done, Turn.operations, performAll, sent_command]
    rw [hsent]
    exact ⟨⟨hplain.command code, (hplain.settled.outbox_command code).trans hempty⟩,
      outcome_command j keeps⟩
  | resume =>
    have hsent : done.trace.sent = [] := by
      simp [done, Turn.operations, performAll, sent_resume]
    have hresumed : j.resume.value.1.context.outbox = j.context.outbox ∧
        j.resume.value.1.process = j.process := by
      rw [value_resume]
      exact ⟨rfl, rfl⟩
    rw [hsent]
    exact ⟨⟨hplain.resume, hresumed.1.trans hempty⟩, .of_stays id hresumed.2⟩

theorem Driven.play {j : WaterJet} (hdriven : j.Driven) (turns : List Turn) :
    (j.play turns).value.Driven := by
  induction turns generalizing j with
  | nil => exact hdriven
  | cons turn turns ih =>
    rw [value_play_cons]
    exact ih (hdriven.turn turn).1

/-- Of the complete sequences nothing is sent: they belong to states that have
    to be requested, or undo a pause in one. -/
theorem Driven.sent_play {j : WaterJet} (hdriven : j.Driven) (turns : List Turn) :
    ∀ command ∈ (j.play turns).trace.sent, command = suspendCommand ∨ command = resumeCommand := by
  induction turns generalizing j with
  | nil => exact fun _ hmem => absurd hmem List.not_mem_nil
  | cons turn turns ih =>
    obtain ⟨hafter, houtcome⟩ := hdriven.turn turn
    rw [sent_play_cons]
    intro command hmem
    rcases List.mem_append.1 hmem with hnow | hlater
    · generalize (j.performAll turn.operations).trace.sent = sent at houtcome hnow
      cases houtcome with
      | suspends => exact .inl (List.mem_singleton.1 hnow)
      | resumes => exact .inr (List.mem_singleton.1 hnow)
      | silent => exact absurd hnow List.not_mem_nil
    · exact ih hafter command hlater

/-- A cutter that waits out no fault has nothing to undo until the alarm
    suspends the machine: the resume command belongs to the second that leaves
    the state of a fault. -/
theorem Driven.stays_lost {j : WaterJet} (hdriven : j.Driven) (hlost : j.state ∉ faultStates)
    {turns : List Turn} (hquiet : suspendCommand ∉ (j.play turns).trace.sent) :
    resumeCommand ∉ (j.play turns).trace.sent := by
  induction turns generalizing j with
  | nil => exact List.not_mem_nil
  | cons turn turns ih =>
    obtain ⟨hafter, houtcome⟩ := hdriven.turn turn
    rw [sent_play_cons, List.mem_append, not_or] at hquiet ⊢
    generalize (j.performAll turn.operations).trace.sent = sent at houtcome hquiet
    cases houtcome with
    | suspends => exact absurd (List.mem_singleton.2 rfl) hquiet.1
    | resumes _ hwaits => exact absurd hwaits hlost
    | silent hiff =>
      have hstillLost := fun hwaits => hlost (hiff.1 hwaits).1
      exact ⟨List.not_mem_nil, ih hafter hstillLost hquiet.2⟩

/-- After every turn that leaves a fault without a resume, the alarm suspends
    the machine anew. -/
def Redeemed (j : WaterJet) (turns : List Turn) : Prop :=
  ∀ before turn after, turns = before ++ turn :: after → (j.play before).value.Abandons turn →
    suspendCommand ∈ ((j.play (before ++ [turn])).value.play after).trace.sent

/-- Turns are redeemed exactly if the first is by those behind it, and these
    are. -/
theorem redeemed_cons (j : WaterJet) (turn : Turn) (turns : List Turn) :
    j.Redeemed (turn :: turns) ↔
      (j.Abandons turn →
          suspendCommand ∈ ((j.performAll turn.operations).value.play turns).trace.sent) ∧
        (j.performAll turn.operations).value.Redeemed turns := by
  constructor
  · intro hredeemed
    refine ⟨fun habandons => ?_, fun before next rest hsplit habandons => ?_⟩
    · have hnow := hredeemed [] turn turns rfl habandons
      rwa [List.nil_append, play_singleton] at hnow
    · have hlater := hredeemed (turn :: before) next rest (by rw [hsplit]; rfl)
      rw [List.cons_append, value_play_cons, value_play_cons] at hlater
      exact hlater habandons
  · rintro ⟨hnow, hlater⟩ before next rest hsplit habandons
    rcases List.cons_eq_append_iff.1 hsplit with ⟨rfl, hhead⟩ | ⟨before, rfl, hrest⟩
    · obtain ⟨rfl, rfl⟩ := List.cons.inj hhead
      rw [List.nil_append, play_singleton]
      exact hnow habandons
    · rw [value_play_cons] at habandons
      rw [List.cons_append, value_play_cons]
      exact hlater before next rest hrest habandons

/-- As long as nothing was resumed, a cutter waits out a fault exactly if the
    alarm suspended the machine, and did so again after every turn that leaves
    the fault. A second would leave it only by resuming. -/
theorem Driven.waits_iff {j : WaterJet} (hdriven : j.Driven) {turns : List Turn}
    (hunresumed : resumeCommand ∉ (j.play turns).trace.sent) :
    (j.play turns).value.state ∈ faultStates ↔
      (j.state ∈ faultStates ∨ suspendCommand ∈ (j.play turns).trace.sent) ∧ j.Redeemed turns := by
  induction turns generalizing j with
  | nil =>
    have hnone : j.Redeemed [] := fun before turn after hsplit => by simp at hsplit
    have hsent : (j.play []).trace.sent = [] := rfl
    simp only [hsent, List.not_mem_nil, or_false, and_iff_left hnone]
    rfl
  | cons turn turns ih =>
    obtain ⟨hafter, houtcome⟩ := hdriven.turn turn
    rw [sent_play_cons, List.mem_append, not_or] at hunresumed
    rw [redeemed_cons, value_play_cons, sent_play_cons, List.mem_append]
    rw [ih hafter hunresumed.2]
    generalize (j.performAll turn.operations).trace.sent = sent at houtcome hunresumed
    cases houtcome with
    | suspends hsecond _ hwaits => simp [not_abandons_of_isSecond hsecond, hwaits]
    | resumes => exact absurd (List.mem_singleton.2 rfl) hunresumed.1
    | silent hiff =>
      rw [hiff]
      simp only [List.not_mem_nil, false_or]
      grind

/-- Only a second that finds a fault suspends the machine, so a turn without
    either does not. -/
theorem Driven.no_suspension {j : WaterJet} (hdriven : j.Driven) {turn : Turn}
    (hclean : turn.isSecond = true → j.found.faults.mask = 0) :
    suspendCommand ∉ (j.performAll turn.operations).trace.sent := by
  obtain ⟨_, houtcome⟩ := hdriven.turn turn
  generalize (j.performAll turn.operations).trace.sent = sent at houtcome
  cases houtcome with
  | suspends hsecond hfault =>
    rw [fault?, raises_of_clean (hclean hsecond), ite_self] at hfault
    cases hfault
  | resumes => decide
  | silent => exact List.not_mem_nil

/-- Turns without a second suspend nothing, as only a second reports a fault. -/
theorem Driven.no_suspension_play {j : WaterJet} (hdriven : j.Driven) {turns : List Turn}
    (hnone : ∀ turn ∈ turns, turn.isSecond = false) :
    suspendCommand ∉ (j.play turns).trace.sent := by
  induction turns generalizing j with
  | nil => exact List.not_mem_nil
  | cons turn turns ih =>
    obtain ⟨hturn, hturns⟩ := List.forall_mem_cons.1 hnone
    rw [sent_play_cons]
    refine List.not_mem_append ?_ (ih (hdriven.turn turn).1 hturns)
    exact hdriven.no_suspension fun hsecond => by simp [hturn] at hsecond

/-- After a resume there is no pause. -/
theorem isPaused_resume_turn (j : WaterJet) :
    (j.performAll Turn.resume.operations).value.isPaused = false := by
  have hlifted : j.resume.value.1.isPaused = false := by
    rw [value_resume]
    rfl
  exact hlifted

/-- A pause that was lifted stays lifted until the next second: commands could
    only begin one by a request. -/
theorem Driven.unpaused_play {j : WaterJet} (hdriven : j.Driven) (hunpaused : j.isPaused = false)
    {turns : List Turn} (hnone : ∀ turn ∈ turns, turn.isSecond = false) :
    (j.play turns).value.isPaused = false := by
  induction turns generalizing j with
  | nil => exact hunpaused
  | cons turn turns ih =>
    obtain ⟨hturn, hturns⟩ := List.forall_mem_cons.1 hnone
    rw [value_play_cons]
    refine ih (hdriven.turn turn).1 ?_ hturns
    cases turn with
    | poll pins => exact (isPaused_poll j pins).trans hunpaused
    | drive pins => exact hunpaused
    | second panel pins => cases hturn
    | command code keeps =>
      refine (hdriven.unrequested.settled.isPaused_command code).trans ?_
      rw [hunpaused, ite_self]
    | resume => exact isPaused_resume_turn j

/-- A turn leaves an active cutter active, as none switches it off. That is what
    the condition on the commands of a turn is for. -/
theorem active_turn {j : WaterJet} (hsettled : j.Settled) (hactive : j.active = true)
    (turn : Turn) : (j.performAll turn.operations).value.active = true := by
  cases turn with
  | poll pins =>
    have hkept : (j.poll pins).value.active = j.active := by rw [value_poll]
    exact hkept.trans hactive
  | drive pins => exact hactive
  | second panel pins => exact (hsettled.context_tick hactive panel).2.2.2.2.2.trans hactive
  | command code keeps =>
    have hkept : (j.command code).value.1.active = true := by
      have hafter := afterCommand_command j code
      generalize (j.command code).value.1 = after at hafter ⊢
      cases hafter with
      | switchedOn => simp
      | keptOn => rfl
      | switchedOff => exact absurd rfl keeps
      | started | ended => rwa [active_goto]
      | unchanged => exact hactive
    exact hkept
  | resume =>
    have hkept : j.resume.value.1.active = j.active := by rw [value_resume]
    exact hkept.trans hactive

theorem Driven.active_play {j : WaterJet} (hdriven : j.Driven) (hactive : j.active = true)
    (turns : List Turn) : (j.play turns).value.active = true := by
  induction turns generalizing j with
  | nil => exact hactive
  | cons turn turns ih =>
    rw [value_play_cons]
    exact ih (hdriven.turn turn).1 (active_turn hdriven.unrequested.settled hactive turn)

/-- A second without a fault resumes the machine of a cutter that waits and
    whose pause is lifted. The note of the suspension is an escalation there, as
    no state was requested. -/
theorem Driven.resumes_of_clean {j : WaterJet} (hdriven : j.Driven) (hactive : j.active = true)
    (hunpaused : j.isPaused = false) (hwaits : j.state ∈ faultStates) {turn : Turn}
    (hsecond : turn.isSecond = true) (hclean : j.found.faults.mask = 0) :
    resumeCommand ∈ (j.performAll turn.operations).trace.sent := by
  cases turn with
  | second panel pins =>
    have hleaves : j.LeavesPause := ⟨hactive, hunpaused, .inr ⟨hwaits, hclean⟩⟩
    rw [sent_second_operations, (hdriven.unrequested.outbox_tick hdriven.empty panel).1 hleaves]
    exact List.mem_append_right _ (List.mem_singleton.2 rfl)
  | poll pins | drive pins | command code keeps | resume => cases hsecond

/-- A turn that leaves a fault without a resume, and that no suspension follows,
    leaves nothing to undo. If the machine was resumed all the same, that was
    before the turn. -/
theorem Driven.lost_of_abandons {j : WaterJet} (hdriven : j.Driven) {before after : List Turn}
    {turn : Turn} (habandons : (j.play before).value.Abandons turn)
    (hquiet : suspendCommand ∉ ((j.play (before ++ [turn])).value.play after).trace.sent)
    (hresumed : resumeCommand ∈ (j.play (before ++ turn :: after)).trace.sent) :
    resumeCommand ∈ (j.play before).trace.sent := by
  have hbefore := hdriven.play before
  obtain ⟨hafter, houtcome⟩ := hbefore.turn turn
  rw [value_play_concat] at hquiet
  rw [sent_play_append, sent_play_cons, List.mem_append, List.mem_append] at hresumed
  generalize ((j.play before).value.performAll turn.operations).trace.sent = sent
    at houtcome hresumed
  cases houtcome with
  | suspends hsecond => exact absurd habandons (not_abandons_of_isSecond hsecond)
  | resumes hsecond => exact absurd habandons (not_abandons_of_isSecond hsecond)
  | silent hiff =>
    have hlost := hafter.stays_lost (fun hwaits => (hiff.1 hwaits).2 habandons) hquiet
    simpa [hlost] using hresumed

/-- A turn in which the alarm suspends the machine leaves the cutter waiting out
    a fault, and paused. -/
theorem Driven.waits_of_suspends {j : WaterJet} (hdriven : j.Driven) {turn : Turn}
    (hsuspends : suspendCommand ∈ (j.performAll turn.operations).trace.sent) :
    let after := (j.performAll turn.operations).value
    after.active = true ∧ after.state ∈ faultStates := by
  obtain ⟨_, houtcome⟩ := hdriven.turn turn
  generalize (j.performAll turn.operations).trace.sent = sent at houtcome hsuspends
  cases houtcome with
  | suspends _ hfault hwaits =>
    have hactive : j.active = true := by
      unfold fault? at hfault
      split at hfault
      · assumption
      · cases hfault
    exact ⟨active_turn hdriven.unrequested.settled hactive turn, hwaits⟩
  | resumes => exact absurd hsuspends (by decide)
  | silent => exact absurd hsuspends List.not_mem_nil

/-- The seconds after a resume: a cutter that still waits out its fault resumes
    the machine, and one that does not has nothing to undo. The first of the two
    seconds is enough to leave the fault; the second one finds no fault that
    could suspend the machine anew. -/
theorem Driven.resumes_iff {j : WaterJet} (hdriven : j.Driven) (hactive : j.active = true)
    (hunpaused : j.isPaused = false) {first : Turn} {between : List Turn}
    (hfirst : first.isSecond = true ∧ j.found.faults.mask = 0)
    (hbetween : ∀ turn ∈ between, turn.isSecond = false)
    (hclean : (j.play (first :: between)).value.found.faults.mask = 0) (second : Turn) :
    resumeCommand ∈ (j.play (first :: between ++ [second])).trace.sent ↔ j.state ∈ faultStates := by
  constructor
  · intro hresumed
    by_cases hwaits : j.state ∈ faultStates
    · exact hwaits
    · refine absurd hresumed (hdriven.stays_lost hwaits ?_)
      rw [sent_play_append, play_singleton]
      refine List.not_mem_append ?_ ((hdriven.play _).no_suspension fun _ => hclean)
      rw [sent_play_cons]
      exact List.not_mem_append (hdriven.no_suspension fun _ => hfirst.2)
        ((hdriven.turn first).1.no_suspension_play hbetween)
  · intro hwaits
    have hresumes := hdriven.resumes_of_clean hactive hunpaused hwaits hfirst.1 hfirst.2
    rw [List.cons_append, sent_play_cons]
    exact List.mem_append_left _ hresumes

/-- A machine that the alarm suspended, in a run without requests in which the
    module stays switched on and the outputs are driven after every second.
    After a later resume and two seconds without a fault the machine was resumed
    exactly if each end of a job and each start of one, between the suspension
    and the first of these seconds, came after a resume of the machine or before
    a new suspension. Such a command leads out of the state of the fault, and
    nothing remembers then that the machine is suspended. -/
theorem suspension_undone_iff {ι : Type} [PinAccess ι] {s : JetSettings} {delay : Nat} {pins : ι}
    {new j suspended : WaterJet} (hbuild : (build s delay pins).value = .ok new)
    {past awaiting held middle between : List Turn} {escalation first second : Turn}
    (hpast : j = (new.play past).value) (hsuspended : suspended = (j.play [escalation]).value)
    (hescalates : suspendCommand ∈ (j.play [escalation]).trace.sent)
    (hmiddle : middle = awaiting ++ .resume :: held)
    (hheld : ∀ turn ∈ held, turn.isSecond = false)
    (hbetween : ∀ turn ∈ between, turn.isSecond = false)
    (hfirst : first.isSecond = true ∧ (suspended.play middle).value.found.faults.mask = 0)
    (hsecond : second.isSecond = true ∧
      (suspended.play (middle ++ first :: between)).value.found.faults.mask = 0) :
    let sent := (suspended.play (middle ++ (first :: between ++ [second]))).trace.sent
    (resumeCommand ∈ sent ∨ resumeSequence <:+: sent) ↔
      ∀ before turn after, middle = before ++ turn :: after →
        (suspended.play before).value.Abandons turn →
        resumeCommand ∈ (suspended.play before).trace.sent ∨
          suspendCommand ∈ ((suspended.play (before ++ [turn])).value.play after).trace.sent := by
  intro sent
  obtain ⟨rfl, _⟩ := build_ok hbuild
  have hnew : (ofSettings s delay).Driven := ⟨unrequested_ofSettings s delay, rfl⟩
  have hpastDriven : j.Driven := hpast ▸ hnew.play past
  rw [play_singleton] at hsuspended hescalates
  obtain ⟨hactive, hwaits⟩ := hpastDriven.waits_of_suspends hescalates
  have hdriven : suspended.Driven := hsuspended ▸ (hpastDriven.turn escalation).1
  rw [← hsuspended] at hactive hwaits
  have hunpaused : (suspended.play middle).value.isPaused = false := by
    rw [hmiddle, value_play_append, value_play_cons]
    refine ((hdriven.play awaiting).turn .resume).1.unpaused_play ?_ hheld
    exact isPaused_resume_turn _
  rw [value_play_append] at hsecond
  have hresumes := (hdriven.play middle).resumes_iff (hdriven.active_play hactive middle) hunpaused
    hfirst hbetween hsecond.2 second
  have hsent : sent = (suspended.play middle).trace.sent ++
      ((suspended.play middle).value.play (first :: between ++ [second])).trace.sent :=
    suspended.sent_play_append _ _
  have hsequence : ¬resumeSequence <:+: sent := fun hinfix => by
    have hmem := hinfix.subset (by decide : "M42" ∈ resumeSequence)
    exact absurd (hdriven.sent_play _ "M42" hmem) (by decide)
  rw [or_iff_left hsequence, hsent, List.mem_append, hresumes]
  by_cases hresumed : resumeCommand ∈ (suspended.play middle).trace.sent
  · refine iff_of_true (.inl hresumed) fun before turn after hsplit habandons => ?_
    by_cases hnew :
        suspendCommand ∈ ((suspended.play (before ++ [turn])).value.play after).trace.sent
    · exact .inr hnew
    · rw [hsplit] at hresumed
      exact .inl (hdriven.lost_of_abandons habandons hnew hresumed)
  · rw [or_iff_right hresumed, hdriven.waits_iff hresumed, and_iff_right (.inl hwaits)]
    refine ⟨fun hredeemed before turn after hsplit habandons => ?_,
      fun hcondition before turn after hsplit habandons => ?_⟩
    · exact .inr (hredeemed before turn after hsplit habandons)
    · have hredeemed := hcondition before turn after hsplit habandons
      refine hredeemed.resolve_left fun hearlier => hresumed ?_
      rw [hsplit, sent_play_append]
      exact List.mem_append_left _ hearlier

/-- A cutter with the default pins in the second after the start of a job, over
    an overfull tank. -/
def overfullJob : WaterJet :=
  ((ofSettings plainSettings 20).play
    [.command 1401 (by decide), .poll (plainPins ["P2.12"]), .command 1403 (by decide),
      .second ({} : StubPanel) (plainPins []), .poll (plainPins ["P2.12", "P1.29"])]).value

/-- The job of a suspended machine is ended before the operator resumes: the
    machine stays suspended. -/
theorem suspension_forgotten_at_end_of_job :
    ¬∀ (past awaiting held between : List Turn) (escalation first second : Turn)
        (j suspended : WaterJet),
      j = ((ofSettings plainSettings 20).play past).value →
      suspended = (j.play [escalation]).value →
      suspendCommand ∈ (j.play [escalation]).trace.sent →
      (suspended.play awaiting).value.resume.value.2 = true →
      (∀ turn ∈ held ++ between, turn.isSecond = false) →
      first.isSecond = true ∧
        (suspended.play (awaiting ++ .resume :: held)).value.found.faults.mask = 0 →
      second.isSecond = true ∧
        (suspended.play (awaiting ++ .resume :: held ++ first :: between)).value.found.faults.mask =
          0 →
      resumeCommand ∈ (suspended.play
          (awaiting ++ .resume :: held ++ (first :: between ++ [second]))).trace.sent ∨
        resumeSequence <:+: (suspended.play
          (awaiting ++ .resume :: held ++ (first :: between ++ [second]))).trace.sent := by
  intro hundone
  let second : Turn := .second ({} : StubPanel) (plainPins [])
  have hlost := hundone _ [.command 1404 (by decide), .poll (plainPins ["P2.12"])] [] [] second
    second second overfullJob _ rfl rfl (by decide) (by decide) (by decide) (by decide) (by decide)
  exact absurd hlost (by decide)

/-- The machine is resumed after the operator's resume, but not if the job was
    ended before it. -/
theorem suspension_undone_iff_overfull :
    let second : Turn := .second ({} : StubPanel) (plainPins [])
    let drained : Turn := .poll (plainPins ["P2.12"])
    let suspended := (overfullJob.play [second]).value
    let resumed := (suspended.play ([drained, .resume] ++ ([second] ++ [second]))).trace.sent
    let ended :=
      (suspended.play
        ([.command 1404 (by decide), drained, .resume] ++ ([second] ++ [second]))).trace.sent
    (resumeCommand ∈ resumed ∨ resumeSequence <:+: resumed) ∧
      ¬(resumeCommand ∈ ended ∨ resumeSequence <:+: ended) := by
  intro second drained suspended resumed ended
  have hbuild : (WaterJet.build plainSettings 20 (plainPins [])).value =
      .ok (ofSettings plainSettings 20) := rfl
  have hnone : ∀ turn ∈ ([] : List Turn), turn.isSecond = false := nofun
  have hescalates : suspendCommand ∈ (overfullJob.play [second]).trace.sent := by decide
  have hdrained : second.isSecond = true ∧
      (suspended.play [drained, .resume]).value.found.faults.mask = 0 := ⟨rfl, by decide⟩
  have hdrainedNext : second.isSecond = true ∧
      (suspended.play ([drained, .resume] ++ [second])).value.found.faults.mask = 0 :=
    ⟨rfl, by decide⟩
  have hended : second.isSecond = true ∧
      (suspended.play [.command 1404 (by decide), drained, .resume]).value.found.faults.mask = 0 :=
    ⟨rfl, by decide⟩
  have hendedNext : second.isSecond = true ∧
      (suspended.play
        ([.command 1404 (by decide), drained, .resume] ++ [second])).value.found.faults.mask = 0 :=
    ⟨rfl, by decide⟩
  refine ⟨?_, fun hundone => ?_⟩
  · refine (suspension_undone_iff hbuild rfl rfl hescalates (rfl : _ = [drained] ++ .resume :: [])
      hnone hnone hdrained hdrainedNext).2 fun before turn after hsplit habandons => ?_
    have hmem : turn ∈ [drained] ++ [.resume] := hsplit ▸ List.mem_append_cons_self
    rcases List.mem_append.1 hmem with hmem | hmem <;>
      obtain rfl := List.mem_singleton.1 hmem <;> exact absurd habandons id
  · have hcondition := (suspension_undone_iff hbuild rfl rfl hescalates
      (rfl : _ = [.command 1404 (by decide), drained] ++ .resume :: []) hnone hnone hended
      hendedNext).1 hundone [] _ [drained, .resume] rfl (.inl rfl)
    revert hcondition
    decide

end WaterJet

end Interlock
