import Interlock.Proofs.Jet.Inactive

namespace Interlock

/-- Numbers from 17 on name no state of their own. -/
theorem ProcessState.ofRaw_eq_invalid {raw : Nat} (hraw : 17 ≤ raw) : ofRaw raw = invalid := by
  unfold ofRaw
  split
  case h_18 => rfl
  all_goals omega

namespace WaterJet

open ProcessState

/-- The operation may lead out of `invalid`: a command by which the process
    moves, or a request for another state. -/
def Operation.LeavesInvalid : Operation → Prop
  | .command code => code ∈ [disableCode, startCode, endCode]
  | .requestState raw => raw < 17
  | _ => False

theorem state_of_request (j : WaterJet) {raw : Nat} (hraw : 17 ≤ raw) :
    (j.perform (.requestState raw)).value.state = invalid := by
  rw [perform_requestState, requestState, Traced.value_bind, state_goto]
  exact ofRaw_eq_invalid hraw

section Operations

variable {j : WaterJet}

/-- In `invalid` a cutter stays: seconds, resumes and switching on lead nowhere.
    Switching on would only leave `off`. -/
theorem Settled.state_of_invalid (hsettled : j.Settled) (hinvalid : j.state = invalid)
    {op : Operation} (hstays : ¬op.LeavesInvalid) : (j.perform op).value.state = invalid := by
  cases op with
  | poll pins =>
    rw [perform_poll, value_poll]
    exact hinvalid
  | tick panel =>
    rw [perform_tick]
    cases hactive : j.active with
    | false =>
      rw [tick_of_inactive hactive]
      exact hinvalid
    | true =>
      dsimp only
      rw [hsettled.state_tick hactive, (shutsOff (by simp)).successor_eq_iff]
      exact hinvalid
  | drive pins => exact hinvalid
  | command code =>
    rw [perform_command]
    have hafter := afterCommand_command j code
    dsimp only
    generalize (j.command code).value.1 = after at hafter ⊢
    cases hafter with
    | switchedOn hoff => exact absurd (hoff.symm.trans hinvalid) nofun
    | keptOn => exact hinvalid
    | switchedOff | started | ended => exact absurd (by simp [Operation.LeavesInvalid]) hstays
    | unchanged => exact hinvalid
  | requestState raw => exact j.state_of_request (Nat.le_of_not_lt hstays)
  | resume =>
    rw [perform_resume, value_resume]
    exact hinvalid

/-- In `invalid` nothing is sent but what waits, and that when the outputs are
    driven. No fault is reported there, which is all that a second could send. -/
theorem Settled.sent_of_invalid (hsettled : j.Settled) (hinvalid : j.state = invalid)
    (op : Operation) : (j.perform op).trace.sent = j.delivers op := by
  cases op with
  | poll pins => exact j.sent_poll pins
  | tick panel =>
    have hquiet : j.fault? = none := by
      unfold fault?
      rw [hinvalid]
      split <;> rfl
    rw [perform_tick, hsettled.sent_second, hquiet]
    rfl
  | drive pins => rw [perform_drive, delivers]
  | command code =>
    rw [perform_command]
    exact j.sent_command code
  | requestState raw =>
    rw [perform_requestState, requestState, Traced.trace_bind, Trace.sent_append, sent_goto]
    rfl
  | resume =>
    rw [perform_resume]
    exact j.sent_resume

end Operations

section Runs

variable {j : WaterJet} {ops : List Operation}

/-- A run that nothing leads out of `invalid` sends what is delivered, and
    queues nothing: without a move no state is entered. -/
theorem Settled.performAll_of_invalid (hsettled : j.Settled) (hinvalid : j.state = invalid)
    (hstays : ∀ op ∈ ops, ¬op.LeavesInvalid) :
    (j.performAll ops).value.state = invalid ∧
      (j.performAll ops).trace.sent = j.collect delivers ops ∧ j.collect admits ops = [] := by
  induction ops generalizing j with
  | nil => exact ⟨hinvalid, rfl, rfl⟩
  | cons op ops ih =>
    obtain ⟨hnow, hlater⟩ := List.forall_mem_cons.1 hstays
    have hstate := hsettled.state_of_invalid hinvalid hnow
    obtain ⟨hends, hsent, hnone⟩ := ih (hsettled.perform op) hstate hlater
    have hnothing : j.admits op = [] := by
      rw [admits, handsOver_eq, if_pos (hstate.trans hinvalid.symm), List.take_nil]
    refine ⟨hends, ?_, ?_⟩
    · rw [WaterJet.performAll, Traced.trace_bind, Trace.sent_append, hsent,
        hsettled.sent_of_invalid hinvalid, collect]
    · rw [collect, hnothing, hnone, List.append_nil]

theorem Settled.sent_append_of_invalid (hsettled : j.Settled) (hinvalid : j.state = invalid)
    (hstays : ∀ op ∈ ops, ¬op.LeavesInvalid) :
    (j.performAll ops).trace.sent ++ (j.performAll ops).value.context.outbox =
      j.context.outbox := by
  obtain ⟨-, hsent, hnone⟩ := hsettled.performAll_of_invalid hinvalid hstays
  rw [hsent, hsettled.delivers_performAll, hnone, List.append_nil]

/-- Once the outputs were driven in `invalid`, nothing waits, as nothing is
    queued behind them. -/
theorem Settled.drained_of_invalid (hsettled : j.Settled) (hinvalid : j.state = invalid)
    (hstays : ∀ op ∈ ops, ¬op.LeavesInvalid) (hdrives : ∃ op ∈ ops, op.Drives) :
    (j.performAll ops).value.context.outbox = [] := by
  obtain ⟨op, hop, hdrives⟩ := hdrives
  obtain ⟨before, after, rfl⟩ := List.append_of_mem hop
  obtain ⟨hbefore, hafter⟩ := List.forall_mem_append.1 hstays
  obtain ⟨hnow, hlater⟩ := List.forall_mem_cons.1 hafter
  have hmid := hsettled.performAll before
  have hstate := (hsettled.performAll_of_invalid hinvalid hbefore).1
  have hrest := (hmid.perform op).sent_append_of_invalid (hmid.state_of_invalid hstate hnow) hlater
  rw [(drained_of_drives hdrives _).2] at hrest
  rw [value_performAll_append]
  exact (List.append_eq_nil_iff.1 hrest).2

/-- Whatever the history, nothing is asked of the outputs in `invalid`. -/
theorem Reached.restsIn_invalid {past : Trace} (hreached : Reached j past) :
    RestsIn invalid j :=
  have hboth := hreached.invariant (P := fun j => j.Settled ∧ RestsIn invalid j)
    (fun s delay => ⟨settled_ofSettings s delay, fun _ => rfl⟩)
    fun _ op ⟨hsettled, hrests⟩ =>
      ⟨hsettled.perform op, hrests.perform (shutsOff (by simp)) hsettled op⟩
  hboth.2

/-- A number that names no state leads to `invalid`, from wherever the cutter
    is. There it stays, active or not, whatever the surroundings do without
    starting or ending a job, switching off or requesting another state: nothing
    is asked of the outputs and nothing is queued. Commands that were queued on
    the way there are sent as soon as the outputs are driven, and nothing else
    is sent. -/
theorem invalid_absorbs {past : Trace} (hreached : Reached j past) :
    (∀ raw, 17 ≤ raw → (j.perform (.requestState raw)).value.state = invalid) ∧
    (j.state = invalid → ∀ ops, (∀ op ∈ ops, ¬op.LeavesInvalid) →
      let run := j.performAll ops
      run.value.state = invalid ∧ run.value.context.outputs = {} ∧
        ((∃ op ∈ ops, op.Drives) →
          run.trace.sent = j.context.outbox ∧ run.value.context.outbox = []) ∧
        ((∀ op ∈ ops, ¬op.Drives) →
          run.trace.sent = [] ∧ run.value.context.outbox = j.context.outbox)) := by
  refine ⟨fun raw hraw => j.state_of_request hraw, fun hinvalid ops hstays => ?_⟩
  intro run
  have hsettled := hreached.settled
  have hall : run.trace.sent ++ run.value.context.outbox = j.context.outbox :=
    hsettled.sent_append_of_invalid hinvalid hstays
  obtain ⟨hstate, hsent, -⟩ := hsettled.performAll_of_invalid hinvalid hstays
  refine ⟨hstate, ?_, fun hdrives => ?_, fun hquiet => ?_⟩
  · exact (hreached.performAll ops).restsIn_invalid hstate
  · have hempty : run.value.context.outbox = [] :=
      hsettled.drained_of_invalid hinvalid hstays hdrives
    rw [hempty, List.append_nil] at hall
    exact ⟨hall, hempty⟩
  · have hnone : run.trace.sent = [] := hsent.trans (collect_delivers_eq_nil hquiet j)
    rw [hnone, List.nil_append] at hall
    exact ⟨hnone, hall⟩

end Runs

/-- A pause is requested, and then a state that does not exist. -/
def strayed : WaterJet :=
  plain [.requestState 7, .requestState 200]

/-- The cutter sends the pause sequence from `invalid`: what was queued on the
    way there is not taken back. -/
theorem invalid_sends_waiting_commands :
    ¬∀ (before after : List Operation), (plain before).state = invalid →
      (∀ op ∈ after, ¬op.LeavesInvalid) → ((plain before).performAll after).trace.sent = [] := by
  intro hsilent
  have hnothing := hsilent [.requestState 7, .requestState 200] [.drive (plainPins [])] rfl
    (by simp [Operation.LeavesInvalid])
  exact absurd hnothing (by decide)

/-- The cutter is switched on in `invalid`, and the outputs are driven twice:
    the sequence is sent once, and the cutter stays where it is. -/
theorem invalid_absorbs_strayed :
    let ops : List Operation := [.command enableCode, .tick ({} : StubPanel),
      .drive (plainPins []), .resume, .tick ({} : StubPanel), .drive (plainPins [])]
    let run := strayed.performAll ops
    run.value.state = invalid ∧ run.value.context.outputs = {} ∧
      run.trace.sent = pauseSequence := by
  intro ops run
  have hreached := reached_plain [.requestState 7, .requestState 200]
  have hstays : ∀ op ∈ ops, ¬op.LeavesInvalid := by
    simp [ops, Operation.LeavesInvalid, enableCode, disableCode, startCode, endCode]
  obtain ⟨-, habsorbs⟩ := invalid_absorbs hreached
  obtain ⟨hstate, hoff, hsent, -⟩ := habsorbs rfl ops hstays
  exact ⟨hstate, hoff, (hsent ⟨.drive (plainPins []), by simp [ops], trivial⟩).1⟩

end WaterJet

end Interlock
