import Interlock.Proofs.Alarm.Told
import Interlock.Proofs.Jet.Invariant

namespace Interlock

namespace WaterJet

section

variable {π : Type} [Panel π]

/-- The finding that a second reports. -/
def told (j : WaterJet) : Option (Option LevelFault) :=
  let fault := j.state.raises j.found
  if j.active && (fault.isSome || (j.state.successor j.seen).escalates) then some fault else none

/-- The panel changes by the calls of the report. -/
theorem panel_escalate (j : WaterJet) (panel : π) :
    (j.escalate panel).value.2 = Panel.takeAll panel (j.escalate panel).trace.panel := by
  unfold escalate
  dsimp only
  split
  · have hpanel := (j.alarm.report_indicator j.context.raisedFault panel).2.2
    simpa using hpanel
  · rfl

/-- Nothing but the report of a second reaches the panel. The evaluation and the
    move before it call no function of it. -/
theorem panel_tick {j : WaterJet} (hactive : j.active = true) (panel : π) :
    let reported := j.advanced.absorbSuspend.value.escalate panel
    (j.tick panel).trace.panel = reported.trace.panel ∧
      (j.tick panel).value.2 = reported.value.2 := by
  intro reported
  have hevaluate : j.evaluate.trace.panel = [] := by
    unfold evaluate
    split <;> rfl
  have habsorb : j.advanced.absorbSuspend.trace.panel = [] := by
    unfold absorbSuspend
    split <;> rfl
  have htick : (j.tick panel).trace.panel =
      j.evaluate.trace.panel ++ ([] ++ ([] ++ (j.advanced.absorbSuspend.trace.panel ++
        (reported.trace.panel ++ [])))) ∧ (j.tick panel).value.2 = reported.value.2 := by
    unfold tick
    rw [if_neg (by simp [hactive])]
    exact ⟨rfl, rfl⟩
  simpa [hevaluate, habsorb] using htick

theorem takeAll_tick (j : WaterJet) (panel : π) :
    (j.tick panel).value.2 = Panel.takeAll panel (j.tick panel).trace.panel := by
  cases hactive : j.active with
  | false => simp [tick_of_inactive hactive]
  | true =>
    obtain ⟨hcalls, hpanel⟩ := panel_tick hactive panel
    rw [hcalls, hpanel, panel_escalate]

/-- A second tells the finding that it reports, or nothing. The alarm counts the
    second first, which is none of its notes. -/
theorem Settled.tells_tick {j : WaterJet} (hsettled : j.Settled) (panel : π) :
    j.alarm.Tells (j.tick panel).value.1.alarm (j.tick panel).trace j.told := by
  cases hactive : j.active with
  | false =>
    rw [tick_of_inactive hactive, told, hactive]
    exact Alarm.tells_nothing ⟨rfl, rfl, rfl⟩ rfl fun _ => rfl
  | true =>
    have hpanel := (panel_tick hactive panel).1
    rw [hsettled.absorbSuspend_advanced] at hpanel
    cases hreports :
        ((j.state.raises j.found).isSome || (j.state.successor j.seen).escalates) with
    | true =>
      obtain ⟨halarm, _, hevents⟩ := hsettled.tick_reporting hactive hreports panel
      have htells := j.advanced.alarm.tells_report (j.state.raises j.found) panel
      have hadvanced :
          (j.advanced.context.raisedFault.isSome || j.advanced.state.escalates) = true := by
        rwa [hsettled.raisedFault_advanced, state_advanced]
      rw [(escalate_reporting hadvanced panel).2, hsettled.raisedFault_advanced] at hpanel
      rw [told, hactive, hreports, halarm]
      exact (htells.seen hpanel hevents).of_tick
    | false =>
      obtain ⟨halarm, _, hevents⟩ := hsettled.tick_silent hactive hreports panel
      have hadvanced :
          (j.advanced.context.raisedFault.isSome || j.advanced.state.escalates) = false := by
        rwa [hsettled.raisedFault_advanced, state_advanced]
      rw [(escalate_silent hadvanced panel).2] at hpanel
      rw [told, hactive, hreports, halarm]
      exact Alarm.tells_nothing ⟨rfl, rfl, rfl⟩ hpanel hevents

end

theorem notes_goto (j : WaterJet) (target : ProcessState) :
    j.alarm.Notes (j.goto target).value.alarm none := by
  refine ⟨?_, last_goto j target, ?_⟩ <;> simp [value_goto, moved, alarm_preparedFor]

theorem Settled.notes_command {j : WaterJet} (hsettled : j.Settled) (code : Nat) :
    j.alarm.Notes (j.command code).value.1.alarm none := by
  refine hsettled.keeps_command (P := fun after => j.alarm.Notes after.alarm none) ⟨rfl, rfl, rfl⟩
    (fun _ hnotes => hnotes) id id (fun {after} _ hnotes target _ => ?_) code
  exact hnotes.trans (notes_goto after target)

theorem notes_poll {ι : Type} [PinAccess ι] (j : WaterJet) (pins : ι) :
    j.alarm.Notes (j.poll pins).value.alarm none := by
  rw [value_poll]
  exact ⟨rfl, rfl, rfl⟩

/-- A resume leaves the notes of the alarm: the fault is still the one told
    last. -/
theorem notes_resume (j : WaterJet) : j.alarm.Notes j.resume.value.1.alarm none := by
  rw [value_resume]
  exact ⟨rfl, rfl, rfl⟩

end WaterJet

end Interlock
