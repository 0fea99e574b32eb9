import Interlock.Proofs.Jet.Invariant
import Interlock.Proofs.Level.Fault

namespace Interlock

namespace WaterJet

open ProcessState

theorem found_of_tankInUse {j : WaterJet} (huse : j.state.tankInUse = true) :
    j.found = (j.guard.evaluate j.sensors.floats).2 := by
  simp [found, evaluate, huse]

theorem unnamed_found (j : WaterJet) : j.found.faults.unnamed = 0 := by
  unfold found evaluate
  split <;> rfl

/-- There is a most severe fault unless the mask is empty, as every bit that a
    second finds names a fault. -/
theorem primaryFault_found_eq_none_iff (j : WaterJet) :
    j.found.primaryFault = none ↔ j.found.faults.mask = 0 :=
  FaultSet.mostSevere_eq_none_iff_mask (unnamed_found j)

/-- A second that finds no fault raises none, in whatever state. -/
theorem raises_of_clean {j : WaterJet} (hclean : j.found.faults.mask = 0) :
    j.state.raises j.found = none := by
  have hnone : j.found.primaryFault = none := (primaryFault_found_eq_none_iff j).2 hclean
  have hhigh : j.found.faults.levelTooHigh = false :=
    (FaultSet.mostSevere_eq_none_iff _).1 hnone .levelTooHigh
  cases j.state <;> simp [raises, hnone, hhigh]

/-- A second of a watched job that finds a fault ends in the state of the most
    severe one. Whatever the panel does and whatever came before, the head is
    then off, the module is paused and useful work stands still; the suspend
    command is sent exactly when the module was not paused yet, and the fault is
    told of exactly when it differs from the one told of last. -/
theorem tick_escalates {j : WaterJet} {past : Trace} (hreached : Reached j past)
    (hactive : j.active = true) (hwatched : j.state ∈ watchedStates) {π : Type} [Panel π]
    (panel : π)
    (hfaults : (j.guard.evaluate j.sensors.floats).2.faults.mask ≠ 0) :
    let found := (j.guard.evaluate j.sensors.floats).2
    let after := (j.tick panel).value.1
    let done := (j.tick panel).trace
    after.context.verdict = found ∧
      ∃ fault, found.faults.has fault = true ∧
        (∀ other, found.faults.has other = true → other.severity ≤ fault.severity) ∧
        after.state = ofFault fault ∧
        after.context.outputs.highPressurePump = false ∧
        after.isPaused = true ∧
        after.context.frozen = true ∧
        done.sent = (if j.isPaused then [] else ["M600"]) ∧
        (Event.faultRaised owner fault ∈ done.events ↔
          Event.lastReported owner past.events ≠ some fault) ∧
        Event.reports owner done.events =
          (if Event.lastReported owner past.events = some fault then [] else [some fault]) := by
  intro found after done
  have hsettled := hreached.settled
  have hfound : j.found = found := found_of_tankInUse (tankInUse_of_watched hwatched)
  have hunnamed : found.faults.unnamed = 0 := by
    rw [← hfound]
    exact unnamed_found j
  obtain ⟨fault, hworst⟩ := FaultSet.exists_mostSevere hunnamed hfaults
  have hraises : j.state.raises j.found = some fault := by
    rw [raises_of_watched hwatched, hfound]
    exact hworst
  obtain ⟨hpaused, hfrozen, hsent, hreports⟩ := hsettled.tick_fault hactive hraises panel
  rw [hreached.last_eq] at hreports
  have hstate : after.state = ofFault fault := by
    rw [hsettled.state_tick hactive, successor_of_raises hraises]
  have hhead : after.headOn = false := by
    rw [hsettled.headOn_tick hactive, hstate, entryHead_ofFault]
    rfl
  refine ⟨(hsettled.context_tick hactive panel).2.1.trans hfound, fault,
    FaultSet.has_of_mostSevere hworst, ?_, hstate, hhead, hpaused, hfrozen, hsent, ?_, hreports⟩
  · intro other hother
    exact FaultSet.severity_le_of_mostSevere hworst hother
  · rw [← Event.mem_reports_iff, hreports]
    split_ifs with hsame <;> simp [hsame]

/-- An overfull tank in the second after the start of a job. -/
theorem tick_escalates_overfull :
    let j := plain [.command 1401, .poll (plainPins ["P2.12"]), .command 1403,
      .tick ({} : StubPanel), .poll (plainPins ["P2.12", "P1.29"])]
    let after := (j.tick ({} : StubPanel)).value.1
    j.active = true ∧ j.state ∈ watchedStates ∧ j.isPaused = false ∧ j.headOn = true ∧
      ∃ fault, after.state = ofFault fault ∧ after.headOn = false ∧
        (j.tick ({} : StubPanel)).trace.sent = ["M600"] := by
  intro j after
  obtain ⟨_, fault, _, _, hstate, hhead, _, _, hsent, _⟩ :=
    tick_escalates (reached_plain _) (j := j) rfl (by decide) ({} : StubPanel) (by decide)
  exact ⟨rfl, by decide, rfl, rfl, fault, hstate, hhead, hsent⟩

end WaterJet

end Interlock
