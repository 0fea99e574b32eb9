import Interlock.Proofs.Jet.Escalation
import Interlock.Proofs.Jet.Told

namespace Interlock

namespace Escalator

/-- The indicator is lit for a finding that differs from what it was lit for
    last. -/
theorem mem_lighting_iff (e : Escalator) (on lit : Bool) :
    .faultIndicator on ∈ e.lighting lit ↔ e.indicator ≠ some on ∧ lit = on := by
  unfold lighting
  split
  · rename_i hsame
    rw [hsame]
    simp
  · rename_i hdiffers
    simp only [List.mem_singleton, PanelCall.faultIndicator.injEq]
    refine ⟨fun hon => ⟨hon ▸ hdiffers, hon.symm⟩, fun hon => hon.2.symm⟩

end Escalator

namespace Alarm

/-- A report sets the indicator to whether there is a fault, unless the alarm
    set it so before. The panel may be any, since only the alarm's note of it is
    asked. -/
theorem mem_panel_report_iff {π : Type} [Panel π] (a : Alarm) (fault : Option LevelFault)
    (panel : π)
    (on : Bool) :
    .faultIndicator on ∈ (a.report fault panel).trace.panel ↔
      a.escalator.indicator ≠ some on ∧ fault.isSome = on := by
  rw [← Escalator.mem_lighting_iff]
  cases fault with
  | some fault =>
    obtain ⟨_, _, hcalls, _⟩ := a.escalator.raise_display fault (a.menus.menuOf fault) panel
    have htrace : (a.report (some fault) panel).trace.panel =
        (a.escalator.raise fault (a.menus.menuOf fault) panel).trace.panel := by
      simp [report]
    rw [htrace, hcalls, List.mem_append, Option.isSome_some, or_iff_left_iff_imp]
    intro hshown
    split at hshown <;> simp at hshown
  | none =>
    have htrace : (a.report none panel).trace.panel = (a.escalator.allClear panel).trace.panel := by
      simp [report]
    rw [htrace, (a.escalator.allClear_indicator panel).2.1, Option.isSome_none]

end Alarm

namespace WaterJet

open ProcessState

section

variable {π : Type} [Panel π] {j : WaterJet}

/-- An active cutter reports the fault that the process raised, or, in a state
    that escalates, that there is none. The state counts in which the second
    ends. -/
theorem told_eq_some_iff (hactive : j.active = true) (fault : Option LevelFault) :
    j.told = some fault ↔
      j.state.raises j.found = fault ∧
        (fault.isSome = true ∨ (j.state.successor j.seen).escalates = true) := by
  unfold told
  dsimp only
  rw [hactive, Bool.true_and, Option.ite_none_right_eq_some, Bool.or_eq_true, Option.some.injEq,
    and_comm]
  exact and_congr_right fun hfault => by rw [hfault]

/-- A second that finds a fault reports none exactly in the two states that do
    not look at faults and pass into a watched one. In all other states a fault
    that is found is either raised or kept quiet. -/
theorem told_eq_some_none_iff (hactive : j.active = true) (hfaults : j.found.faults.mask ≠ 0) :
    j.told = some none ↔ j.state ∈ [running, resuming] := by
  have hprimary : j.found.primaryFault ≠ none := by
    rwa [ne_eq, primaryFault_found_eq_none_iff]
  rw [told_eq_some_iff hactive]
  simp only [Option.isSome_none, Bool.false_eq_true, false_or, List.mem_cons, List.not_mem_nil,
    or_false]
  constructor
  · rintro ⟨hquiet, hescalates⟩
    rw [successor_of_quiet hquiet, verdict_seen, paused_seen] at hescalates
    revert hquiet hescalates
    cases j.state
    case running | resuming => simp
    case watching | dumping | idleTooLong | waitFill | filtersBlocked | levelTooHigh =>
      exact fun hquiet => absurd hquiet hprimary
    -- A pause with other faults than an overfull tank ends in `resuming`, which reports nothing.
    case paused | gantryStalled => cases j.isPaused <;> simp [onward, escalates]
    case prep => by_cases hphase : j.found.phase = .dumping <;> simp [onward, escalates, hphase]
    all_goals simp [onward, escalates]
  · rintro (hstate | hstate) <;> rw [hstate] <;> exact ⟨rfl, rfl⟩

/-- An end to faults is told exactly if the second reports that there is no
    fault and the last report was of one. -/
theorem Settled.faultsCleared_mem_tick_iff (hsettled : j.Settled) (panel : π) :
    Event.faultsCleared owner ∈ (j.tick panel).trace.events ↔
      j.told = some none ∧ j.alarm.last ≠ none := by
  have hreports := (hsettled.tells_tick panel).reports_eq owner
  rw [hsettled.owner_eq, if_pos rfl] at hreports
  rw [← Event.none_mem_reports_iff, hreports, Alarm.news]
  cases j.told with
  | none => simp
  | some fault =>
    rw [Option.elim_some, Option.some.injEq]
    split
    · rename_i hsame
      simp [hsame]
    · rename_i hdiffers
      rw [List.mem_singleton, eq_comm]
      exact (and_iff_left_of_imp fun hnone => hnone ▸ hdiffers).symm

/-- A second sets the indicator exactly to the finding that it reports, where
    that differs from what it was set to last. -/
theorem Settled.indicator_mem_tick_iff (hsettled : j.Settled) (panel : π) (on : Bool) :
    .faultIndicator on ∈ (j.tick panel).trace.panel ↔
      j.alarm.escalator.indicator ≠ some on ∧ ∃ fault, j.told = some fault ∧ fault.isSome = on := by
  cases hactive : j.active with
  | false => simp [tick_of_inactive hactive, told, hactive]
  | true =>
    rw [(panel_tick hactive panel).1, hsettled.absorbSuspend_advanced]
    cases hreports : (j.advanced.context.raisedFault.isSome || j.advanced.state.escalates) with
    | true =>
      have htold : j.told = some (j.state.raises j.found) := by
        rw [hsettled.raisedFault_advanced, state_advanced] at hreports
        rw [told, hactive, hreports]
        rfl
      rw [(escalate_reporting hreports panel).2, Alarm.mem_panel_report_iff,
        hsettled.raisedFault_advanced, htold]
      simp [advanced, Escalator.tick]
    | false =>
      have htold : j.told = none := by
        rw [hsettled.raisedFault_advanced, state_advanced] at hreports
        rw [told, hactive, hreports]
        rfl
      rw [(escalate_silent hreports panel).2, htold]
      simp

end

/-- A move of the process does not touch the panel. -/
theorem panel_goto (j : WaterJet) (target : ProcessState) : (j.goto target).trace.panel = [] := by
  have habsorb (j : WaterJet) : j.absorbSuspend.trace.panel = [] := by
    unfold absorbSuspend
    split <;> rfl
  simp [goto, habsorb]

/-- No command touches the panel, whatever the cutter makes of it. -/
theorem panel_command (j : WaterJet) (code : Nat) : (j.command code).trace.panel = [] := by
  have hset (j : WaterJet) (active : Bool) : (j.setActive active).trace.panel = [] := by
    unfold setActive
    split <;> rfl
  have henable : j.enable.trace.panel = [] := by
    simp only [enable, Traced.trace_bind, Trace.panel_append, hset]
    split <;> simp [panel_goto]
  have hdisable : j.disable.trace.panel = [] := by simp [disable, hset, panel_goto]
  have hstart : j.startJob.trace.panel = [] := by
    unfold startJob
    split_ifs <;> simp [panel_goto]
  unfold command
  split_ifs <;> simp [henable, hdisable, hstart, panel_goto]

theorem panel_poll {ι : Type} [PinAccess ι] (j : WaterJet) (pins : ι) :
    (j.poll pins).trace.panel = [] := by
  unfold poll
  split <;> simp

theorem panel_drive {ι : Type} [PinAccess ι] (j : WaterJet) (pins : ι) :
    (j.drive pins).trace.panel = [] := by
  simp [drive, Traced.send]

/-- A resume does not touch the panel: the indicator stays as it is lit. -/
theorem panel_resume (j : WaterJet) : j.resume.trace.panel = [] := by
  unfold resume
  dsimp only
  split <;> rfl

/-- Every operation reports a finding, or tells nothing of faults. Only a second
    may report one. -/
theorem Settled.exists_tells_perform {j : WaterJet} (hsettled : j.Settled) (op : Operation) :
    ∃ told, j.alarm.Tells (j.perform op).value.alarm (j.perform op).trace told := by
  cases op with
  | poll pins =>
    rw [perform_poll]
    exact ⟨none, Alarm.tells_nothing (notes_poll j pins) (panel_poll j pins)
      fun source => reports_poll source j pins⟩
  | tick panel =>
    rw [perform_tick]
    exact ⟨_, hsettled.tells_tick panel⟩
  | drive pins =>
    rw [perform_drive]
    exact ⟨none, Alarm.tells_nothing ⟨rfl, rfl, rfl⟩ (panel_drive j pins)
      fun source => reports_drive source j pins⟩
  | command code =>
    rw [perform_command]
    exact ⟨none, Alarm.tells_nothing (hsettled.notes_command code) (panel_command j code)
      fun source => reports_command source j code⟩
  | requestState raw =>
    exact ⟨none, Alarm.tells_nothing (notes_goto j _) (by simp [requestState, panel_goto])
      fun source => by simp [requestState]⟩
  | resume =>
    rw [perform_resume]
    exact ⟨none, Alarm.tells_nothing (notes_resume j) (panel_resume j)
      fun source => reports_resume source j⟩

/-- The alarm's note of the indicator is what the cutter set it to last,
    whatever the history: both are empty at first, and each operation changes
    them alike. -/
theorem Reached.indicator_eq {j : WaterJet} {past : Trace} (hreached : Reached j past) :
    j.alarm.escalator.indicator = PanelCall.lit past.panel := by
  induction hreached with
  | @build ι _ s delay pins j hbuild =>
    have hpanel : (WaterJet.build s delay pins).trace.panel = [] := by
      unfold WaterJet.build
      dsimp only
      split
      · rfl
      · split <;> rfl
    rw [(build_ok hbuild).1, hpanel]
    rfl
  | perform op hreached ih =>
    obtain ⟨_, htells⟩ := hreached.settled.exists_tells_perform op
    exact htells.indicator_agrees ih

/-- Whatever happened to an active cutter, a second tells of an end to its
    faults, or sets the fault indicator to normal work, in spite of faults
    exactly in this case: it is the first second of a job or of a resume, it
    finds a fault, and the last report was of a fault, or the indicator was not
    set to normal work last. Such a second looks at no fault and ends in
    `watching`, so it reports that there is none. -/
theorem clean_report_iff {j : WaterJet} {past : Trace} (hreached : Reached j past)
    (hactive : j.active = true) {π : Type} [Panel π] (panel : π) :
    let second := j.tick panel
    let faults := second.value.1.context.verdict.faults.mask
    let overlooked := j.state ∈ [running, resuming] ∧ faults ≠ 0
    ((Event.faultsCleared owner ∈ second.trace.events → faults = 0) ↔
        ¬(overlooked ∧ Event.lastReported owner past.events ≠ none)) ∧
      ((.faultIndicator false ∈ second.trace.panel → faults = 0) ↔
        ¬(overlooked ∧ PanelCall.lit past.panel ≠ some false)) := by
  intro second faults overlooked
  have hsettled := hreached.settled
  have hverdict : second.value.1.context.verdict = j.found :=
    (hsettled.context_tick hactive panel).2.1
  by_cases hclean : faults = 0
  · simp [overlooked, hclean]
  · have htold : j.told = some none ↔ overlooked := by
      have hmask : j.found.faults.mask ≠ 0 := by rwa [← hverdict]
      rw [told_eq_some_none_iff hactive hmask]
      exact (and_iff_left hclean).symm
    have hcleared := hsettled.faultsCleared_mem_tick_iff panel
    have hnormal := hsettled.indicator_mem_tick_iff panel false
    rw [htold, hreached.last_eq] at hcleared
    simp only [Option.isSome_eq_false_iff, Option.isNone_iff_eq_none, exists_eq_right, htold,
      hreached.indicator_eq] at hnormal
    exact ⟨(imp_iff_not hclean).trans (not_congr hcleared),
      (imp_iff_not hclean).trans (not_congr (hnormal.trans and_comm))⟩

/-- A cutter that is resumed after an overfull tank, and whose tank is overfull
    again in the first second of the resume. -/
def overfullAgain : List Operation :=
  [.command 1401, .poll (plainPins ["P2.12"]), .command 1403, .tick ({} : StubPanel),
    .poll (plainPins ["P2.12", "P1.29"]), .tick ({} : StubPanel), .poll (plainPins ["P2.12"]),
    .resume, .tick ({} : StubPanel), .poll (plainPins ["P2.12", "P1.29"])]

/-- The overfull tank is found, and the end to all faults is told. -/
theorem overfull_tank_reported_clean :
    ¬∀ (j : WaterJet) (past : Trace) (panel : StubPanel), Reached j past → j.active = true →
      Event.faultsCleared owner ∈ (j.tick panel).trace.events ∨
        .faultIndicator false ∈ (j.tick panel).trace.panel →
      (j.tick panel).value.1.context.verdict.faults.mask = 0 := by
  intro htruthful
  have hclean := htruthful (plain overfullAgain) _ {} (reached_plain _) (by decide)
    (.inl (by decide))
  exact absurd hclean (by decide)

/-- The first second of that resume tells of an end to the faults in spite of
    them, and the next one does not. -/
theorem clean_report_iff_overfull :
    let second : Operation := .tick ({} : StubPanel)
    let told (ops : List Operation) : Prop :=
      Event.faultsCleared owner ∈ ((plain ops).tick ({} : StubPanel)).trace.events →
        ((plain ops).tick ({} : StubPanel)).value.1.context.verdict.faults.mask = 0
    (plain overfullAgain).state = resuming ∧ ¬told overfullAgain ∧
      told (overfullAgain ++ [second]) := by
  intro second told
  have hfirst := clean_report_iff (reached_plain overfullAgain) (by decide) ({} : StubPanel)
  have hnext := clean_report_iff (reached_plain (overfullAgain ++ [second])) (by decide)
    ({} : StubPanel)
  refine ⟨by decide, fun htruthful => hfirst.1.1 htruthful (by decide), hnext.1.2 ?_⟩
  rintro ⟨⟨hstate, _⟩, _⟩
  revert hstate
  decide

end WaterJet

end Interlock
