import Interlock.Pin.Bank
import Interlock.Proofs.Alarm.Told
import Interlock.Proofs.Level.Fault
import Interlock.Proofs.Tank.Pause

namespace Interlock

namespace WaterTank

/-- What the surroundings may do with a tank. Pins and panel are whatever they
    are at that moment. -/
inductive Operation : Type 1 where
  | poll {ι : Type} [PinAccess ι] (pins : ι)
  | tick {π : Type} [Panel π] (panel : π)
  | drive {ι : Type} [PinAccess ι] (pins : ι)
  | command (code : Nat)
  | resume

/-- What becomes of a tank by an operation. -/
def perform (t : WaterTank) : Operation → Traced WaterTank
  | @Operation.poll _ _ pins => t.poll pins
  | @Operation.tick _ _ panel => do
    let (t, _) ← t.tick panel
    return t
  | @Operation.drive _ _ pins => do
    let (t, _) ← t.drive pins
    return t
  | .command code => do
    let (t, _) ← t.command code
    return t
  | .resume => do
    let (t, _) ← t.resume
    return t

section

variable {ι π : Type} [PinAccess ι] [Panel π] (t : WaterTank)

@[simp] theorem perform_poll (pins : ι) : t.perform (.poll pins) = t.poll pins := rfl

@[simp] theorem perform_tick (panel : π) :
    t.perform (.tick panel) = ⟨(t.tick panel).value.1, (t.tick panel).trace⟩ := by
  rw [← (t.tick panel).trace.append_empty]
  rfl

@[simp] theorem perform_drive (pins : ι) :
    t.perform (.drive pins) = ⟨(t.drive pins).value.1, (t.drive pins).trace⟩ := by
  rw [← (t.drive pins).trace.append_empty]
  rfl

@[simp] theorem perform_command (code : Nat) :
    t.perform (.command code) = ⟨(t.command code).value.1, (t.command code).trace⟩ := by
  rw [← (t.command code).trace.append_empty]
  rfl

@[simp] theorem perform_resume : t.perform .resume = ⟨t.resume.value.1, t.resume.trace⟩ := by
  rw [← t.resume.trace.append_empty]
  rfl

end

/-- What becomes of it by several operations, one after the other. -/
def performAll (t : WaterTank) : List Operation → Traced WaterTank
  | [] => pure t
  | op :: ops => do
    let t ← t.perform op
    t.performAll ops

/-- The operation is a resume that ends a pause, which is its answer. -/
def endsPause (t : WaterTank) : Operation → Bool
  | .resume => t.resume.value.2
  | _ => false

/-- How many operations of a history are resumes that end a pause. -/
def resumptions (t : WaterTank) : List Operation → Nat
  | [] => 0
  | op :: ops => (t.endsPause op).toNat + (t.perform op).value.resumptions ops

section

variable {ι π : Type} [PinAccess ι] [Panel π] (t : WaterTank)

/-- The alarm once it has counted the second. -/
def counted (t : WaterTank) : Alarm :=
  { t.alarm with escalator := t.alarm.escalator.tick }

/-- A second of an enabled tank reports what it finds, and tells the outside
    nothing else. -/
theorem tick_of_enabled {t : WaterTank} (henabled : t.enabled = true) (panel : π) :
    let found := (t.guard.evaluate t.sensors.floats).2
    let report := t.counted.report found.primaryFault panel
    (t.tick panel).value.1.verdict = found ∧ (t.tick panel).value.1.alarm = report.value.1 ∧
      (t.tick panel).value.2 = report.value.2.1 ∧
      (t.tick panel).trace.panel = report.trace.panel ∧
      (t.tick panel).trace.events = report.trace.events := by
  intro found report
  unfold tick
  rw [if_neg (by simp [henabled])]
  refine ⟨rfl, rfl, rfl, ?_, ?_⟩
  · exact List.append_nil report.trace.panel
  · exact List.append_nil report.trace.events

/-- A second tells of the fault that it finds, or of none, if the tank is
    enabled. The second of another tank tells nothing. -/
theorem tells_tick (panel : π) :
    t.alarm.Tells (t.tick panel).value.1.alarm (t.tick panel).trace
      (if t.enabled then some t.fault? else none) := by
  cases henabled : t.enabled with
  | false =>
    unfold tick
    rw [if_pos (by simp [henabled])]
    exact Alarm.tells_nothing ⟨rfl, rfl, rfl⟩ rfl fun _ => rfl
  | true =>
    obtain ⟨_, halarm, _, hpanel, hevents⟩ := tick_of_enabled henabled panel
    have htells := t.counted.tells_report (t.guard.evaluate t.sensors.floats).2.primaryFault panel
    rw [if_pos rfl, fault?, if_pos henabled, halarm]
    exact (htells.seen hpanel fun _ => by rw [hevents]).of_tick

/-- The panel is left as the calls of the second make it. -/
theorem takeAll_tick (panel : π) :
    (t.tick panel).value.2 = Panel.takeAll panel (t.tick panel).trace.panel := by
  cases henabled : t.enabled with
  | false =>
    unfold tick
    rw [if_pos (by simp [henabled])]
    rfl
  | true =>
    obtain ⟨_, _, hpanel, hcalls, _⟩ := tick_of_enabled henabled panel
    rw [hpanel, hcalls]
    exact (t.counted.report_indicator _ panel).2.2

/-- A reading of the floats tells nothing of faults. -/
theorem tells_poll (pins : ι) :
    t.alarm.Tells (t.poll pins).value.alarm (t.poll pins).trace none := by
  unfold poll
  split
  · exact Alarm.tells_nothing ⟨rfl, rfl, rfl⟩ rfl fun _ => rfl
  · exact Alarm.tells_nothing ⟨rfl, rfl, rfl⟩ (by simp) (by simp)

theorem tells_drive (pins : ι) :
    t.alarm.Tells (t.drive pins).value.1.alarm (t.drive pins).trace none := by
  unfold drive
  split
  · exact Alarm.tells_nothing ⟨rfl, rfl, rfl⟩ rfl fun _ => rfl
  · exact Alarm.tells_nothing ⟨rfl, rfl, rfl⟩ (by simp) (by simp)

theorem tells_command (code : Nat) :
    t.alarm.Tells (t.command code).value.1.alarm (t.command code).trace none := by
  have hset (enabled : Bool) :
      t.alarm.Tells (t.setEnabled enabled).value.alarm (t.setEnabled enabled).trace none := by
    unfold setEnabled
    split <;> exact Alarm.tells_nothing ⟨rfl, rfl, rfl⟩ rfl fun _ => rfl
  unfold command
  split_ifs
  · exact (hset false).seen (by simp) (by simp)
  · exact (hset true).seen (by simp) (by simp)
  · exact Alarm.tells_nothing ⟨rfl, rfl, rfl⟩ rfl fun _ => rfl

/-- A resume tells nothing of faults. It ends a pause and leaves the note of the
    last report alone. -/
theorem tells_resume : t.alarm.Tells t.resume.value.1.alarm t.resume.trace none :=
  Alarm.tells_nothing ⟨rfl, rfl, rfl⟩ rfl fun _ => rfl

end

/-- Every operation reports a finding, or tells nothing of faults. -/
theorem exists_tells_perform (t : WaterTank) (op : Operation) :
    ∃ told, t.alarm.Tells (t.perform op).value.alarm (t.perform op).trace told := by
  cases op with
  | poll pins => exact ⟨_, t.tells_poll pins⟩
  | tick panel =>
    rw [perform_tick]
    exact ⟨_, t.tells_tick panel⟩
  | drive pins =>
    rw [perform_drive]
    exact ⟨_, t.tells_drive pins⟩
  | command code =>
    rw [perform_command]
    exact ⟨_, t.tells_command code⟩
  | resume =>
    rw [perform_resume]
    exact ⟨_, t.tells_resume⟩

/-- The notes of the alarm are what the tank told the outside last. -/
structure Knows (t : WaterTank) (past : Trace) : Prop where
  owner_eq : t.alarm.escalator.owner = owner
  last_eq : t.alarm.last = Event.lastReported owner past.events
  indicator_eq : t.alarm.escalator.indicator = PanelCall.lit past.panel

/-- An operation that reports a finding notes what it reports, and one that
    tells nothing of faults leaves the notes alone. -/
theorem Knows.step {t after : WaterTank} {past done : Trace} {told : Option (Option LevelFault)}
    (hknows : t.Knows past) (htells : t.alarm.Tells after.alarm done told) :
    after.Knows (past ++ done) := by
  obtain ⟨howner, hlast, hindicator⟩ := hknows
  have hnews : Event.reports t.alarm.escalator.owner done.events = t.alarm.news told := by
    rw [htells.reports_eq, if_pos rfl]
  refine ⟨htells.owner_eq.trans howner, ?_, htells.indicator_agrees hindicator⟩
  rw [← howner] at hlast ⊢
  exact htells.last_agrees hnews hlast

/-- The notes hold through any operations. -/
theorem Knows.performAll {t : WaterTank} {past : Trace} (hknows : t.Knows past)
    (ops : List Operation) : (t.performAll ops).value.Knows (past ++ (t.performAll ops).trace) := by
  induction ops generalizing t past with
  | nil => simpa [WaterTank.performAll] using hknows
  | cons op ops ih =>
    obtain ⟨_, htells⟩ := t.exists_tells_perform op
    have hrest := ih (hknows.step htells)
    rwa [Trace.append_assoc] at hrest

/-- What is built is the tank of the settings. -/
theorem eq_of_build {ι : Type} [PinAccess ι] {s : TankSettings} {delay : Nat} {pins : ι}
    {t : WaterTank} (hbuild : (build s delay pins).value = .ok t) : t = ofSettings s delay := by
  unfold build at hbuild
  split at hbuild
  · cases hbuild
  · dsimp only at hbuild
    split at hbuild <;> cases hbuild
    rfl

theorem knows_ofSettings (s : TankSettings) (delay : Nat) : (ofSettings s delay).Knows {} :=
  ⟨rfl, rfl, rfl⟩

/-- Every suspend command begins a pause, and only a resume ends one. So the two
    sides are balanced by whether the tank is paused before and after the
    operation. -/
theorem count_sent_perform (t : WaterTank) (op : Operation) :
    (t.perform op).trace.sent.count suspendCommand + t.isPaused.toNat =
      (t.endsPause op).toNat + (t.perform op).value.isPaused.toNat := by
  cases op with
  | poll pins => simp [endsPause, t.sent_poll, t.isPaused_poll]
  | tick panel =>
    simp only [perform_tick, t.sent_tick, t.isPaused_tick, endsPause]
    cases t.fault?.isSome <;> cases t.isPaused <;> simp
  | drive pins => simp [endsPause, t.sent_drive, t.isPaused_drive]
  | command code => simp [endsPause, t.sent_command, t.isPaused_command]
  | resume =>
    have hsent : t.resume.trace.sent = [] := rfl
    have hafter : t.resume.value.1.isPaused = false := rfl
    have hanswer : t.resume.value.2 = t.isPaused := rfl
    simp [endsPause, hsent, hafter, hanswer]

/-- The balances of the operations add up to that of the whole history. -/
theorem count_sent_performAll (t : WaterTank) (ops : List Operation) :
    (t.performAll ops).trace.sent.count suspendCommand + t.isPaused.toNat =
      t.resumptions ops + (t.performAll ops).value.isPaused.toNat := by
  induction ops generalizing t with
  | nil => simp [performAll, resumptions]
  | cons op ops ih =>
    have hfirst := t.count_sent_perform op
    have hrest := ih (t.perform op).value
    simp only [performAll, resumptions, Traced.trace_bind, Traced.value_bind, Trace.sent_append,
      List.count_append]
    omega

/-- The settings of a tank with the default limits. -/
def plainSettings : TankSettings where
  enable := true
  middleFloatPin := "P1.28"
  highFloatPin := "P1.29"
  dumpValvePin := "P2.5"
  lowPressurePumpPin := "P2.7"
  lowWaterMenu := "/sd/menu/low"
  highWaterMenu := "/sd/menu/high"
  filtersBlockedMenu := "/sd/menu/filters"

/-- Whatever happened to a tank since it was built: after a second in which it
    is enabled, the fault reports come down to the most severe fault of the
    verdict, and the indicator was last lit as there are faults or none. With
    faults the tank is paused, and the second sent the suspend command once if
    it was not paused before. At most one such command more was sent than
    resumes ended a pause. -/
theorem alarm_tracks_verdict {ι : Type} [PinAccess ι] {s : TankSettings} {delay : Nat} {pins : ι}
    {t : WaterTank} (hbuild : (build s delay pins).value = .ok t) (ops : List Operation) :
    let run := t.performAll ops
    (∀ {π : Type} [Panel π] (panel : π), run.value.enabled = true →
      let second := run.value.tick panel
      let after := second.value.1
      let faults := after.verdict.faults.mask
      Event.lastReported owner (run.trace.events ++ second.trace.events) =
          after.verdict.primaryFault ∧
        PanelCall.lit (run.trace.panel ++ second.trace.panel) = some (faults != 0) ∧
        (faults ≠ 0 → after.isPaused = true) ∧
        second.trace.sent =
          if faults ≠ 0 ∧ run.value.isPaused = false then ["M600"] else []) ∧
      run.trace.sent.count "M600" ≤ t.resumptions ops + 1 := by
  intro run
  have hknows : run.value.Knows run.trace := by
    simpa [run, eq_of_build hbuild] using (knows_ofSettings s delay).performAll ops
  refine ⟨?_, ?_⟩
  · intro π _ panel henabled second after faults
    have htells : run.value.alarm.Tells after.alarm second.trace (some run.value.fault?) := by
      simpa [henabled] using run.value.tells_tick panel
    have hverdict : after.verdict = (run.value.guard.evaluate run.value.sensors.floats).2 :=
      (tick_of_enabled henabled panel).1
    have hfinding : run.value.fault? = after.verdict.primaryFault := by
      rw [hverdict, fault?, if_pos henabled]
    have hunnamed : after.verdict.faults.unnamed = 0 := by
      rw [hverdict]
      rfl
    have hsome : run.value.fault?.isSome = (faults != 0) := by
      have hnone := FaultSet.mostSevere_eq_none_iff_mask hunnamed
      rw [hfinding, Verdict.primaryFault]
      rw [Bool.eq_iff_iff, Option.isSome_iff_ne_none, bne_iff_ne]
      exact not_congr hnone
    have hafter := hknows.step htells
    refine ⟨?_, ?_, ?_, ?_⟩
    · rw [← hfinding, ← Trace.events_append, ← hafter.last_eq, htells.last_eq, Option.getD_some]
    · rw [← hsome, ← Trace.panel_append, ← hafter.indicator_eq, htells.indicator_eq]
      rfl
    · intro hmask
      rw [run.value.isPaused_tick, hsome]
      simp [hmask]
    · rw [run.value.sent_tick, hsome]
      simp [suspendCommand]
  · calc run.trace.sent.count suspendCommand
        = t.resumptions ops + run.value.isPaused.toNat := by
          simpa [isPaused_build hbuild] using t.count_sent_performAll ops
      _ ≤ t.resumptions ops + 1 := Nat.add_le_add_left (Bool.toNat_le _) _

/-- A tank that overflows, is resumed and overflows still. -/
theorem alarm_tracks_verdict_overfull :
    let pins := (PinBank.ofNames ["P1.28", "P1.29"] ["P2.5", "P2.7"]).setLevel "P1.29" true
    let t := ofSettings plainSettings 20
    let run := t.performAll [.poll pins, .tick ({} : StubPanel), .resume]
    let second := run.value.tick ({} : StubPanel)
    (build plainSettings 20 pins).value = .ok t ∧ run.value.enabled = true ∧
      run.value.isPaused = false ∧
      Event.lastReported owner (run.trace.events ++ second.trace.events) = some .levelTooHigh ∧
      PanelCall.lit (run.trace.panel ++ second.trace.panel) = some true ∧
      second.value.1.isPaused = true ∧ second.trace.sent = ["M600"] ∧
      run.trace.sent.count "M600" ≤ 2 := by
  intro pins t run second
  have hbuild : (build plainSettings 20 pins).value = .ok t := rfl
  obtain ⟨hseconds, hcount⟩ :=
    alarm_tracks_verdict hbuild [.poll pins, .tick ({} : StubPanel), .resume]
  obtain ⟨hreported, hlit, hpauses, hsent⟩ := hseconds ({} : StubPanel) rfl
  exact ⟨hbuild, rfl, rfl, hreported, hlit, hpauses (by decide), hsent, hcount⟩

end WaterTank

end Interlock
