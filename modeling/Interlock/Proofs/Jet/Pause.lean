import Interlock.Proofs.Jet.Invariant

namespace Interlock

/-- A held counter does not count. Only a start that is waiting changes it, to
    zero. -/
theorem Counter.elapsed_tick_held (c : Counter) (rivalStarts : Bool) :
    (c.tick true rivalStarts).elapsed = if c.startRequested then 0 else c.elapsed := by
  simp only [tick, count, settle, Bool.not_true, Bool.and_false, Bool.false_eq_true, if_false]
  split_ifs <;> rfl

namespace WaterJet

open ProcessState

/-- A pause with all that belongs to it: the head is off, and useful work stands
    still. -/
def StandsInPause (j : WaterJet) : Prop :=
  j.isPaused = true →
    j.context.outputs.highPressurePump = false ∧ j.context.frozen = true

/-- The operation that breaks a pause without ending it: a request for
    `resuming`. -/
def BreaksPause (j : WaterJet) : Operation → Prop
  | .requestState raw => ofRaw raw = resuming ∧ j.isPaused = true
  | _ => False

theorem standsInPause_ofSettings (s : JetSettings) (delay : Nat) :
    (ofSettings s delay).StandsInPause :=
  fun hpaused => nomatch hpaused

theorem StandsInPause.frame {j j' : WaterJet} (hstands : j.StandsInPause)
    (halarm : j'.alarm = j.alarm) (houtputs : j'.context.outputs = j.context.outputs)
    (hfrozen : j'.context.frozen = j.context.frozen) : j'.StandsInPause := by
  unfold StandsInPause isPaused at *
  rwa [halarm, houtputs, hfrozen]

/-- A state that neither cuts by itself nor leaves the head on keeps useful work
    stopped. -/
theorem entryFrozen_getD_true {target : ProcessState} (hrunning : target ≠ running)
    (hresuming : target ≠ resuming) : target.entryFrozen.getD true = true := by
  cases target <;> simp_all [entryFrozen]

/-- A move by command breaks a pause exactly if it moves to `resuming`. A move
    to `running` ends the pause instead, and the other states leave the head off
    or switch it off. -/
theorem Settled.standsInPause_goto_iff {j : WaterJet} (hsettled : j.Settled)
    (hstands : j.StandsInPause) (target : ProcessState) :
    (j.goto target).value.StandsInPause ↔ ¬(target = resuming ∧ j.isPaused = true) := by
  have hhead := hsettled.headOn_goto target
  have hfrozen := frozen_goto j target
  unfold StandsInPause
  rw [show (j.goto target).value.context.outputs.highPressurePump = _ from hhead, hfrozen,
    hsettled.isPaused_goto]
  cases hpaused : j.isPaused with
  | false =>
    -- Only a state that suspends the machine itself pauses here, and it stops all that it has to.
    have hentered (hmoves : target ≠ j.state) (hsuspends : target.suspends = true) :
        target.entryHead = some false ∧ target.entryFrozen = some true := by
      cases target <;> simp_all [suspends, entryHead, entryFrozen]
    simp only [Bool.or_false, Bool.and_eq_true, bne_iff_ne, and_false, Bool.false_eq_true,
      not_false_eq_true, iff_true]
    rintro ⟨_, hmoves, hsuspends⟩
    obtain ⟨hoff, hstill⟩ := hentered hmoves hsuspends
    simp [hoff, hstill, hmoves]
  | true =>
    obtain ⟨hoff, hstill⟩ := hstands hpaused
    have hoff : j.headOn = false := hoff
    simp only [Bool.or_true, Bool.and_true, bne_iff_ne, and_true, hoff, hstill]
    constructor
    · rintro hafter rfl
      have hon := (hafter (by decide)).1
      simp [entryHead] at hon
    · intro hresuming hrunning
      refine ⟨?_, ?_⟩
      · cases hon : target.entryHead.getD false with
        | false => rfl
        | true =>
          exact absurd ((entryHead_getD_false_iff target).1 hon) (by simp [hrunning, hresuming])
      · split
        · rfl
        · exact entryFrozen_getD_true hrunning hresuming

/-- A second of a paused cutter leaves the head off: it resumes no job. A second
    that begins a pause switches the head off as it does. -/
theorem Settled.standsInPause_tick {j : WaterJet} (hsettled : j.Settled)
    (hstands : j.StandsInPause) {π : Type} [Panel π] (panel : π) :
    (j.tick panel).value.1.StandsInPause := by
  cases hactive : j.active with
  | false => rwa [tick_of_inactive hactive]
  | true =>
    intro hpausedAfter
    obtain ⟨_, _, _, hfrozen, _⟩ := hsettled.kept_tick hactive panel
    refine ⟨?_, by rw [hfrozen, hpausedAfter, Bool.true_or]⟩
    have hhead := hsettled.headOn_tick hactive panel
    rw [hsettled.state_tick hactive] at hhead
    have hpaused := hpausedAfter
    rw [hsettled.isPaused_tick hactive, Bool.or_eq_true, Option.isSome_iff_exists] at hpaused
    rcases hpaused with ⟨fault, hraises⟩ | hpaused
    · rw [successor_of_raises hraises, entryHead_ofFault] at hhead
      exact hhead
    · have hoff : j.headOn = false := (hstands hpaused).1
      have hstays : j.state.successor j.seen ≠ resuming := by
        rw [ne_eq, successor_eq_resuming_iff, paused_seen, hpaused]
        simp
      rw [hoff] at hhead
      cases hon : (j.tick panel).value.1.headOn with
      | false => exact hon
      | true =>
        rw [hon, eq_comm, entryHead_getD_false_iff] at hhead
        exact absurd hhead (not_or_intro (successor_ne_running _ _) hstays)

/-- No command moves to `resuming`. -/
theorem Settled.standsInPause_command {j : WaterJet} (hsettled : j.Settled)
    (hstands : j.StandsInPause) (code : Nat) : (j.command code).value.1.StandsInPause := by
  refine hsettled.keeps_command hstands (fun _ hstands => hstands.frame rfl rfl rfl)
    (fun hstands => hstands.frame rfl rfl rfl) (fun hstands => hstands.frame rfl rfl rfl) ?_ code
  intro j hsettled hstands target htarget
  refine (hsettled.standsInPause_goto_iff hstands target).2 ?_
  rintro ⟨rfl, _⟩
  simp at htarget

/-- The step: every operation but a request for `resuming` in a paused cutter
    leaves the head off and useful work stopped for as long as the pause lasts. -/
theorem Settled.standsInPause_perform_iff {j : WaterJet} (hsettled : j.Settled)
    (hstands : j.StandsInPause) (op : Operation) :
    (j.perform op).value.StandsInPause ↔ ¬j.BreaksPause op := by
  have hkept (hafter : (j.perform op).value.StandsInPause) (hnot : ¬j.BreaksPause op) :
      (j.perform op).value.StandsInPause ↔ ¬j.BreaksPause op :=
    iff_of_true hafter hnot
  cases op with
  | poll pins =>
    refine hkept ?_ id
    rw [perform_poll, value_poll]
    exact hstands.frame rfl rfl rfl
  | tick panel =>
    refine hkept ?_ id
    rw [perform_tick]
    exact hsettled.standsInPause_tick hstands panel
  | drive pins => exact hkept (hstands.frame rfl rfl rfl) id
  | command code =>
    refine hkept ?_ id
    rw [perform_command]
    exact hsettled.standsInPause_command hstands code
  | requestState raw => exact hsettled.standsInPause_goto_iff hstands (.ofRaw raw)
  | resume =>
    refine hkept ?_ id
    rw [perform_resume, value_resume]
    exact fun hpaused => nomatch hpaused

/-- Moving on leaves the counts of useful work as the second left them. -/
theorem elapsed_advanced (j : WaterJet) :
    j.advanced.context.abrasiveHopper.elapsed =
        (j.context.abrasiveHopper.tick j.context.frozen false).elapsed ∧
      j.advanced.context.spentAbrasive.elapsed =
        (j.context.spentAbrasive.tick j.context.frozen false).elapsed := by
  rw [context_advanced]
  dsimp only
  split
  · exact ⟨rfl, rfl⟩
  · exact elapsed_enter _ _

/-- A second that finds useful work stopped advances neither of its counters. A
    start that waits takes a counter back to zero, which is no advance. -/
theorem Settled.elapsed_tick_frozen {j : WaterJet} (hsettled : j.Settled)
    (hactive : j.active = true) (hfrozen : j.context.frozen = true) {π : Type} [Panel π]
    (panel : π) :
    let after := (j.tick panel).value.1.context
    after.abrasiveHopper.elapsed =
        (if j.context.abrasiveHopper.startRequested then 0 else j.context.abrasiveHopper.elapsed) ∧
      after.spentAbrasive.elapsed =
        (if j.context.spentAbrasive.startRequested then 0 else
          j.context.spentAbrasive.elapsed) := by
  intro after
  obtain ⟨_, _, _, _, hhopper, hspent⟩ := hsettled.kept_tick hactive panel
  obtain ⟨hhopperTick, hspentTick⟩ := elapsed_advanced j
  rw [hfrozen, Counter.elapsed_tick_held] at hhopperTick hspentTick
  exact ⟨(congrArg Counter.elapsed hhopper).trans hhopperTick,
    (congrArg Counter.elapsed hspent).trans hspentTick⟩

/-- The counters of useful work do not advance in the next second. -/
def WorkStands (j : WaterJet) : Prop :=
  ∀ {π : Type} [Panel π] (panel : π),
    let after := (j.tick panel).value.1.context
    after.abrasiveHopper.elapsed ≤ j.context.abrasiveHopper.elapsed ∧
      after.spentAbrasive.elapsed ≤ j.context.spentAbrasive.elapsed

/-- A second of a cutter whose useful work is stopped counts none, whether it is
    active or not. -/
theorem Settled.workStands {j : WaterJet} (hsettled : j.Settled)
    (hfrozen : j.context.frozen = true) : j.WorkStands := by
  intro π _ panel
  cases hactive : j.active with
  | false =>
    rw [tick_of_inactive hactive]
    exact ⟨Nat.le_refl _, Nat.le_refl _⟩
  | true =>
    obtain ⟨hhopper, hspent⟩ := hsettled.elapsed_tick_frozen hactive hfrozen panel
    dsimp only
    rw [hhopper, hspent]
    constructor <;> split <;> omega

/-- Throughout a run of a new cutter a pause keeps the head off and useful work
    stopped, so that the next second counts none, exactly if `resuming` is never
    requested of the paused cutter. -/
theorem pause_stands_iff {ι : Type} [PinAccess ι] {s : JetSettings} {delay : Nat} {pins : ι}
    {new : WaterJet} (hbuild : (build s delay pins).value = .ok new) (ops : List Operation) :
    (∀ before, before <+: ops →
        let j := (new.performAll before).value
        j.isPaused = true →
          j.context.outputs.highPressurePump = false ∧ j.context.frozen = true ∧ j.WorkStands) ↔
      ∀ before raw after, ops = before ++ .requestState raw :: after → ofRaw raw = resuming →
        (new.performAll before).value.isPaused = false := by
  obtain ⟨rfl, _⟩ := build_ok hbuild
  have hsettled := settled_ofSettings s delay
  have hthroughout := hsettled.throughout_iff
    (fun hsettled hstands op => hsettled.standsInPause_perform_iff hstands op)
    (standsInPause_ofSettings s delay) ops
  constructor
  · intro hstands before raw after hsplit hresuming
    have hkept := hthroughout.1 fun before hbefore hpaused =>
      let ⟨hoff, hfrozen, _⟩ := hstands before hbefore hpaused
      ⟨hoff, hfrozen⟩
    have hnot := hkept before _ after hsplit
    exact Bool.eq_false_iff.2 fun hpaused => hnot ⟨hresuming, hpaused⟩
  · intro hnone before hbefore j hpaused
    have hkept : j.StandsInPause := by
      refine hthroughout.2 ?_ before hbefore
      intro before op after hsplit hbreaks
      cases op with
      | requestState raw =>
        have hrunning := hnone before raw after hsplit hbreaks.1
        exact absurd hbreaks.2 (Bool.eq_false_iff.1 hrunning)
      | poll pins | tick panel | drive pins | command code | resume => exact hbreaks
    obtain ⟨hoff, hfrozen⟩ := hkept hpaused
    have hsettledAfter : j.Settled := hsettled.performAll before
    exact ⟨hoff, hfrozen, hsettledAfter.workStands hfrozen⟩

/-- The pause of a new cutter, which the request for `resuming` breaks. -/
theorem pause_broken_by_request :
    ¬∀ before, before <+: [.requestState 7, .requestState 8] →
      let j := ((ofSettings plainSettings 20).performAll before).value
      j.isPaused = true →
        j.context.outputs.highPressurePump = false ∧ j.context.frozen = true ∧ j.WorkStands := by
  have hbuild : (WaterJet.build plainSettings 20 (plainPins [])).value =
      .ok (ofSettings plainSettings 20) := rfl
  intro hstands
  have hunpaused := (pause_stands_iff hbuild _).1 hstands [.requestState 7] 8 [] rfl rfl
  exact absurd hunpaused (by decide)

/-- A request for `resuming` leaves the cutter paused, with the head on and
    useful work going on. -/
theorem paused_with_head_on :
    ¬∀ (j : WaterJet) (past : Trace), Reached j past → j.isPaused = true →
      j.context.outputs.highPressurePump = false ∧ j.context.frozen = true := by
  intro hstands
  have hoff :=
    (hstands (plain [.requestState 7, .requestState 8]) _ (reached_plain _) (by decide)).1
  exact absurd hoff (by decide)

end WaterJet

end Interlock
