import Interlock.Proofs.Alarm.Panel

namespace Interlock

open Interlock.Menu

/-- A fault at one moment: the panel that it is raised on, and whether the
    operator has resumed since the moment before. The panel need not be the one
    that was left behind. -/
structure Sighting : Type 1 where
  {π : Type}
  [isPanel : Panel π]
  fault : LevelFault
  panel : π
  resumed : Bool := false

namespace Sighting

attribute [instance] isPanel

/-- The menu is not the one on the panel, neither before nor after the fault is
    indicated. Both are asked for since a panel may change its menu as the
    indicator is lit. -/
structure OffPanel (s : Sighting) (menu : String) : Prop where
  before : (Panel.currentMenu s.panel).map trimDir ≠ some (trimDir menu)
  indicated :
    (Panel.currentMenu (Panel.setFaultIndicator true s.panel)).map trimDir ≠ some (trimDir menu)

end Sighting

namespace Escalator

/-- The escalator faces a fault, behind a resume if there was one. -/
def face (e : Escalator) (menu : String) (s : Sighting) : Traced Escalator := do
  let e := if s.resumed then e.resume else e
  let (e, _) ← e.raise s.fault menu s.panel
  return e

/-- The fault is raised once more in each of the following seconds. -/
def persist (e : Escalator) (menu : String) : List Sighting → Traced Escalator
  | [] => pure e
  | s :: later => do
    let e ← e.tick.face menu s
    e.persist menu later

/-- The fault is raised, and once more in each of the following seconds. -/
def watch (e : Escalator) (menu : String) (first : Sighting) (later : List Sighting) :
    Traced Escalator := do
  let e ← e.face menu first
  e.persist menu later

/-- No menu was shown yet, or more than the delay has passed since one was. -/
def isDue (e : Escalator) : Bool :=
  e.sinceShown.elim true (e.delay < ·)

section Second

variable {e : Escalator} {menu : String} {s : Sighting}

/-- Nothing is on screen off the panel. Lighting the indicator is the one thing
    that raising does before it looks at the menu, and `OffPanel` covers both
    outcomes. -/
theorem onScreen_of_offPanel (e : Escalator) (hoff : s.OffPanel menu) :
    e.onScreen menu s.panel = false := by
  unfold onScreen indicate
  split
  · exact decide_eq_false hoff.before
  · exact decide_eq_false hoff.indicated

/-- Off the panel a menu is shown exactly if it is due. For an overfull tank
    this fails, as its menu also pushes that of another fault aside. -/
theorem displays_of_offPanel (e : Escalator) (hoff : s.OffPanel menu)
    (hother : s.fault ≠ .levelTooHigh) : e.displays s.fault menu s.panel = e.isDue := by
  simp [displays, e.onScreen_of_offPanel hoff, mayShow, hother, isDue]

/-- What raising a fault does if its menu is off the panel. -/
structure Faced (e : Escalator) (menu : String) (resumed : Bool) (done : Traced Escalator) :
    Prop where
  paused : done.value.paused = true
  delay_eq : done.value.delay = e.delay
  sinceShown_eq : done.value.sinceShown = if e.isDue then some 0 else e.sinceShown
  shown_eq : done.trace.panel.count (.showMenu menu) = if e.isDue then 1 else 0
  sent_eq : done.trace.sent = if e.paused && !resumed then [] else [suspendCommand]

/-- Raising a fault off the panel does what `Faced` says. The escalator may be
    paused or not: only what is sent depends on that. -/
theorem raise_faced (e : Escalator) (hoff : s.OffPanel menu) (hother : s.fault ≠ .levelTooHigh) :
    let raised := e.raise s.fault menu s.panel
    e.Faced menu false ⟨raised.value.1, raised.trace⟩ := by
  intro raised
  obtain ⟨-, hvalue, hcalls, -⟩ := e.raise_display s.fault menu s.panel
  rw [e.displays_of_offPanel hoff hother] at hvalue hcalls
  refine ⟨?_, ?_, ?_, ?_, ?_⟩
  · rw [hvalue]
  · rw [hvalue]
  · rw [hvalue]
  · have hlighting : (e.lighting true).count (.showMenu menu) = 0 := by
      unfold lighting
      split <;> rfl
    rw [hcalls, List.count_append, hlighting, Nat.zero_add]
    cases e.isDue <;> simp
  · simpa using (e.raise_spec s.fault menu s.panel).2.2.2.1

/-- Facing a fault does what `Faced` says, whether the operator resumed before
    it or not. A resume changes no more than what is sent. -/
theorem face_spec (e : Escalator) (hoff : s.OffPanel menu) (hother : s.fault ≠ .levelTooHigh) :
    e.Faced menu s.resumed (e.face menu s) := by
  have hface (now : Escalator) :
      (do let (now, _) ← now.raise s.fault menu s.panel
          return now : Traced Escalator) =
        ⟨(now.raise s.fault menu s.panel).value.1, (now.raise s.fault menu s.panel).trace⟩ := by
    rw [← (now.raise s.fault menu s.panel).trace.append_empty]
    rfl
  unfold face
  cases s.resumed with
  | false => exact hface e ▸ e.raise_faced hoff hother
  | true =>
    -- A resume does not touch the time since a menu was shown.
    have hresumed := e.resume.raise_faced hoff hother
    rw [if_pos rfl, hface]
    exact
      { paused := hresumed.paused
        delay_eq := hresumed.delay_eq
        sinceShown_eq := hresumed.sinceShown_eq
        shown_eq := hresumed.shown_eq
        sent_eq := by simpa [resume] using hresumed.sent_eq }

/-- A raised fault leaves the seconds since a menu was shown within the delay,
    whether it shows its menu or not. -/
theorem Faced.exists_seconds {resumed : Bool} {done : Traced Escalator}
    (h : e.Faced menu resumed done) :
    ∃ passed ≤ e.delay, done.value.sinceShown = some passed ∧ (e.isDue = true → passed = 0) ∧
      (e.isDue = false → e.sinceShown = some passed) := by
  have hnext := h.sinceShown_eq
  cases hdue : e.isDue with
  | true =>
    rw [if_pos hdue] at hnext
    exact ⟨0, Nat.zero_le _, hnext, fun _ => rfl, nofun⟩
  | false =>
    rw [hdue, if_neg nofun] at hnext
    cases hsince : e.sinceShown with
    | none => simp [isDue, hsince] at hdue
    | some seconds =>
      exact ⟨seconds, by simpa [isDue, hsince] using hdue, hnext.trans hsince, nofun, fun _ => rfl⟩

/-- A second later the menu is due exactly if the delay has passed. The delay
    has to be below the greatest count, since seconds that are stuck there would
    leave the menu due for ever. -/
theorem tick_spec {seconds : Nat} (hrange : e.delay < greatest)
    (hsince : e.sinceShown = some seconds)
    (hwithin : seconds ≤ e.delay) :
    e.tick.sinceShown = some (seconds + 1) ∧ e.tick.isDue = decide (seconds = e.delay) := by
  have hticked : e.tick.sinceShown = some (seconds + 1) := by
    simp only [tick, hsince, Option.map_some, Option.some.injEq]
    omega
  refine ⟨hticked, ?_⟩
  have hdelay : e.tick.delay = e.delay := rfl
  rw [isDue, hticked, hdelay, Option.elim_some, decide_eq_decide]
  omega

end Second

section Seconds

variable {e : Escalator} {menu : String} {first : Sighting} {later : List Sighting}

/-- Up to its delay after a menu was shown, an escalator shows the menu of a
    fault that stays once in every `delay + 1` seconds: the second in which it
    is shown starts the count over. The seconds that have passed come off the
    first time. The machine is paused already, so that it is suspended again
    only behind a resume. -/
theorem persist_spec {seconds : Nat} (hrange : e.delay < greatest) (hpaused : e.paused = true)
    (hsince : e.sinceShown = some seconds) (hwithin : seconds ≤ e.delay)
    (hoff : ∀ s ∈ later, s.OffPanel menu) (hother : ∀ s ∈ later, s.fault ≠ .levelTooHigh) :
    (e.persist menu later).trace.panel.count (.showMenu menu) =
        (seconds + later.length) / (e.delay + 1) ∧
      (e.persist menu later).trace.sent =
        List.replicate (later.countP (·.resumed)) suspendCommand := by
  induction later generalizing e seconds with
  | nil => exact ⟨(Nat.div_eq_of_lt (Nat.lt_succ_of_le hwithin)).symm, rfl⟩
  | cons s later ih =>
    obtain ⟨hoffNow, hoffLater⟩ := List.forall_mem_cons.1 hoff
    obtain ⟨hotherNow, hotherLater⟩ := List.forall_mem_cons.1 hother
    obtain ⟨hticked, hdue⟩ := tick_spec hrange hsince hwithin
    obtain ⟨hpausedNext, hdelay, hnext, hshown, hsent⟩ := e.tick.face_spec hoffNow hotherNow
    have hpausedTick : e.tick.paused = true := hpaused
    rw [hticked, hdue] at hnext
    rw [hdue] at hshown
    rw [hpausedTick, Bool.true_and] at hsent
    have hdelayNext : (e.tick.face menu s).value.delay = e.delay := hdelay
    have hlater {passed : Nat} (hsinceNext : (e.tick.face menu s).value.sinceShown = some passed)
        (hwithinNext : passed ≤ e.delay) :=
      ih (hdelayNext ▸ hrange) hpausedNext hsinceNext (hdelayNext ▸ hwithinNext) hoffLater
        hotherLater
    rw [persist, Traced.trace_bind, Trace.panel_append, Trace.sent_append, List.count_append,
      List.length_cons, List.countP_cons, hshown, hsent]
    rw [hdelayNext] at hlater
    by_cases hlast : seconds = e.delay
    · obtain ⟨hcount, hcommands⟩ := hlater (by simpa [hlast] using hnext) (Nat.zero_le _)
      have hperiod : seconds + (later.length + 1) = 0 + later.length + (e.delay + 1) := by omega
      rw [hcount, hcommands, hperiod, Nat.add_div_right _ (Nat.succ_pos _)]
      refine ⟨by simp [hlast, Nat.add_comm], ?_⟩
      cases s.resumed <;> simp [List.replicate_succ]
    · obtain ⟨hcount, hcommands⟩ := hlater (by simpa [hlast] using hnext) (by omega)
      have hfurther : seconds + (later.length + 1) = seconds + 1 + later.length := by omega
      rw [hcount, hcommands, hfurther]
      refine ⟨by simp [hlast], ?_⟩
      cases s.resumed <;> simp [List.replicate_succ]

/-- A fault other than an overfull tank is raised, and once more in each of the
    following seconds, with its menu off the panel. If the menu is due at first,
    as it is for a new escalator, it is shown at once and then once in every
    `delay + 1` seconds; otherwise the seconds since it was shown last count for
    the first time. The machine is suspended by the first fault unless it is
    paused, and after that only by the first fault behind each resume. -/
theorem redisplay_cadence (hrange : e.delay < greatest)
    (hoff : ∀ s ∈ first :: later, s.OffPanel menu)
    (hother : ∀ s ∈ first :: later, s.fault ≠ .levelTooHigh) :
    let run := e.watch menu first later
    let shown := run.trace.panel.count (.showMenu menu)
    (e.isDue = true → shown = 1 + later.length / (e.delay + 1)) ∧
      (∀ seconds, e.sinceShown = some seconds → seconds ≤ e.delay →
        shown = (seconds + later.length) / (e.delay + 1)) ∧
      run.trace.sent = (if e.paused && !first.resumed then [] else [suspendCommand]) ++
        List.replicate (later.countP (·.resumed)) suspendCommand := by
  intro run shown
  obtain ⟨hoffNow, hoffLater⟩ := List.forall_mem_cons.1 hoff
  obtain ⟨hotherNow, hotherLater⟩ := List.forall_mem_cons.1 hother
  have hfaced := e.face_spec hoffNow hotherNow
  have hdelay := hfaced.delay_eq
  obtain ⟨passed, hwithin, hpassed, hrestarts, hgoesOn⟩ := hfaced.exists_seconds
  obtain ⟨hcount, hcommands⟩ :=
    persist_spec (hdelay ▸ hrange) hfaced.paused hpassed (hdelay ▸ hwithin) hoffLater hotherLater
  have hsplit : shown = (e.face menu first).trace.panel.count (.showMenu menu) +
      ((e.face menu first).value.persist menu later).trace.panel.count (.showMenu menu) :=
    List.count_append
  rw [hfaced.shown_eq, hcount, hdelay] at hsplit
  refine ⟨fun hdue => ?_, fun seconds hsince hearly => ?_, ?_⟩
  · rw [hsplit, if_pos hdue, hrestarts hdue, Nat.zero_add]
  · have hnotDue : e.isDue = false := by simpa [isDue, hsince] using hearly
    have hsame : seconds = passed := Option.some.inj (hsince.symm.trans (hgoesOn hnotDue))
    rw [hsplit, hnotDue, if_neg nofun, hsame, Nat.zero_add]
  · rw [← hfaced.sent_eq, ← hcommands]
    rfl

end Seconds

/-- A tank without water for 42 seconds, whose menu the operator leaves at once
    each time. -/
theorem redisplay_cadence_lowWater :
    let e : Escalator := { owner := "cutting_water_tank", delay := 20 }
    let dry : Sighting := { fault := .lowWater, panel := ({} : StubPanel) }
    let run := e.watch "/sd/menu/low" dry (List.replicate 42 dry)
    run.trace.panel.count (.showMenu "/sd/menu/low") = 3 ∧ run.trace.sent = [suspendCommand] := by
  intro e dry run
  have hdry {P : Sighting → Prop} (hnow : P dry) : ∀ s ∈ dry :: List.replicate 42 dry, P s := by
    rw [← List.replicate_succ]
    exact fun s hs => List.eq_of_mem_replicate hs ▸ hnow
  have hoff : dry.OffPanel "/sd/menu/low" := ⟨nofun, nofun⟩
  have hrange : e.delay < greatest := by decide
  obtain ⟨hshown, -, hsent⟩ := redisplay_cadence hrange (hdry hoff) (hdry nofun)
  have hresumed : (List.replicate 42 dry).countP (·.resumed) = 0 := by simp [dry]
  refine ⟨?_, ?_⟩
  · have hdelay : e.delay = 20 := rfl
    rw [hshown rfl, List.length_replicate, hdelay]
  · rw [hsent, hresumed]
    rfl

end Escalator

end Interlock
