import Interlock.Module.SwitchTimer
import Mathlib.Tactic.SplitIfs

namespace Interlock

namespace Counter

variable (held rivalStarts : Bool) {c : Counter}

/-- A count stops at its greatest value. -/
theorem elapsed_count_le (h : c.elapsed ≤ greatest) : (c.count held).elapsed ≤ greatest := by
  unfold count
  split
  · exact Nat.min_le_right ..
  · exact h

/-- Counting a second never takes one back. -/
theorem elapsed_le_count (h : c.elapsed ≤ greatest) : c.elapsed ≤ (c.count held).elapsed := by
  unfold count
  split
  · exact Nat.le_min.2 ⟨Nat.le_succ _, h⟩
  · exact Nat.le_refl _

theorem elapsed_settle (hkeeps : c.startRequested = false) :
    (c.settle rivalStarts).elapsed = c.elapsed := by
  unfold settle
  split_ifs <;> simp_all

theorem startRequested_tick (c : Counter) :
    (c.tick held rivalStarts).startRequested = false := by
  unfold tick settle count
  split_ifs <;> simp_all

/-- A second keeps the count within its range. -/
theorem elapsed_tick_le (h : c.elapsed ≤ greatest) :
    (c.tick held rivalStarts).elapsed ≤ greatest := by
  refine elapsed_count_le held ?_
  unfold settle
  split_ifs
  · exact Nat.zero_le _
  · exact h
  · exact h

theorem elapsed_le_tick (h : c.elapsed ≤ greatest) (hkeeps : c.startRequested = false) :
    c.elapsed ≤ (c.tick held rivalStarts).elapsed := by
  have hsettled := elapsed_settle rivalStarts hkeeps
  exact hsettled ▸ elapsed_le_count held (hsettled ▸ h)

end Counter

/-- Nothing was done to the outside but accesses to switches, and what they
    write to the log. -/
structure Trace.OnlySwitches (t : Trace) : Prop where
  events : t.events = []
  sent : t.sent = []
  panel : t.panel = []
  pins : t.pins = []

theorem Trace.OnlySwitches.append {s t : Trace} (hs : s.OnlySwitches) (ht : t.OnlySwitches) :
    (s ++ t).OnlySwitches where
  events := by simp [hs.events, ht.events]
  sent := by simp [hs.sent, ht.sent]
  panel := by simp [hs.panel, ht.panel]
  pins := by simp [hs.pins, ht.pins]

namespace SwitchPolicy

variable {σ : Type} [SwitchAccess σ] (p : SwitchPolicy) (switches : σ)

/-- Reading the bound switches is all that looking for changes does. -/
theorem onlySwitches_pending (on : Bool) (bindings : List SwitchBinding) :
    (p.pending on switches bindings).trace.OnlySwitches := by
  induction bindings with
  | nil => exact ⟨rfl, rfl, rfl, rfl⟩
  | cons b rest ih =>
    unfold pending
    dsimp only
    split
    · exact ⟨rfl, rfl, rfl, rfl⟩
    · exact .append ⟨rfl, rfl, rfl, rfl⟩ ih

omit p in
/-- Writes do nothing else to the outside. -/
theorem onlySwitches_writeAll (changes : List (String × Bool)) :
    (writeAll switches changes).trace.OnlySwitches := by
  induction changes generalizing switches with
  | nil => exact ⟨rfl, rfl, rfl, rfl⟩
  | cons change rest ih =>
    unfold writeAll
    dsimp only
    split
    · exact ⟨rfl, rfl, rfl, rfl⟩
    · exact .append ⟨rfl, rfl, rfl, rfl⟩ (ih _)

theorem onlySwitches_drive (on : Bool) : (p.drive on switches).trace.OnlySwitches := by
  unfold drive
  refine .append (p.onlySwitches_pending switches on p.bindings) ?_
  dsimp only
  split
  · exact ⟨rfl, rfl, rfl, rfl⟩
  · exact .append (onlySwitches_writeAll switches _) ⟨rfl, rfl, rfl, rfl⟩

/-- The action of a policy drives the switches, or does nothing. -/
theorem onlySwitches_apply (source target : CountState) (arming : Arming) :
    (p.apply source target arming switches).trace.OnlySwitches := by
  unfold apply
  split_ifs
  · exact ⟨rfl, rfl, rfl, rfl⟩
  · exact .append (p.onlySwitches_drive switches _) ⟨rfl, rfl, rfl, rfl⟩
  · exact ⟨rfl, rfl, rfl, rfl⟩

/-- An armed timer stays where it is, meets a refusal, or concludes its move. -/
theorem outcome_apply (source target : CountState) {arming : Arming}
    (harmed : arming.isArmed = true) :
    let outcome := (p.apply source target arming switches).value.2
    if source = target then outcome = .ok ({ next := source }, arming)
    else (∃ cause, outcome = .error cause) ∨
      ∃ writes, outcome = .ok (p.conclude target arming writes) := by
  unfold apply
  split_ifs with hstays
  · rfl
  · simp only [Traced.value_bind, Traced.value_pure]
    cases (p.drive (p.trigger.turnsOn target) switches).value.2 with
    | error cause => exact .inl ⟨cause, rfl⟩
    | ok writes => exact .inr ⟨writes, rfl⟩

end SwitchPolicy

namespace SwitchTimer

/-- What the surroundings may do with a timer. The switches are whatever they
    are at that moment, and any access to them may be refused. -/
inductive Operation : Type 1 where
  | command (code : Nat)
  | tick {σ π : Type} [SwitchAccess σ] [Panel π] (switches : σ) (panel : π)

/-- What becomes of a timer by an operation. -/
def perform (t : SwitchTimer) : Operation → Traced SwitchTimer
  | .command code => do
    let (t, _) ← t.command code
    return t
  | @Operation.tick _ _ _ _ switches panel => do
    let (t, _) ← t.tick switches panel
    return t

@[simp] theorem perform_command (t : SwitchTimer) (code : Nat) :
    t.perform (.command code) = ⟨(t.command code).value.1, (t.command code).trace⟩ := by
  rw [← (t.command code).trace.append_empty]
  rfl

@[simp] theorem perform_tick {σ π : Type} [SwitchAccess σ] [Panel π] (t : SwitchTimer)
    (switches : σ) (panel : π) :
    t.perform (.tick switches panel) =
      ⟨(t.tick switches panel).value.1, (t.tick switches panel).trace⟩ := by
  rw [← (t.tick switches panel).trace.append_empty]
  rfl

/-- What becomes of it by several operations, one after the other. -/
def performAll (t : SwitchTimer) : List Operation → Traced SwitchTimer
  | [] => pure t
  | op :: ops => do
    let t ← t.perform op
    t.performAll ops

theorem build_ok {s : TimerSettings} {t : SwitchTimer} (hbuild : (build s).value = .ok t) :
    t = ofSettings s := by
  unfold build at hbuild
  split_ifs at hbuild
  exact (Except.ok.inj hbuild).symm

/-- The timer with one more second, before it acts on the count. -/
def counted (t : SwitchTimer) : SwitchTimer :=
  { t with counter := t.counter.tick false false }

@[simp] theorem name_counted (t : SwitchTimer) : t.counted.name = t.name := rfl

@[simp] theorem state_counted (t : SwitchTimer) : t.counted.state = t.state := rfl

/-- The side of the threshold that the count is on. -/
def side (t : SwitchTimer) : CountState :=
  if t.reaches t.elapsed then .reached else .below

/-- What an operation can do to a timer, with the events that it reports. -/
inductive Step (t : SwitchTimer) : SwitchTimer → List Event → Prop where
  | ignored : Step t t []
  | armed (explicit : t.arming.isExplicit = true) :
    Step t { t.restart with arming := t.arming.arm } [.armed t.name]
  | disarmed (explicit : t.arming.isExplicit = true) :
    Step t { t with arming := t.arming.disarm, state := .dormant, counter := t.counter.requestStop }
      [.disarmed t.name]
  /-- The count stays on its side of the threshold, or a switch refuses. -/
  | counted (armed : t.arming.isArmed = true) (awake : t.state ≠ .dormant) :
    Step t t.counted []
  /-- The count passes the threshold. -/
  | moved (armed : t.arming.isArmed = true) (awake : t.state ≠ .dormant)
    (moves : t.state ≠ t.counted.side) {act : Actuation} {arming : Arming} {writes : Nat}
    (concludes : t.policy.conclude t.counted.side t.arming writes = (act, arming)) :
    Step t (t.counted.conclude act arming)
      ((if t.counted.side = .reached then [.triggered t.name] else []) ++
        if act.disarmed then [.disarmed t.name] else [])

/-- A move over the threshold is reported as a shot, and the disarming that may
    go with it. -/
theorem events_report (t : SwitchTimer) (target : CountState) (act : Actuation) :
    (t.report target act).trace.events =
      (if t.state ≠ target ∧ target = .reached then [.triggered t.name] else []) ++
        if act.disarmed then [.disarmed t.name] else [] := by
  simp [report]

theorem events_notify {π : Type} [Panel π] (t : SwitchTimer) (act : Actuation) (panel : π) :
    (t.notify act panel).trace.events = [] := by
  unfold notify
  split <;> rfl

/-- A command arms or disarms the timer, or is ignored. -/
theorem step_command (t : SwitchTimer) (code : Nat) :
    Step t (t.command code).value.1 (t.command code).trace.events := by
  unfold command
  split_ifs with harms hdisarms hexplicit
  · exact .armed (by simp [Arming.isExplicit, harms])
  · exact .ignored
  · exact .disarmed (by simpa using hexplicit)
  · exact .ignored

theorem idle_or_awake (t : SwitchTimer) :
    (t.arming.isArmed = false ∨ t.state = .dormant) ∨
      t.arming.isArmed = true ∧ t.state ≠ .dormant := by
  by_cases hidle : t.arming.isArmed = false ∨ t.state = .dormant
  · exact .inl hidle
  · exact .inr (by simpa using hidle)

/-- A timer that is disarmed or dormant lets a second pass without looking at
    switches or panel. -/
theorem tick_idle {σ π : Type} [SwitchAccess σ] [Panel π] {t : SwitchTimer}
    (h : t.arming.isArmed = false ∨ t.state = .dormant) (switches : σ) (panel : π) :
    t.tick switches panel = ⟨(t, switches, panel), {}⟩ := by
  unfold tick
  rw [if_pos (by simpa using h)]
  rfl

theorem tick_awake {σ π : Type} [SwitchAccess σ] [Panel π] {t : SwitchTimer}
    (harmed : t.arming.isArmed = true) (hawake : t.state ≠ .dormant) (switches : σ) (panel : π) :
    t.tick switches panel = (do
      let (switches, outcome) ← t.policy.apply t.state t.counted.side t.arming switches
      match outcome with
      | .error _ => return (t.counted, switches, panel)
      | .ok (act, arming) =>
        t.counted.report t.counted.side act
        let panel ← t.counted.notify act panel
        return (t.counted.conclude act arming, switches, panel)) := by
  unfold tick
  rw [if_neg (by simp [harmed, hawake])]
  rfl

/-- A second leads to one of the steps. One that is armed and awake counts, and
    acts on the side of the threshold that its count comes to. -/
theorem step_tick {σ π : Type} [SwitchAccess σ] [Panel π] (t : SwitchTimer) (switches : σ)
    (panel : π) : Step t (t.tick switches panel).value.1 (t.tick switches panel).trace.events := by
  obtain hidle | ⟨harmed, hawake⟩ := t.idle_or_awake
  · rw [tick_idle hidle]
    exact .ignored
  · have houtcome := t.policy.outcome_apply switches t.state t.counted.side harmed
    rw [tick_awake harmed hawake]
    simp only [Traced.value_bind, Traced.trace_bind, Trace.events_append,
      (SwitchPolicy.onlySwitches_apply ..).events, List.nil_append]
    dsimp only at houtcome
    split_ifs at houtcome with hstays
    · rw [houtcome]
      have hcounted : t.counted.conclude { next := t.state } t.arming = t.counted := rfl
      simpa [events_report, events_notify, ← hstays, hcounted] using Step.counted harmed hawake
    · obtain ⟨cause, hrefused⟩ | ⟨writes, hconcludes⟩ := houtcome
      · rw [hrefused]
        exact .counted harmed hawake
      · rcases hconclude : t.policy.conclude t.counted.side t.arming writes with ⟨act, arming⟩
        rw [hconcludes, hconclude]
        simpa [events_report, events_notify, hstays] using
          Step.moved harmed hawake hstays hconclude

theorem step_perform (t : SwitchTimer) (op : Operation) :
    Step t (t.perform op).value (t.perform op).trace.events := by
  cases op with
  | command code => simpa using t.step_command code
  | tick switches panel => simpa using t.step_tick switches panel

end SwitchTimer

end Interlock
