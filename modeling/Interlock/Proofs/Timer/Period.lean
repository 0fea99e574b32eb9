import Interlock.Proofs.Switch.Refusal
import Interlock.Proofs.Timer.Once
import Mathlib.Order.Bounds.Defs

namespace Interlock

namespace Counter

/-- The next second of the counter is the one after the given number of seconds:
    it waits for its start, or it runs and has counted them. -/
def CountsOn (seconds : Nat) (c : Counter) : Prop :=
  c.startRequested = true ∧ seconds = 0 ∨
    c = { elapsed := min seconds greatest, running := true }

/-- The next second begins the count that waits for its start, or adds one to
    the count that runs. -/
theorem CountsOn.tick {seconds : Nat} {c : Counter} (h : c.CountsOn seconds) :
    c.tick false false = { elapsed := min (seconds + 1) greatest, running := true } := by
  obtain ⟨hstart, rfl⟩ | rfl := h
  · simp [Counter.tick, settle, count, hstart]
  · have hcapped : min (min seconds greatest + 1) greatest = min (seconds + 1) greatest := by
      omega
    simp [Counter.tick, settle, count, hcapped]

theorem CountsOn.next {seconds : Nat} {c : Counter} (h : c.CountsOn seconds) :
    (c.tick false false).CountsOn (seconds + 1) :=
  .inr h.tick

theorem countsOn_requestStart (c : Counter) : c.requestStart.CountsOn 0 :=
  .inl ⟨rfl, rfl⟩

end Counter

namespace SwitchPolicy

variable {σ : Type} [SwitchAccess σ]

/-- None of the writes is refused when they are made one after the other. -/
def Writable (switches : σ) : List (String × Bool) → Prop
  | [] => True
  | (name, on) :: rest =>
    ∃ after, SwitchAccess.write switches name on = .ok after ∧ Writable after rest

/-- The switches that are not read at their targets, each with its target. -/
def due (p : SwitchPolicy) (on : Bool) (switches : σ) (bindings : List SwitchBinding) :
    List (String × Bool) :=
  (bindings.map fun b => (b.name, p.target on b)).filter fun change =>
    (SwitchAccess.read switches change.1).toOption != some change.2

/-- No access is refused that turning the output on or off takes: all bound
    switches can be read, and those that are not at their targets can be
    written. -/
def Admits (p : SwitchPolicy) (on : Bool) (switches : σ) : Prop :=
  p.Readable switches ∧ Writable switches (p.due on switches p.bindings)

/-- The switches that have to change are found exactly if every bound switch can
    be read. -/
theorem pending_eq_ok_iff (p : SwitchPolicy) (on : Bool) (switches : σ)
    (bindings : List SwitchBinding) (kept : List (String × Bool)) :
    (p.pending on switches bindings).value = .ok kept ↔
      (∀ b ∈ bindings, ∃ current, SwitchAccess.read switches b.name = .ok current) ∧
        kept = p.due on switches bindings := by
  induction bindings generalizing kept with
  | nil => simp [pending, due, eq_comm]
  | cons b rest ih =>
    unfold pending
    cases hread : SwitchAccess.read switches b.name with
    | error cause => simp [hread]
    | ok current =>
      have hdue : p.due on switches (b :: rest) =
          (if current == p.target on b then [] else [(b.name, p.target on b)]) ++
            p.due on switches rest := by
        by_cases hat : current = p.target on b <;> simp [due, hread, hat, Except.toOption]
      rw [List.forall_mem_cons, hdue]
      cases hlater : (p.pending on switches rest).value with
      | error cause =>
        have hunreadable := fun hreadable =>
          (ih (p.due on switches rest)).2 ⟨hreadable, rfl⟩
        rw [hlater] at hunreadable
        simp only [hread, hlater, Except.map]
        refine iff_of_false nofun ?_
        rintro ⟨⟨_, hreadable⟩, _⟩
        exact nomatch hunreadable hreadable
      | ok later =>
        obtain ⟨hreadable, rfl⟩ := (ih later).1 hlater
        simp only [hlater, Except.map, Except.ok.injEq]
        exact ⟨fun hkept => ⟨⟨⟨current, hread⟩, hreadable⟩, hkept.symm⟩, fun hkept => hkept.2.symm⟩

/-- Writes go through exactly if none of them is refused when its turn comes. -/
theorem writeAll_eq_ok_iff (switches : σ) (pending : List (String × Bool)) :
    (writeAll switches pending).value.2 = .ok () ↔ Writable switches pending := by
  induction pending generalizing switches with
  | nil => simp [writeAll, Writable]
  | cons change rest ih =>
    unfold writeAll Writable
    cases hwrite : SwitchAccess.write switches change.1 change.2 with
    | error cause => simp
    | ok after => simpa using ih after

/-- The switches are driven to the end exactly if no access is refused: the
    reads come first, and the writes are those of the switches that are not at
    their targets. -/
theorem drive_eq_ok_iff (p : SwitchPolicy) (on : Bool) (switches : σ) :
    (∃ writes, (p.drive on switches).value.2 = .ok writes) ↔ p.Admits on switches := by
  have hreads := p.pending_eq_ok_iff on switches p.bindings
  unfold drive Admits Readable
  simp only [Traced.value_bind]
  cases hpending : (p.pending on switches p.bindings).value with
  | error cause =>
    have hunreadable := fun hreadable =>
      (hreads (p.due on switches p.bindings)).2 ⟨hreadable, rfl⟩
    rw [hpending] at hunreadable
    refine iff_of_false (fun ⟨_, hrefused⟩ => nomatch hrefused) fun hadmits => ?_
    exact nomatch hunreadable hadmits.1
  | ok kept =>
    obtain ⟨hreadable, rfl⟩ := (hreads kept).1 hpending
    rw [and_iff_right hreadable, ← writeAll_eq_ok_iff]
    dsimp only
    simp only [Traced.value_bind, Traced.value_pure]
    cases (writeAll switches (p.due on switches p.bindings)).value.2 with
    | error cause => simp [Except.map]
    | ok done => simp [Except.map]

/-- The action of an armed timer on a move concludes exactly if no access is
    refused. -/
theorem outcome_of_moves (p : SwitchPolicy) {source target : CountState} (hmoves : source ≠ target)
    {arming : Arming} (harmed : arming.isArmed = true) (switches : σ) :
    let outcome := (p.apply source target arming switches).value.2
    (p.Admits (p.trigger.turnsOn target) switches →
        ∃ writes, outcome = .ok (p.conclude target arming writes)) ∧
      (¬p.Admits (p.trigger.turnsOn target) switches → ∃ cause, outcome = .error cause) := by
  intro outcome
  have houtcome : outcome = ((p.drive (p.trigger.turnsOn target) switches).value.2).map
      (p.conclude target arming) :=
    congrArg Prod.snd (p.apply_of_moves hmoves harmed switches).1
  simp only [houtcome, ← drive_eq_ok_iff]
  cases (p.drive (p.trigger.turnsOn target) switches).value.2 with
  | error cause =>
    refine ⟨fun hdone => ?_, fun _ => ⟨cause, rfl⟩⟩
    obtain ⟨_, hdone⟩ := hdone
    cases hdone
  | ok writes => exact ⟨fun _ => ⟨writes, rfl⟩, fun hrefused => absurd ⟨writes, rfl⟩ hrefused⟩

/-- The policy of a multi shot by level. -/
structure Repeats (p : SwitchPolicy) : Prop where
  trigger_eq : p.trigger = .level
  shot_eq : p.shot = .multi

theorem Repeats.conclude_reached {p : SwitchPolicy} (hrepeats : p.Repeats) (arming : Arming)
    (writes : Nat) :
    p.conclude .reached arming writes =
      ({ next := .below, restartCounter := true, writes }, arming) := by
  simp [conclude, hrepeats.trigger_eq, hrepeats.shot_eq, TriggerMode.isEdge]

end SwitchPolicy

namespace SwitchTimer

/-- The seconds since a timer was armed or fired last, after one more operation. -/
def countOn (t : SwitchTimer) (seconds : Nat) (op : Operation) : Nat :=
  let told := (t.perform op).trace.events
  if .armed t.name ∈ told ∨ .triggered t.name ∈ told then 0
  else
    match op with
    | .command _ => seconds
    | @Operation.tick _ _ _ _ _ _ => seconds + 1

/-- The seconds that pass in a history from the last moment on at which the
    timer was armed or fired; without such a moment they add to those before. -/
def secondsSince (t : SwitchTimer) (seconds : Nat) : List Operation → Nat
  | [] => seconds
  | op :: ops => (t.perform op).value.secondsSince (t.countOn seconds op) ops

/-- A repeating timer is so many seconds into its period: if it is armed, it is
    below the threshold and counts on. -/
structure InPeriod (t : SwitchTimer) (seconds : Nat) : Prop where
  repeats : t.policy.Repeats
  counting : t.arming.isArmed = true → t.state = .below ∧ t.counter.CountsOn seconds

/-- The next second of the timer brings its count to the threshold. -/
def IsDue (t : SwitchTimer) (seconds : Nat) : Prop :=
  t.reaches (min (seconds + 1) Counter.greatest) = true

section Second

variable {σ π : Type} [SwitchAccess σ] [Panel π] {t : SwitchTimer} {seconds : Nat}

theorem InPeriod.elapsed_counted (h : t.InPeriod seconds) (harmed : t.arming.isArmed = true) :
    t.counted.elapsed = min (seconds + 1) Counter.greatest := by
  obtain ⟨_, hcounts⟩ := h.counting harmed
  exact congrArg Counter.elapsed hcounts.tick

theorem InPeriod.side_counted (h : t.InPeriod seconds) (harmed : t.arming.isArmed = true) :
    t.counted.side = .reached ↔ t.IsDue seconds := by
  rw [side_eq_reached_iff, h.elapsed_counted harmed]
  rfl

/-- A second that is due and in which no switch refuses fires: the count starts
    over. -/
theorem InPeriod.tick_fires (h : t.InPeriod seconds) (harmed : t.arming.isArmed = true)
    (hdue : t.IsDue seconds) {switches : σ} (hadmits : t.policy.Admits true switches) (panel : π) :
    (t.tick switches panel).value.1 =
        { t.counted with counter := t.counted.counter.requestStart } ∧
      (t.tick switches panel).trace.events = [.triggered t.name] := by
  obtain ⟨hbelow, _⟩ := h.counting harmed
  have hside := (h.side_counted harmed).2 hdue
  have hon : t.policy.trigger.turnsOn .reached = true := by rw [h.repeats.trigger_eq]; rfl
  have hmoves : CountState.below ≠ .reached := nofun
  obtain ⟨writes, houtcome⟩ :=
    (t.policy.outcome_of_moves hmoves harmed switches).1 (by rwa [hon])
  rw [tick_awake harmed (by rw [hbelow]; nofun), hside, hbelow]
  simp only [Traced.value_bind, Traced.trace_bind, Trace.events_append, houtcome,
    h.repeats.conclude_reached, (SwitchPolicy.onlySwitches_apply ..).events]
  refine ⟨?_, ?_⟩
  · simp only [conclude, Traced.value_pure, if_true, ← hbelow]
    rfl
  · simp [events_report, events_notify, hbelow]

/-- A second that is not due, or in which a switch refuses, only counts. The
    timer keeps its side of the threshold and reports nothing. -/
theorem InPeriod.tick_counts (h : t.InPeriod seconds) (harmed : t.arming.isArmed = true)
    {switches : σ} (hnot : ¬(t.IsDue seconds ∧ t.policy.Admits true switches)) (panel : π) :
    (t.tick switches panel).value.1 = t.counted ∧ (t.tick switches panel).trace.events = [] := by
  obtain ⟨hbelow, _⟩ := h.counting harmed
  rw [tick_awake harmed (by rw [hbelow]; nofun), hbelow]
  simp only [Traced.value_bind, Traced.trace_bind, Trace.events_append,
    (SwitchPolicy.onlySwitches_apply ..).events]
  by_cases hdue : t.IsDue seconds
  · have hside := (h.side_counted harmed).2 hdue
    have hon : t.policy.trigger.turnsOn .reached = true := by rw [h.repeats.trigger_eq]; rfl
    have hmoves : CountState.below ≠ .reached := nofun
    obtain ⟨cause, houtcome⟩ := (t.policy.outcome_of_moves hmoves harmed switches).2
      (by rw [hon]; exact fun hadmits => hnot ⟨hdue, hadmits⟩)
    rw [hside, houtcome]
    exact ⟨rfl, rfl⟩
  · have hside : t.counted.side = .below :=
      t.counted.side_eq_or.resolve_right fun hreached => hdue ((h.side_counted harmed).1 hreached)
    have houtcome : (t.policy.apply .below t.counted.side t.arming switches).value.2 =
        .ok ({ next := .below }, t.arming) := by
      rw [hside]
      rfl
    rw [houtcome]
    refine ⟨?_, ?_⟩
    · simp only [conclude, ← hbelow]
      rfl
    · simp [events_report, events_notify, hside, hbelow]

end Second

/-- Of the commands, only the arm code starts the period over. -/
theorem countOn_command (t : SwitchTimer) (seconds code : Nat) :
    t.countOn seconds (.command code) = if t.arming.armCode = some code then 0 else seconds := by
  unfold countOn
  rw [perform_command]
  dsimp only
  unfold command
  split_ifs <;> simp_all

/-- Every operation keeps a repeating timer in its period. A second that fires
    begins the next period, the arm code begins it over, and a disarmed timer
    waits for that. -/
theorem InPeriod.perform {t : SwitchTimer} {seconds : Nat} (h : t.InPeriod seconds)
    (op : Operation) : (t.perform op).value.InPeriod (t.countOn seconds op) := by
  obtain ⟨_, hpolicy, _⟩ := (t.step_perform op).settings
  refine ⟨hpolicy.symm ▸ h.repeats, fun harmedAfter => ?_⟩
  cases op with
  | command code =>
    rw [countOn_command]
    rw [perform_command] at harmedAfter ⊢
    dsimp only at harmedAfter ⊢
    unfold command at harmedAfter ⊢
    split_ifs at harmedAfter ⊢ with harms hdisarms himplicit
    · exact ⟨rfl, Counter.countsOn_requestStart _⟩
    · exact h.counting harmedAfter
    · have hdisarmed := Arming.isArmed_disarm (a := t.arming) (by simpa using himplicit)
      exact absurd harmedAfter (by simp [hdisarmed])
    · exact h.counting harmedAfter
  | tick switches panel =>
    unfold countOn
    rw [perform_tick] at harmedAfter ⊢
    dsimp only at harmedAfter ⊢
    by_cases harmed : t.arming.isArmed = true
    · obtain ⟨hbelow, hcounts⟩ := h.counting harmed
      by_cases hfires : t.IsDue seconds ∧ t.policy.Admits true switches
      · obtain ⟨hvalue, hevents⟩ := h.tick_fires harmed hfires.1 hfires.2 panel
        rw [hvalue, hevents]
        simpa using ⟨hbelow, Counter.countsOn_requestStart _⟩
      · obtain ⟨hvalue, hevents⟩ := h.tick_counts harmed hfires panel
        rw [hvalue, hevents]
        simpa using ⟨hbelow, hcounts.next⟩
    · rw [tick_idle (.inl (by simpa using harmed))] at harmedAfter
      exact absurd harmedAfter harmed

theorem InPeriod.performAll {t : SwitchTimer} {seconds : Nat} (h : t.InPeriod seconds)
    (ops : List Operation) : (t.performAll ops).value.InPeriod (t.secondsSince seconds ops) := by
  induction ops generalizing t seconds with
  | nil => exact h
  | cons op ops ih => exact ih (h.perform op)

/-- A timer is built at the beginning of a period. -/
theorem inPeriod_ofSettings {s : TimerSettings} (hrepeats : (ofSettings s).policy.Repeats) :
    (ofSettings s).InPeriod 0 := by
  refine ⟨hrepeats, ?_⟩
  unfold ofSettings
  dsimp only
  split
  · rename_i hexplicit
    intro harmed
    simp only [Arming.ofCodes, Option.isNone_iff_eq_none] at harmed
    simp [Arming.isExplicit, Arming.ofCodes, harmed] at hexplicit
  · exact fun _ => ⟨rfl, Counter.countsOn_requestStart _⟩

theorem Step.threshold {t u : SwitchTimer} {events : List Event} (hstep : Step t u events) :
    u.threshold = t.threshold := by
  cases hstep <;> rfl

theorem reaches_perform (t : SwitchTimer) (op : Operation) :
    (t.perform op).value.reaches = t.reaches := by
  unfold reaches
  rw [(t.step_perform op).threshold]

theorem reaches_performAll (t : SwitchTimer) (ops : List Operation) :
    (t.performAll ops).value.reaches = t.reaches := by
  induction ops generalizing t with
  | nil => rfl
  | cons op ops ih => exact (ih (t.perform op).value).trans (t.reaches_perform op)

/-- The operation is a second. -/
def IsSecond : Operation → Prop
  | .command _ => False
  | @Operation.tick _ _ _ _ _ _ => True

/-- A switch refuses an access that a second makes. Switches are only accessed
    at the threshold. -/
def IsRefused (t : SwitchTimer) : Operation → Prop
  | .command _ => False
  | @Operation.tick _ _ _ _ switches _ =>
    t.counted.side = .reached ∧ ¬t.policy.Admits true switches

section Periods

variable {t : SwitchTimer} {seconds : Nat}

/-- A second of an armed timer, in which no switch refuses: a due timer fires
    once and begins the next period, and another one is a second further in its
    period. -/
theorem InPeriod.second (h : t.InPeriod seconds) (harmed : t.arming.isArmed = true)
    {op : Operation} (hsecond : IsSecond op) (hadmitted : ¬t.IsRefused op) :
    let done := t.perform op
    done.value.arming.isArmed = true ∧
      (t.IsDue seconds → done.value.InPeriod 0 ∧ done.trace.events = [.triggered t.name]) ∧
      (¬t.IsDue seconds → done.value.InPeriod (seconds + 1) ∧ done.trace.events = []) := by
  intro done
  have hnext : done.value.InPeriod (t.countOn seconds op) := h.perform op
  cases op with
  | command code => exact absurd hsecond id
  | tick switches panel =>
    have hdone : done = ⟨(t.tick switches panel).value.1, (t.tick switches panel).trace⟩ :=
      perform_tick t switches panel
    unfold countOn at hnext
    by_cases hdue : t.IsDue seconds
    · have hadmits : t.policy.Admits true switches := by
        by_contra hrefused
        exact hadmitted ⟨(h.side_counted harmed).2 hdue, hrefused⟩
      obtain ⟨hvalue, hevents⟩ := h.tick_fires harmed hdue hadmits panel
      have hzero : done.value.InPeriod 0 := by simpa [hevents] using hnext
      rw [hdone] at hzero ⊢
      exact ⟨by rw [hvalue]; exact harmed, fun _ => ⟨hzero, hevents⟩, fun hnot => absurd hdue hnot⟩
    · have hnot : ¬(t.IsDue seconds ∧ t.policy.Admits true switches) := fun hnow => hdue hnow.1
      obtain ⟨hvalue, hevents⟩ := h.tick_counts harmed hnot panel
      have hcounts : done.value.InPeriod (seconds + 1) := by simpa [hevents] using hnext
      rw [hdone] at hcounts ⊢
      exact ⟨by rw [hvalue]; exact harmed, fun hnow => absurd hnow hdue,
        fun _ => ⟨hcounts, hevents⟩⟩

/-- The shots of a history are those of its first operation and those of the
    rest. -/
theorem count_performAll_cons (t : SwitchTimer) (op : Operation) (ops : List Operation)
    (e : Event) :
    (t.performAll (op :: ops)).trace.events.count e =
      (t.perform op).trace.events.count e +
        ((t.perform op).value.performAll ops).trace.events.count e := by
  simp [performAll]

/-- As long as no switch refuses, an armed timer fires once in each period. The
    seconds that have passed of the current period come off the first one. The
    induction is on the seconds, which fill the current period or begin the next
    one. -/
theorem InPeriod.count_triggered (h : t.InPeriod seconds) (harmed : t.arming.isArmed = true)
    {period : Nat} (hperiod : IsLeast {m | 1 ≤ m ∧ t.reaches m = true} period)
    (hrange : period ≤ Counter.greatest) (hwithin : seconds < period) {ops : List Operation}
    (hseconds : ∀ op ∈ ops, IsSecond op)
    (hadmitted : ∀ before op after, ops = before ++ op :: after →
      ¬(t.performAll before).value.IsRefused op) :
    (t.performAll ops).trace.events.count (.triggered t.name) =
      (seconds + ops.length) / period := by
  induction ops generalizing t seconds with
  | nil => exact (Nat.div_eq_of_lt hwithin).symm
  | cons op ops ih =>
    obtain ⟨hsecond, hlaterSeconds⟩ := List.forall_mem_cons.1 hseconds
    obtain ⟨harmedAfter, hfires, hcounts⟩ := h.second harmed hsecond (hadmitted [] op ops rfl)
    have hname := (t.step_perform op).settings.1
    have hlater {passed : Nat} (hin : (t.perform op).value.InPeriod passed)
        (hleft : passed < period) :
        ((t.perform op).value.performAll ops).trace.events.count (.triggered t.name) =
          (passed + ops.length) / period := by
      rw [← hname]
      refine ih hin harmedAfter (by rwa [reaches_perform]) hleft hlaterSeconds ?_
      intro before next after hsplit
      exact hadmitted (op :: before) next after (by rw [hsplit]; rfl)
    have hcapped : min (seconds + 1) Counter.greatest = seconds + 1 := by omega
    have hdue : t.IsDue seconds ↔ seconds + 1 = period := by
      unfold IsDue
      rw [hcapped]
      constructor
      · intro hreached
        have hleast := hperiod.2 ⟨Nat.le_add_left 1 seconds, hreached⟩
        omega
      · rintro rfl
        exact hperiod.1.2
    rw [count_performAll_cons, List.length_cons]
    by_cases hlast : seconds + 1 = period
    · obtain ⟨hin, hevents⟩ := hfires (hdue.2 hlast)
      have hnew : seconds + (ops.length + 1) = ops.length + period := by omega
      rw [hevents, hlater hin (by omega), hnew, Nat.add_div_right _ (by omega)]
      simp [Nat.add_comm]
    · obtain ⟨hin, hevents⟩ := hcounts fun hnow => hlast (hdue.1 hnow)
      have hmore : seconds + 1 + ops.length = seconds + (ops.length + 1) := by omega
      rw [hevents, hlater hin (by omega), hmore]
      simp

/-- A timer whose threshold lies beyond every count never fires. No second is
    due, so that no switch is accessed and nothing can be refused. -/
theorem InPeriod.count_triggered_of_unreached (h : t.InPeriod seconds)
    (harmed : t.arming.isArmed = true)
    (hnever : ∀ m, 1 ≤ m → m ≤ Counter.greatest → t.reaches m = false) {ops : List Operation}
    (hseconds : ∀ op ∈ ops, IsSecond op) :
    (t.performAll ops).trace.events.count (.triggered t.name) = 0 := by
  induction ops generalizing t seconds with
  | nil => rfl
  | cons op ops ih =>
    obtain ⟨hsecond, hlaterSeconds⟩ := List.forall_mem_cons.1 hseconds
    have hgreatest : 1 ≤ Counter.greatest := by decide
    have hnotDue : ¬t.IsDue seconds := by
      unfold IsDue
      rw [hnever _ (by omega) (Nat.min_le_right ..)]
      nofun
    have hadmitted : ¬t.IsRefused op := by
      cases op with
      | command code => exact id
      | tick switches panel =>
        exact fun hrefused => hnotDue ((h.side_counted harmed).1 hrefused.1)
    obtain ⟨harmedAfter, _, hcounts⟩ := h.second harmed hsecond hadmitted
    obtain ⟨hin, hevents⟩ := hcounts hnotDue
    have hname := (t.step_perform op).settings.1
    have hlater := ih hin harmedAfter (by rwa [reaches_perform]) hlaterSeconds
    rw [count_performAll_cons, hevents, ← hname, hlater]
    rfl

end Periods

/-- A repeating timer, whatever its history, once it is armed. Every second
    counts, and it fires exactly if the count since the timer was built, armed
    or fired last has reached the threshold and no switch refuses to be read or
    written; it leaves the timer armed and below its threshold. From the
    beginning of a count on, as long as no switch refuses, the timer fires once
    in as many seconds as it takes to reach the threshold, and never if no count
    reaches it. A count that reaches the threshold stays there as it grows. -/
theorem fires_every_period {s : TimerSettings} {t : SwitchTimer} (hbuild : (build s).value = .ok t)
    (hlevel : t.policy.trigger = .level) (hmulti : t.policy.shot = .multi) (ops : List Operation)
    (harmed : (t.performAll ops).value.arming.isArmed = true) :
    let now := (t.performAll ops).value
    let seconds := t.secondsSince 0 ops
    (∀ {σ π : Type} [SwitchAccess σ] [Panel π] (switches : σ) (panel : π),
      let done := now.tick switches panel
      let fires := t.reaches (min (seconds + 1) Counter.greatest) = true ∧
        t.policy.Admits true switches
      (fires → done.trace.events = [.triggered t.name]) ∧
        (¬fires → done.trace.events = [] ∧
          done.value.1.elapsed = min (seconds + 1) Counter.greatest) ∧
        done.value.1.state = .below ∧ done.value.1.state = now.state ∧
        done.value.1.arming = now.arming) ∧
    (seconds = 0 → ∀ later : List Operation, (∀ op ∈ later, IsSecond op) →
      (∀ before op after, later = before ++ op :: after →
        ¬(now.performAll before).value.IsRefused op) →
      let shots := (now.performAll later).trace.events.count (.triggered t.name)
      (∀ period ≤ Counter.greatest, IsLeast {m | 1 ≤ m ∧ t.reaches m = true} period →
          shots = later.length / period) ∧
        ((∀ m, 1 ≤ m → m ≤ Counter.greatest → t.reaches m = false) → shots = 0)) ∧
    (∀ m n, m ≤ n → t.reaches m = true → t.reaches n = true) := by
  intro now seconds
  obtain rfl := build_ok hbuild
  have hin : now.InPeriod seconds :=
    (inPeriod_ofSettings ⟨hlevel, hmulti⟩).performAll ops
  obtain ⟨hname, hpolicy, _⟩ := (ofSettings s).settings_performAll ops
  have hreaches : now.reaches = (ofSettings s).reaches := reaches_performAll _ ops
  obtain ⟨hbelow, _⟩ := hin.counting harmed
  refine ⟨fun switches panel => ?_, fun hstart later hseconds hadmitted => ?_,
    fun _ _ hle hreached => reaches_mono hle hreached⟩
  · intro done fires
    have hfires : fires ↔ now.IsDue seconds ∧ now.policy.Admits true switches := by
      unfold IsDue
      rw [hreaches, hpolicy]
    by_cases hnow : fires
    · obtain ⟨hvalue, hevents⟩ :=
        hin.tick_fires harmed (hfires.1 hnow).1 (hfires.1 hnow).2 panel
      refine ⟨fun _ => hname ▸ hevents, fun hnot => absurd hnow hnot, ?_⟩
      rw [hvalue]
      exact ⟨hbelow, rfl, rfl⟩
    · obtain ⟨hvalue, hevents⟩ := hin.tick_counts harmed (mt hfires.2 hnow) panel
      refine ⟨fun hnot => absurd hnot hnow, fun _ => ⟨hevents, ?_⟩, ?_⟩
      · rw [hvalue]
        exact hin.elapsed_counted harmed
      · rw [hvalue]
        exact ⟨hbelow, rfl, rfl⟩
  · rw [hstart] at hin
    rw [← hname, ← hreaches]
    refine ⟨fun period hrange hperiod => ?_, fun hnever => ?_⟩
    · have hshots := hin.count_triggered harmed hperiod hrange hperiod.1.1 hseconds hadmitted
      rwa [Nat.zero_add] at hshots
    · exact hin.count_triggered_of_unreached harmed hnever hseconds

/-- A pump that is switched on every two seconds for good. -/
def dosingSettings : TimerSettings :=
  { pumpSettings with shot := "multishot", trigger := "level", armCode := 0 }

/-- A count of two seconds is the first one that reaches the threshold. -/
theorem isLeast_dosingSettings :
    IsLeast {m | 1 ≤ m ∧ (ofSettings dosingSettings).reaches m = true} 2 := by
  refine ⟨⟨by decide, by decide⟩, fun m ⟨hpos, hreached⟩ => ?_⟩
  by_contra hless
  obtain rfl : m = 1 := by omega
  exact absurd hreached (by decide)

/-- The pump is refused at the end of its first period, so that the shot comes a
    second late. Seven seconds without a refusal make three shots. -/
theorem fires_every_period_of_two :
    let bank := SwitchBank.ofNames ["pump"]
    let second : Operation := .tick bank ({} : StubPanel)
    let refused : Operation := .tick (bank.refuse "pump" false true) ({} : StubPanel)
    let t := ofSettings dosingSettings
    (t.performAll [second, refused]).trace.events = [] ∧
      ((t.performAll [second, refused]).value.tick bank ({} : StubPanel)).trace.events =
        [.triggered "pump"] ∧
      (t.performAll (List.replicate 7 second)).trace.events.count (.triggered "pump") = 3 := by
  intro bank second refused t
  have hadmits : t.policy.Admits true bank := by
    refine ⟨fun b hb => ?_, ?_⟩
    · obtain rfl := List.mem_singleton.1 hb
      exact ⟨false, rfl⟩
    · exact ⟨bank.place "pump" true, rfl, trivial⟩
  have hbuild : (build dosingSettings).value = .ok t := rfl
  have hlate :=
    (fires_every_period hbuild rfl rfl [second, refused] (by decide)).1 bank ({} : StubPanel)
  have hperiods := (fires_every_period hbuild rfl rfl [] (by decide)).2.1
  have hpolicy (before : List Operation) : (t.performAll before).value.policy = t.policy :=
    (t.settings_performAll before).2.1
  obtain ⟨hshots, _⟩ := hperiods rfl (List.replicate 7 second)
    (fun op hop => List.eq_of_mem_replicate hop ▸ trivial) fun before op after hsplit hrefused => by
      have hop : op ∈ List.replicate 7 second := by simp [hsplit]
      obtain rfl := List.eq_of_mem_replicate hop
      exact hrefused.2 (hpolicy before ▸ hadmits)
  have hseven := hshots 2 (by decide) isLeast_dosingSettings
  rw [List.length_replicate] at hseven
  exact ⟨by decide, hlate.1 ⟨by decide, hadmits⟩, hseven⟩

end SwitchTimer

end Interlock
