import Interlock.Proofs.Number.Order
import Interlock.Proofs.Timer.Operation
import Interlock.Switch.Bank

namespace Interlock

namespace Arming

@[simp] theorem isExplicit_disarm (a : Arming) : a.disarm.isExplicit = a.isExplicit := by
  unfold disarm
  split_ifs <;> rfl

theorem isArmed_disarm {a : Arming} (hexplicit : a.isExplicit = true) :
    a.disarm.isArmed = false := by
  unfold disarm canDisarm
  split_ifs <;> simp_all

end Arming

namespace SwitchPolicy

/-- A policy under which the timer does not fire again by itself. -/
def FiresOnce (p : SwitchPolicy) : Prop :=
  p.shot = .single ∨ p.trigger.isEdge = true

instance (p : SwitchPolicy) : Decidable p.FiresOnce :=
  inferInstanceAs (Decidable (p.shot = .single ∨ p.trigger.isEdge = true))

/-- Firing starts a new count exactly if the timer is to fire again, and disarms
    it where commands control the arming otherwise. -/
theorem conclude_reached {p : SwitchPolicy} {act : Actuation} {before after : Arming} {writes : Nat}
    (hconclude : p.conclude .reached before writes = (act, after)) :
    act.restartCounter = decide (¬p.FiresOnce) ∧
      act.next = (if p.shot = .single then .dormant
        else if p.trigger.isEdge then .reached else .below) ∧
      act.disarmed = (decide p.FiresOnce && before.canDisarm) ∧
      after = if p.FiresOnce then before.disarm else before := by
  have hdisarm : (if before.canDisarm = true then before.disarm else before) = before.disarm := by
    unfold Arming.disarm
    split_ifs <;> rfl
  obtain ⟨trigger, shot, inverted, bindings⟩ := p
  obtain ⟨rfl, rfl⟩ := Prod.ext_iff.1 hconclude
  cases shot <;> cases trigger <;> simp [conclude, FiresOnce, TriggerMode.isEdge, hdisarm]

/-- Firing once starts no new count, and disarms the timer where commands
    control the arming. -/
theorem FiresOnce.conclude_reached {p : SwitchPolicy} (honce : p.FiresOnce) {act : Actuation}
    {before after : Arming} {writes : Nat}
    (hconclude : p.conclude .reached before writes = (act, after)) :
    act.restartCounter = false ∧ act.next = (if p.shot = .single then .dormant else .reached) ∧
      after = before.disarm := by
  obtain ⟨hrestart, hnext, -, hafter⟩ := SwitchPolicy.conclude_reached hconclude
  refine ⟨by simp [hrestart, honce], ?_, by rw [hafter, if_pos honce]⟩
  rw [hnext]
  split_ifs with hsingle hedge
  · rfl
  · rfl
  · exact absurd honce (not_or.2 ⟨hsingle, hedge⟩)

end SwitchPolicy

namespace SwitchTimer

/-- The events fire a timer at most as often as its budget allows, and arming it
    sets the budget to one. -/
def FiresWithin (name : String) : Nat → List Event → Prop
  | _, [] => True
  | budget, e :: rest =>
    if e = .armed name then FiresWithin name 1 rest
    else if e = .triggered name then 0 < budget ∧ FiresWithin name (budget - 1) rest
    else FiresWithin name budget rest

section Budget

variable {name : String} {budget : Nat}

/-- A larger budget allows as much. -/
theorem FiresWithin.mono {events : List Event} {larger : Nat} (hle : budget ≤ larger)
    (h : FiresWithin name budget events) : FiresWithin name larger events := by
  induction events generalizing budget larger with
  | nil => trivial
  | cons e rest ih =>
    unfold FiresWithin at h ⊢
    split_ifs at h ⊢
    · exact h
    · exact ⟨h.1.trans_le hle, ih (Nat.sub_le_sub_right hle 1) h.2⟩
    · exact ih hle h

/-- Until the next arming the events keep to the budget. -/
theorem FiresWithin.count_le {events later : List Event}
    (h : FiresWithin name budget (events ++ later)) (hquiet : .armed name ∉ events) :
    events.count (.triggered name) ≤ budget := by
  induction events generalizing budget with
  | nil => exact Nat.zero_le _
  | cons e rest ih =>
    obtain ⟨hne, hrest⟩ := not_or.1 (mt List.mem_cons.2 hquiet)
    rw [List.cons_append, FiresWithin, if_neg (Ne.symm hne)] at h
    split_ifs at h with hfires
    · have hcount := ih h.2 hrest
      rw [hfires, List.count_cons_self]
      omega
    · rw [List.count_cons_of_ne hfires]
      exact ih h hrest

/-- The budget never exceeds one once it did not, since an arming sets it to one
    and a shot takes one off. -/
theorem FiresWithin.of_append {events later : List Event} (hbudget : budget ≤ 1)
    (h : FiresWithin name budget (events ++ later)) : FiresWithin name 1 later := by
  induction events generalizing budget with
  | nil => exact h.mono hbudget
  | cons e rest ih =>
    rw [List.cons_append, FiresWithin] at h
    split_ifs at h
    · exact ih le_rfl h
    · exact ih ((Nat.sub_le _ _).trans hbudget) h.2
    · exact ih hbudget h

/-- Between two armings the timer fires at most once, as its budget is never
    more than one. -/
theorem FiresWithin.count_infix_le {events between : List Event} (hbudget : budget ≤ 1)
    (h : FiresWithin name budget events) (hbetween : between <:+: events)
    (hquiet : .armed name ∉ between) : between.count (.triggered name) ≤ 1 := by
  obtain ⟨before, later, rfl⟩ := hbetween
  rw [List.append_assoc] at h
  exact (h.of_append hbudget).count_le hquiet

end Budget

/-- How often the timer may still fire: it has to be armed and below the
    threshold. -/
def shots (t : SwitchTimer) : Nat :=
  if t.arming.isArmed = true ∧ t.state = .below then 1 else 0

theorem shots_le_one (t : SwitchTimer) : t.shots ≤ 1 := by
  unfold shots
  split_ifs <;> decide

/-- The count stays within its range, and an armed timer stands above the
    threshold only as long as the count does. -/
structure Consistent (t : SwitchTimer) : Prop where
  elapsed_le : t.elapsed ≤ Counter.greatest
  side_eq : t.arming.isArmed = true → t.state = .reached →
    t.counter.startRequested = false ∧ t.side = .reached

theorem reaches_mono {t : SwitchTimer} {m n : Nat} (hle : m ≤ n) (h : t.reaches m = true) :
    t.reaches n = true :=
  Number.Single.le_ofNat_mono hle h

theorem side_eq_or (t : SwitchTimer) : t.side = .below ∨ t.side = .reached := by
  unfold side
  split_ifs <;> simp

theorem side_eq_reached_iff (t : SwitchTimer) : t.side = .reached ↔ t.reaches t.elapsed = true := by
  simp [side]

/-- An armed timer above the threshold stays there through another second, since
    its count does not go back. -/
theorem Consistent.side_counted {t : SwitchTimer} (h : t.Consistent)
    (harmed : t.arming.isArmed = true) (hstate : t.state = .reached) :
    t.counted.side = .reached := by
  obtain ⟨hkeeps, hside⟩ := h.side_eq harmed hstate
  rw [side_eq_reached_iff] at hside ⊢
  exact reaches_mono (t := t) (Counter.elapsed_le_tick false false h.elapsed_le hkeeps) hside

/-- Another second keeps the count within its range, and above the threshold if
    it was there. -/
theorem Consistent.counted {t : SwitchTimer} (h : t.Consistent) : t.counted.Consistent where
  elapsed_le := Counter.elapsed_tick_le false false h.elapsed_le
  side_eq harmed hstate :=
    ⟨Counter.startRequested_tick false false t.counter, h.side_counted harmed hstate⟩

/-- The only move is the one up over the threshold. -/
theorem Consistent.moves_up {t : SwitchTimer} (h : t.Consistent)
    (harmed : t.arming.isArmed = true) (hawake : t.state ≠ .dormant)
    (hmoves : t.state ≠ t.counted.side) : t.state = .below ∧ t.counted.side = .reached := by
  have hstate : t.state = .below := by
    cases hstate : t.state with
    | dormant => exact absurd hstate hawake
    | below => rfl
    | reached => exact absurd (hstate.trans (h.side_counted harmed hstate).symm) hmoves
  exact ⟨hstate,
    t.counted.side_eq_or.resolve_left fun hbelow => hmoves (hstate.trans hbelow.symm)⟩

/-- Every step keeps a timer consistent. Firing leaves an edge mode above the
    threshold with its count, and every other timer no longer there. -/
theorem Step.consistent {t u : SwitchTimer} {events : List Event} (hstep : Step t u events)
    (h : t.Consistent) : u.Consistent := by
  cases hstep with
  | ignored => exact h
  | armed explicit => exact ⟨h.elapsed_le, fun _ hstate => by simp [restart] at hstate⟩
  | disarmed explicit => exact ⟨h.elapsed_le, fun _ hstate => by simp at hstate⟩
  | counted armed awake => exact h.counted
  | @moved armed awake moves act arming writes concludes =>
    obtain ⟨-, hside⟩ := h.moves_up armed awake moves
    rw [hside] at concludes
    obtain ⟨hrestart, hnext, -, -⟩ := SwitchPolicy.conclude_reached concludes
    refine ⟨?_, fun _ hstate => ?_⟩
    · have helapsed : (t.counted.conclude act arming).elapsed = t.counted.elapsed := by
        unfold conclude elapsed
        split_ifs <;> rfl
      exact helapsed ▸ h.counted.elapsed_le
    · have honce : t.policy.FiresOnce := by
        have hreached : act.next = .reached := hstate
        rw [hnext] at hreached
        split_ifs at hreached with hsingle hedge
        exact .inr hedge
      have hcounter : (t.counted.conclude act arming).counter = t.counted.counter := by
        simp [conclude, hrestart, honce]
      rw [side_eq_reached_iff, elapsed, hcounter]
      exact ⟨Counter.startRequested_tick false false t.counter,
        t.counted.side_eq_reached_iff.1 hside⟩

/-- What a step of a timer that fires once fires comes off the shots. A shot
    takes the timer above its threshold or leaves it dormant, and in neither
    case is there another one left. -/
theorem Step.spend {t u : SwitchTimer} {events : List Event} (hstep : Step t u events)
    (honce : t.policy.FiresOnce) (h : t.Consistent) {later : List Event}
    (hlater : FiresWithin t.name u.shots later) :
    FiresWithin t.name t.shots (events ++ later) := by
  cases hstep with
  | ignored => exact hlater
  | armed explicit => simpa [FiresWithin] using hlater.mono (shots_le_one _)
  | disarmed explicit => simpa [FiresWithin] using hlater.mono (by simp [shots])
  | counted armed awake => exact hlater
  | @moved armed awake moves act arming writes concludes =>
    obtain ⟨hstate, hside⟩ := h.moves_up armed awake moves
    rw [hside] at concludes ⊢
    obtain ⟨-, hnext, -⟩ := honce.conclude_reached concludes
    have hspent : (t.counted.conclude act arming).shots = 0 := by
      refine if_neg fun hready => ?_
      have hbelow : act.next = .below := hready.2
      rw [hnext] at hbelow
      split_ifs at hbelow
    have hshot : t.shots = 1 := if_pos ⟨armed, hstate⟩
    rw [hspent] at hlater
    rw [hshot, if_pos rfl]
    split_ifs <;> simpa [FiresWithin] using hlater

/-- No step changes what the settings say. -/
theorem Step.settings {t u : SwitchTimer} {events : List Event} (hstep : Step t u events) :
    u.name = t.name ∧ u.policy = t.policy ∧ u.arming.isExplicit = t.arming.isExplicit := by
  cases hstep with
  | ignored => exact ⟨rfl, rfl, rfl⟩
  | armed explicit => exact ⟨rfl, rfl, rfl⟩
  | disarmed explicit => exact ⟨rfl, rfl, t.arming.isExplicit_disarm⟩
  | counted armed awake => exact ⟨rfl, rfl, rfl⟩
  | @moved armed awake moves act arming writes concludes =>
    refine ⟨rfl, rfl, ?_⟩
    obtain rfl := (Prod.ext_iff.1 concludes).2
    simp only [conclude, SwitchPolicy.conclude]
    split_ifs <;> simp

/-- No run changes what the settings say. -/
theorem settings_performAll (t : SwitchTimer) (ops : List Operation) :
    (t.performAll ops).value.name = t.name ∧ (t.performAll ops).value.policy = t.policy ∧
      (t.performAll ops).value.arming.isExplicit = t.arming.isExplicit := by
  induction ops generalizing t with
  | nil => exact ⟨rfl, rfl, rfl⟩
  | cons op ops ih =>
    obtain ⟨hname, hpolicy, hexplicit⟩ := (t.step_perform op).settings
    obtain ⟨hnames, hpolicies, hexplicits⟩ := ih (t.perform op).value
    exact ⟨hnames.trans hname, hpolicies.trans hpolicy, hexplicits.trans hexplicit⟩

/-- A run fires within the shots of the timer. The induction is on the
    operations, from the front, so that each step spends from the shots before
    it what the later ones may not. -/
theorem Consistent.firesWithin {t : SwitchTimer} (h : t.Consistent) (honce : t.policy.FiresOnce)
    (ops : List Operation) : FiresWithin t.name t.shots (t.performAll ops).trace.events := by
  induction ops generalizing t with
  | nil => trivial
  | cons op ops ih =>
    have hstep := t.step_perform op
    obtain ⟨hname, hpolicy, -⟩ := hstep.settings
    have hlater := ih (hstep.consistent h) (hpolicy ▸ honce)
    rw [hname] at hlater
    exact hstep.spend honce h hlater

/-- A timer begins with an empty count. -/
theorem consistent_ofSettings (s : TimerSettings) : (ofSettings s).Consistent := by
  unfold ofSettings
  dsimp only
  split
  · exact ⟨Nat.zero_le _, fun _ hstate => nomatch hstate⟩
  · exact ⟨Nat.zero_le _, fun _ hstate => nomatch hstate⟩

/-- Only a timer with an arm code reports that it was armed. -/
theorem Step.isExplicit_of_armed {t u : SwitchTimer} {events : List Event} (hstep : Step t u events)
    {name : String} (harmed : .armed name ∈ events) : t.arming.isExplicit = true := by
  cases hstep with
  | ignored => exact absurd harmed List.not_mem_nil
  | armed explicit => exact explicit
  | disarmed explicit => exact explicit
  | counted armed awake => exact absurd harmed List.not_mem_nil
  | moved armed awake moves concludes =>
    split_ifs at harmed <;> simp at harmed

theorem armed_not_mem {t : SwitchTimer} (himplicit : t.arming.isExplicit = false)
    (ops : List Operation) (name : String) : .armed name ∉ (t.performAll ops).trace.events := by
  induction ops generalizing t with
  | nil => exact List.not_mem_nil
  | cons op ops ih =>
    have hstep := t.step_perform op
    intro hmem
    obtain hnow | hlater := List.mem_append.1 hmem
    · simp [hstep.isExplicit_of_armed hnow] at himplicit
    · exact ih (hstep.settings.2.2.trans himplicit) hlater

/-- What a run from a disarmed timer on does, as long as nothing arms it. -/
structure RestsSince (t : SwitchTimer) (later : Traced SwitchTimer) : Prop where
  disarmed : later.value.arming.isArmed = false
  elapsed_eq : later.value.elapsed = t.elapsed
  dormant : t.state = .dormant → later.value.state = .dormant
  /-- No switch was written. -/
  switches : later.trace.switches = []
  /-- No menu was shown. -/
  panel : later.trace.panel = []
  /-- The next second does not depend on switches or panel, and no reading of a
      switch is reported. -/
  idle {σ π : Type} [SwitchAccess σ] [Panel π] (switches : σ) (panel : π) :
    later.value.tick switches panel = ⟨(later.value, switches, panel), {}⟩

theorem RestsSince.still {t : SwitchTimer} (hdisarmed : t.arming.isArmed = false) {trace : Trace}
    (hswitches : trace.switches = []) (hpanel : trace.panel = []) : RestsSince t ⟨t, trace⟩ :=
  ⟨hdisarmed, rfl, id, hswitches, hpanel, tick_idle (.inl hdisarmed)⟩

theorem rests_perform {t : SwitchTimer} (hdisarmed : t.arming.isArmed = false) (op : Operation)
    (hquiet : .armed t.name ∉ (t.perform op).trace.events) : RestsSince t (t.perform op) := by
  cases op with
  | tick switches panel =>
    rw [perform_tick, tick_idle (.inl hdisarmed)]
    exact .still hdisarmed rfl rfl
  | command code =>
    rw [perform_command] at hquiet ⊢
    unfold command at hquiet ⊢
    split_ifs with harms hdisarms hexplicit
    · simp [harms] at hquiet
    · exact .still hdisarmed rfl rfl
    · have hdisarm : t.arming.disarm.isArmed = false :=
        Arming.isArmed_disarm (by simpa using hexplicit)
      exact ⟨hdisarm, rfl, fun _ => rfl, rfl, rfl, tick_idle (.inl hdisarm)⟩
    · exact .still hdisarmed rfl rfl

theorem rests_performAll {t : SwitchTimer} (hdisarmed : t.arming.isArmed = false)
    (ops : List Operation) (hquiet : .armed t.name ∉ (t.performAll ops).trace.events) :
    RestsSince t (t.performAll ops) := by
  induction ops generalizing t with
  | nil => exact .still hdisarmed rfl rfl
  | cons op ops ih =>
    obtain ⟨hnow, hlater⟩ := not_or.1 (mt List.mem_append.2 hquiet)
    have hstep := rests_perform hdisarmed op hnow
    rw [← (t.step_perform op).settings.1] at hlater
    have hrest := ih hstep.disarmed hlater
    exact
      { disarmed := hrest.disarmed
        elapsed_eq := hrest.elapsed_eq.trans hstep.elapsed_eq
        dormant := fun hstate => hrest.dormant (hstep.dormant hstate)
        switches := by simp [performAll, hstep.switches, hrest.switches]
        panel := by simp [performAll, hstep.panel, hrest.panel]
        idle := hrest.idle }

/-- A timer that commands arm is disarmed by firing, which leaves a single shot
    dormant. -/
theorem Step.disarms_of_triggered {t u : SwitchTimer} {events : List Event}
    (hstep : Step t u events)
    (honce : t.policy.FiresOnce) (hexplicit : t.arming.isExplicit = true)
    (hfires : .triggered t.name ∈ events) :
    u.arming.isArmed = false ∧ (t.policy.shot = .single → u.state = .dormant) := by
  cases hstep with
  | ignored => exact absurd hfires List.not_mem_nil
  | armed explicit => simp at hfires
  | disarmed explicit => simp at hfires
  | counted armed awake => exact absurd hfires List.not_mem_nil
  | @moved armed awake moves act arming writes concludes =>
    have hside : t.counted.side = .reached := by
      by_contra hside
      rw [if_neg hside] at hfires
      split_ifs at hfires <;> simp at hfires
    rw [hside] at concludes
    obtain ⟨-, hnext, rfl⟩ := honce.conclude_reached concludes
    refine ⟨Arming.isArmed_disarm hexplicit, fun hsingle => ?_⟩
    rw [if_pos hsingle] at hnext
    exact hnext

/-- A single shot or an edge mode fires at most once for each arming. After
    firing the timer rests until it is armed again, a single shot dormant. A
    timer that is always armed fires at most once in its life. Switches may
    refuse at any second: the shot is then still to come. -/
theorem fires_once_per_arming {s : TimerSettings} {t : SwitchTimer}
    (hbuild : (build s).value = .ok t) (honce : t.policy.FiresOnce) :
    (t.arming.isExplicit = true → ∀ ops,
      (∀ between, between <:+: (t.performAll ops).trace.events → .armed t.name ∉ between →
        between.count (.triggered t.name) ≤ 1) ∧
      ∀ firing resting,
        let fired := (t.performAll ops).value.perform firing
        let later := fired.value.performAll resting
        .triggered t.name ∈ fired.trace.events → .armed t.name ∉ later.trace.events →
          RestsSince fired.value later ∧
            (t.policy.shot = .single → later.value.state = .dormant)) ∧
    (t.arming.isExplicit = false → ∀ ops,
      (t.performAll ops).trace.events.count (.triggered t.name) ≤ 1) := by
  have hconsistent : t.Consistent := build_ok hbuild ▸ consistent_ofSettings s
  refine ⟨fun hexplicit ops => ⟨fun between hbetween hquiet => ?_, ?_⟩, fun himplicit ops => ?_⟩
  · exact (hconsistent.firesWithin honce ops).count_infix_le t.shots_le_one hbetween hquiet
  · intro firing resting fired later hfires hquiet
    obtain ⟨hname, hpolicy, hexplicits⟩ := t.settings_performAll ops
    have hstep := (t.performAll ops).value.step_perform firing
    obtain ⟨hdisarmed, hdormant⟩ := hstep.disarms_of_triggered (hpolicy ▸ honce)
      (hexplicits.trans hexplicit) (hname ▸ hfires)
    have hrests : RestsSince fired.value later :=
      rests_performAll hdisarmed resting (by rwa [hstep.settings.1, hname])
    exact ⟨hrests, fun hsingle => hrests.dormant (hdormant (hpolicy ▸ hsingle))⟩
  · have hwithin := hconsistent.firesWithin honce ops
    rw [← List.append_nil (t.performAll ops).trace.events] at hwithin
    exact (hwithin.count_le (armed_not_mem himplicit ops t.name)).trans t.shots_le_one

/-- A single shot on the rising edge that starts a pump two seconds after its
    command. -/
def pumpSettings : TimerSettings where
  name := "pump"
  enable := true
  switches := [⟨"pump", true⟩]
  threshold := Number.Single.ofNat 2
  shot := "singleshot"
  trigger := "rising"
  armCode := 1410

/-- The pump is refused in the second of the threshold and starts in the next
    one. -/
theorem fires_once_per_arming_after_refusal :
    let bank := SwitchBank.ofNames ["pump"]
    let second : Operation := .tick bank ({} : StubPanel)
    let refused : Operation := .tick (bank.refuse "pump" false true) ({} : StubPanel)
    let waiting := ((ofSettings pumpSettings).performAll [.command 1410, second, refused]).value
    let fired := waiting.perform second
    waiting.side = .reached ∧ fired.trace.events = [.triggered "pump", .disarmed "pump"] ∧
      RestsSince fired.value (fired.value.performAll [second, .command 7, second]) := by
  intro bank second refused waiting fired
  refine ⟨by decide, by decide, ?_⟩
  have honce := fires_once_per_arming (s := pumpSettings) rfl (.inl rfl)
  exact ((honce.1 rfl [.command 1410, second, refused]).2 second [second, .command 7, second]
    (by decide) (by decide)).1

end SwitchTimer

end Interlock
