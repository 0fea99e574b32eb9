import Interlock.Proofs.Timer.Period

namespace Interlock

/-- The event tells that a timer was armed or that it was disarmed. -/
def Event.tellsArming : Event → Bool
  | .armed _ => true
  | .disarmed _ => true
  | _ => false

namespace SwitchPolicy

section Writes

variable {σ : Type} [SwitchAccess σ]

/-- A drive writes the targets of bound switches. -/
theorem exists_binding_of_drive {p : SwitchPolicy} {on : Bool} {switches : σ}
    {change : String × Bool} (hwritten : change ∈ (p.drive on switches).trace.switches) :
    ∃ b ∈ p.bindings, change = (b.name, p.target on b) := by
  cases hpending : (p.pending on switches p.bindings).value with
  | error cause =>
    rw [(drive_of_refused_read hpending).2] at hwritten
    exact absurd hwritten List.not_mem_nil
  | ok kept =>
    obtain ⟨-, rfl⟩ := (p.pending_eq_ok_iff on switches p.bindings kept).1 hpending
    rw [(drive_of_read hpending).2] at hwritten
    have hdue := (isPrefix_switches_writeAll switches _).subset hwritten
    obtain ⟨b, hb, rfl⟩ := List.mem_map.1 (List.mem_filter.1 hdue).1
    exact ⟨b, hb, rfl⟩

end Writes

/-- The change gives a bound switch its state for a count that has reached the
    threshold. -/
def Fires (p : SwitchPolicy) (change : String × Bool) : Prop :=
  ∃ b ∈ p.bindings,
    change = (b.name, (b.onTrigger ^^ p.inverted ^^ (p.trigger == .falling)))

/-- A count that has reached the threshold asks for the state of the binding,
    inverted as the settings say and once more on a falling edge. -/
theorem target_turnsOn_reached (p : SwitchPolicy) (b : SwitchBinding) :
    p.target (p.trigger.turnsOn .reached) b =
      (b.onTrigger ^^ p.inverted ^^ (p.trigger == .falling)) := by
  unfold target
  cases p.trigger <;> cases b.onTrigger <;> cases p.inverted <;> rfl

/-- A policy that fires once leaves a single shot dormant, and an edge mode
    above the threshold. -/
theorem FiresOnce.next_eq_or {p : SwitchPolicy} (honce : p.FiresOnce) {act : Actuation}
    {before after : Arming} {writes : Nat}
    (hconclude : p.conclude .reached before writes = (act, after)) :
    act.next = .dormant ∨
      act.next = .reached ∧ p.shot = .multi ∧ p.trigger.isEdge = true := by
  obtain ⟨-, hnext, -⟩ := honce.conclude_reached hconclude
  cases hshot : p.shot with
  | single => exact .inl (by rw [hnext, if_pos hshot])
  | multi =>
    have hmulti : p.shot ≠ .single := by simp [hshot]
    exact .inr ⟨by rw [hnext, if_neg hmulti], rfl, honce.resolve_left hmulti⟩

end SwitchPolicy

namespace SwitchTimer

variable {t u : SwitchTimer} {past events : List Event}

/-- The last arming or disarming that the events tell. -/
def lastTold (events : List Event) : Option Event :=
  (events.filter Event.tellsArming).getLast?

/-- The events so far tell whether a timer that commands arm is armed, and its
    state is the one that goes with that. -/
structure Replays (t : SwitchTimer) (past : List Event) : Prop where
  isArmed_iff : t.arming.isArmed = true ↔ lastTold past = some (.armed t.name)
  below : t.arming.isArmed = true → t.state = .below
  resting : t.arming.isArmed = false →
    t.state = .dormant ∨
      t.state = .reached ∧ t.policy.shot = .multi ∧ t.policy.trigger.isEdge = true

/-- An armed timer of which the events told an arming last has to be below its
    threshold. -/
theorem Replays.of_armed (harmed : t.arming.isArmed = true)
    (htold : lastTold past = some (.armed t.name)) (hbelow : t.state = .below) :
    t.Replays past :=
  ⟨iff_of_true harmed htold, fun _ => hbelow, fun hoff => absurd (harmed.symm.trans hoff) nofun⟩

theorem Replays.of_disarmed (hoff : t.arming.isArmed = false)
    (htold : lastTold past ≠ some (.armed t.name))
    (hresting : t.state = .dormant ∨
      t.state = .reached ∧ t.policy.shot = .multi ∧ t.policy.trigger.isEdge = true) :
    t.Replays past :=
  have hnot : t.arming.isArmed ≠ true := by simp [hoff]
  ⟨iff_of_false hnot htold, fun harmed => absurd harmed hnot, fun _ => hresting⟩

/-- An armed timer only ever moves up over its threshold, since it stands below. -/
theorem Replays.side_counted (h : t.Replays past) (harmed : t.arming.isArmed = true)
    (hmoves : t.state ≠ t.counted.side) : t.counted.side = .reached := by
  rw [h.below harmed] at hmoves
  exact t.counted.side_eq_or.resolve_left (Ne.symm hmoves)

/-- Every step keeps that. Arming and disarming are told as they happen, whether
    a command or the firing of the timer itself brings them about, and an armed
    timer only moves by firing. -/
theorem Replays.step (h : t.Replays past) (hexplicit : t.arming.isExplicit = true)
    (hstep : Step t u events) : u.Replays (past ++ events) := by
  cases hstep with
  | ignored => rwa [List.append_nil]
  | armed explicit => exact .of_armed rfl (by simp [lastTold, Event.tellsArming, restart]) rfl
  | disarmed explicit =>
    exact .of_disarmed (Arming.isArmed_disarm explicit)
      (by simp [lastTold, Event.tellsArming]) (.inl rfl)
  | counted armed awake =>
    rw [List.append_nil]
    exact ⟨h.isArmed_iff, h.below, h.resting⟩
  | @moved armed awake moves act arming writes concludes =>
    have hside := h.side_counted armed moves
    rw [hside] at concludes ⊢
    obtain ⟨-, hnext, hdisarmed, rfl⟩ := SwitchPolicy.conclude_reached concludes
    rw [if_pos rfl]
    by_cases honce : t.policy.FiresOnce
    · have htells : act.disarmed = true := by
        simp [hdisarmed, honce, Arming.canDisarm, hexplicit, armed]
      rw [if_pos htells, if_pos honce]
      exact .of_disarmed (Arming.isArmed_disarm hexplicit)
        (by simp [lastTold, Event.tellsArming]) (honce.next_eq_or concludes)
    · have htells : act.disarmed = false := by simp [hdisarmed, honce]
      obtain ⟨hshot, hlevel⟩ := not_or.1 honce
      have htold : lastTold (past ++ [.triggered t.name]) = lastTold past := by
        simp [lastTold, Event.tellsArming]
      rw [htells, if_neg honce, if_neg Bool.false_ne_true, List.append_nil]
      exact .of_armed armed (htold.trans (h.isArmed_iff.1 armed))
        (by rw [conclude, hnext, if_neg hshot, if_neg hlevel])

theorem Replays.performAll (h : t.Replays past) (hexplicit : t.arming.isExplicit = true)
    (ops : List Operation) :
    (t.performAll ops).value.Replays (past ++ (t.performAll ops).trace.events) := by
  induction ops generalizing t past with
  | nil => rwa [performAll, Traced.trace_pure, List.append_nil]
  | cons op ops ih =>
    have hstep := t.step_perform op
    have hlater := ih (h.step hexplicit hstep) (hstep.settings.2.2.trans hexplicit)
    rwa [List.append_assoc] at hlater

/-- How a timer is armed depends on its command codes only. -/
theorem arming_ofSettings (s : TimerSettings) :
    (ofSettings s).arming = .ofCodes s.armCode s.disarmCode := by
  unfold ofSettings
  dsimp only
  split <;> rfl

theorem isArmed_ofSettings (s : TimerSettings) :
    (ofSettings s).arming.isArmed = !(ofSettings s).arming.isExplicit := by
  rw [arming_ofSettings]
  simp [Arming.ofCodes, Arming.isExplicit]

/-- A timer that commands arm is dormant in the beginning, and another one is
    below its threshold. -/
theorem state_ofSettings (s : TimerSettings) :
    (ofSettings s).state = if (ofSettings s).arming.isExplicit then .dormant else .below := by
  rw [arming_ofSettings]
  unfold ofSettings
  dsimp only
  split <;> rfl

/-- In the beginning nothing was told, and a timer that commands arm is not
    armed. -/
theorem replays_ofSettings {s : TimerSettings}
    (hexplicit : (ofSettings s).arming.isExplicit = true) : (ofSettings s).Replays [] :=
  .of_disarmed (by simp [isArmed_ofSettings, hexplicit]) nofun
    (.inl (by rw [state_ofSettings, if_pos hexplicit]))

/-- A timer without an arm code stays armed and tells neither. -/
theorem Step.silent (hstep : Step t u events) (himplicit : t.arming.isExplicit = false) :
    u.arming = t.arming ∧ events.filter Event.tellsArming = [] := by
  cases hstep with
  | ignored => exact ⟨rfl, rfl⟩
  | armed explicit => simp [explicit] at himplicit
  | disarmed explicit => simp [explicit] at himplicit
  | counted armed awake => exact ⟨rfl, rfl⟩
  | @moved armed awake moves act arming writes concludes =>
    have hkept : t.arming.canDisarm = false := by simp [Arming.canDisarm, himplicit]
    obtain ⟨rfl, rfl⟩ := Prod.ext_iff.1 concludes
    refine ⟨by simp [conclude, SwitchPolicy.conclude, hkept], ?_⟩
    split_ifs <;> simp_all [SwitchPolicy.conclude, Event.tellsArming]

theorem silent_performAll (himplicit : t.arming.isExplicit = false) (ops : List Operation) :
    (t.performAll ops).value.arming = t.arming ∧
      (t.performAll ops).trace.events.filter Event.tellsArming = [] := by
  induction ops generalizing t with
  | nil => exact ⟨rfl, rfl⟩
  | cons op ops ih =>
    obtain ⟨harming, hnow⟩ := (t.step_perform op).silent himplicit
    obtain ⟨harmings, hlater⟩ := ih (t := (t.perform op).value) (by rw [harming]; exact himplicit)
    refine ⟨harmings.trans harming, ?_⟩
    simp [performAll, hnow, hlater]

theorem switches_notify {π : Type} [Panel π] (t : SwitchTimer) (act : Actuation) (panel : π) :
    (t.notify act panel).trace.switches = [] := by
  unfold notify
  split <;> rfl

/-- A timer writes in a second what its policy asks for. -/
theorem switches_tick {σ π : Type} [SwitchAccess σ] [Panel π] (harmed : t.arming.isArmed = true)
    (hawake : t.state ≠ .dormant) (switches : σ) (panel : π) :
    (t.tick switches panel).trace.switches =
      (t.policy.apply t.state t.counted.side t.arming switches).trace.switches := by
  rw [tick_awake harmed hawake]
  simp only [Traced.trace_bind, Trace.switches_append]
  cases (t.policy.apply t.state t.counted.side t.arming switches).value.2 with
  | error cause => simp
  | ok acted => simp [report, switches_notify]

/-- A second writes the bound switches on the way up over the threshold only,
    since an armed timer does not come down on its own. -/
theorem Consistent.fires_tick (h : t.Consistent) {σ π : Type} [SwitchAccess σ] [Panel π]
    (switches : σ) (panel : π) :
    ∀ change ∈ (t.tick switches panel).trace.switches, t.policy.Fires change := by
  intro change hwritten
  obtain hidle | ⟨harmed, hawake⟩ := t.idle_or_awake
  · rw [tick_idle hidle] at hwritten
    exact absurd hwritten List.not_mem_nil
  · rw [switches_tick harmed hawake] at hwritten
    by_cases hstays : t.state = t.counted.side
    · rw [SwitchPolicy.apply, if_pos hstays] at hwritten
      exact absurd hwritten List.not_mem_nil
    · rw [(t.policy.apply_of_moves hstays harmed switches).2,
        (h.moves_up harmed hawake hstays).2] at hwritten
      obtain ⟨b, hb, rfl⟩ := SwitchPolicy.exists_binding_of_drive hwritten
      exact ⟨b, hb, by rw [SwitchPolicy.target_turnsOn_reached]⟩

theorem switches_command (t : SwitchTimer) (code : Nat) :
    (t.command code).trace.switches = [] := by
  unfold command
  split_ifs <;> rfl

/-- Every write of an operation gives its switch the state for a reached
    threshold, since commands write none. -/
theorem Consistent.fires_perform (h : t.Consistent) (op : Operation) :
    ∀ change ∈ (t.perform op).trace.switches, t.policy.Fires change := by
  cases op with
  | command code => simp [switches_command]
  | tick switches panel =>
    rw [perform_tick]
    exact h.fires_tick switches panel

theorem Consistent.fires_performAll (h : t.Consistent) (ops : List Operation) :
    ∀ change ∈ (t.performAll ops).trace.switches, t.policy.Fires change := by
  induction ops generalizing t with
  | nil => exact fun _ hwritten => absurd hwritten List.not_mem_nil
  | cons op ops ih =>
    intro change hwritten
    have hstep := t.step_perform op
    obtain hnow | hlater := List.mem_append.1 hwritten
    · exact h.fires_perform op change hnow
    · have hfires := ih (hstep.consistent h) change hlater
      rwa [hstep.settings.2.1] at hfires

/-- Whatever commands arrive and whichever accesses are refused: a timer that
    commands arm is armed exactly if the last of its events that tells an arming
    or a disarming tells an arming. Armed it stands below its threshold;
    disarmed it is dormant or, but only as a multi shot by an edge, above. A
    timer that is always armed tells neither. Every write gives its switch the
    state that goes with a count above the threshold. -/
theorem events_replay_arming {s : TimerSettings} {t : SwitchTimer}
    (hbuild : (build s).value = .ok t) (ops : List Operation) :
    let run := t.performAll ops
    (t.arming.isExplicit = true →
      (run.value.arming.isArmed = true ↔ lastTold run.trace.events = some (.armed t.name)) ∧
      (run.value.arming.isArmed = true → run.value.state = .below) ∧
      (run.value.arming.isArmed = false →
        run.value.state = .dormant ∨
          run.value.state = .reached ∧ t.policy.shot = .multi ∧ t.policy.trigger.isEdge = true)) ∧
    (t.arming.isExplicit = false →
      run.value.arming.isArmed = true ∧ run.trace.events.filter Event.tellsArming = []) ∧
    ∀ name on, (name, on) ∈ run.trace.switches →
      ∃ b ∈ t.policy.bindings,
        b.name = name ∧
          on = (b.onTrigger ^^ t.policy.inverted ^^ (t.policy.trigger == .falling)) := by
  intro run
  obtain rfl := build_ok hbuild
  obtain ⟨hname, hpolicy, -⟩ := (ofSettings s).settings_performAll ops
  refine ⟨fun hexplicit => ?_, fun himplicit => ?_, fun name on hwritten => ?_⟩
  · have hreplays : run.value.Replays run.trace.events :=
      (replays_ofSettings hexplicit).performAll hexplicit ops
    rw [← hname, ← hpolicy]
    exact ⟨hreplays.isArmed_iff, hreplays.below, hreplays.resting⟩
  · obtain ⟨harming, hsilent⟩ := silent_performAll himplicit ops
    refine ⟨(congrArg Arming.isArmed harming).trans ?_, hsilent⟩
    simp [isArmed_ofSettings, himplicit]
  · obtain ⟨b, hb, hchange⟩ := (consistent_ofSettings s).fires_performAll ops (name, on) hwritten
    obtain ⟨rfl, rfl⟩ := Prod.mk.inj hchange
    exact ⟨b, hb, rfl, rfl⟩

/-- A valve that is closed on a falling edge, whenever it was armed. -/
def closingSettings : TimerSettings :=
  { pumpSettings with shot := "multishot", trigger := "falling" }

/-- The valve is armed, closes a second late because a switch refuses, and then
    waits above its threshold. -/
theorem events_replay_arming_closing :
    let bank := (SwitchBank.ofNames ["pump"]).place "pump" true
    let second : Operation := .tick bank ({} : StubPanel)
    let refused : Operation := .tick (bank.refuse "pump" false true) ({} : StubPanel)
    let t := ofSettings closingSettings
    let run := t.performAll [.command 1410, second, refused, second]
    lastTold run.trace.events = some (.disarmed "pump") ∧ ¬run.value.arming.isArmed = true ∧
      run.value.state = .reached ∧
      ∃ b ∈ t.policy.bindings, b.name = "pump" ∧
        false = (b.onTrigger ^^ t.policy.inverted ^^ (t.policy.trigger == .falling)) := by
  intro bank second refused t run
  have htold : lastTold run.trace.events = some (.disarmed "pump") := by decide
  have hwritten : run.trace.switches = [("pump", false)] := by decide
  have hreached : run.value.state = .reached := by decide
  have hbuild : (build closingSettings).value = .ok t := rfl
  obtain ⟨hexplicit, -, hwrites⟩ :=
    events_replay_arming hbuild [.command 1410, second, refused, second]
  obtain ⟨hiff, -, -⟩ := hexplicit rfl
  have hpump := hwrites "pump" false (hwritten ▸ List.mem_singleton_self _)
  have hdisarmed : ¬run.value.arming.isArmed = true := by
    rw [hiff, htold]
    simp
  exact ⟨htold, hdisarmed, hreached, hpump⟩

end SwitchTimer

end Interlock
