import Interlock.Proofs.Timer.Operation
import Interlock.Switch.Bank

namespace Interlock

/-- Switches whose states can be told. A read that is not refused tells the
    state, and a write that is not refused sets its switch and no other. Which
    accesses are refused is left open. -/
class SwitchStates (σ : Type) [SwitchAccess σ] where
  state? : σ → String → Option Bool
  state_of_read {switches : σ} {name : String} {on : Bool} :
    SwitchAccess.read switches name = .ok on → state? switches name = some on
  state_of_write {switches after : σ} {name : String} {on : Bool} :
    SwitchAccess.write switches name on = .ok after →
      ∀ other, state? after other = if other = name then some on else state? switches other

namespace SwitchBank

theorem isSome_of_contains {α : Type} {r : Registry α} {name : String}
    (hcontains : r.contains name = true) : (r.find? name).isSome = true := by
  obtain ⟨entry, hmem, hname⟩ := List.any_eq_true.1 hcontains
  rw [Registry.find?, Option.isSome_map, List.find?_isSome]
  exact ⟨entry, hmem, hname⟩

instance : SwitchStates SwitchBank where
  state? b name := b.states.find? name
  state_of_read := by
    intro b name on hread
    change b.read name = .ok on at hread
    unfold read at hread
    split at hread
    · cases hread
    · split at hread
      · rename_i hfound
        rw [hfound, Except.ok.inj hread]
      · cases hread
  state_of_write := by
    intro b after name on hwrite other
    change b.write name on = .ok after at hwrite
    unfold write at hwrite
    split at hwrite
    · cases hwrite
    · rename_i htaken
      obtain rfl := Except.ok.inj hwrite
      rw [Registry.find?_modify]
      by_cases hother : other = name
      · subst hother
        have hbound : b.states.contains other = true := by simp_all
        have hsome := isSome_of_contains hbound
        obtain ⟨current, hcurrent⟩ := Option.isSome_iff_exists.1 hsome
        simp [hcurrent]
      · simp [hother]

end SwitchBank

open SwitchStates

namespace SwitchPolicy

variable {σ : Type} [SwitchAccess σ]

/-- None of the bound switches refuses to be read. -/
def Readable (p : SwitchPolicy) (switches : σ) : Prop :=
  ∀ b ∈ p.bindings, ∃ current, SwitchAccess.read switches b.name = .ok current

variable [SwitchStates σ]

/-- The bound switches that are not at their targets, each with its target. -/
def changes (p : SwitchPolicy) (on : Bool) (switches : σ) (bindings : List SwitchBinding) :
    List (String × Bool) :=
  (bindings.map fun b => (b.name, p.target on b)).filter fun change =>
    state? switches change.1 != some change.2

omit [SwitchStates σ] in
/-- A refused read is that of a bound switch. The switches are read in order, up
    to the first one that refuses. -/
theorem exists_refused_of_pending {p : SwitchPolicy} {on : Bool} {switches : σ}
    {bindings : List SwitchBinding} {cause : AccessFailure}
    (hpending : (p.pending on switches bindings).value = .error cause) :
    ∃ b ∈ bindings, SwitchAccess.read switches b.name = .error cause := by
  induction bindings with
  | nil => cases hpending
  | cons b rest ih =>
    unfold pending at hpending
    cases hread : SwitchAccess.read switches b.name with
    | error refused =>
      simp only [hread] at hpending
      exact ⟨b, List.mem_cons_self, by rw [hread, Except.error.inj hpending]⟩
    | ok current =>
      simp only [hread] at hpending
      cases hlater : (p.pending on switches rest).value with
      | ok later =>
        rw [hlater] at hpending
        cases hpending
      | error refused =>
        rw [hlater] at hpending
        cases hpending
        obtain ⟨refusing, hmem, hrefused⟩ := ih hlater
        exact ⟨refusing, List.mem_cons_of_mem _ hmem, hrefused⟩

/-- When no read is refused, all bound switches were read, and those that have
    to change are kept. -/
theorem pending_ok {p : SwitchPolicy} {on : Bool} {switches : σ} {bindings : List SwitchBinding}
    {kept : List (String × Bool)} (hpending : (p.pending on switches bindings).value = .ok kept) :
    (∀ b ∈ bindings, ∃ current, SwitchAccess.read switches b.name = .ok current) ∧
      kept = p.changes on switches bindings := by
  induction bindings generalizing kept with
  | nil =>
    cases hpending
    exact ⟨by simp, rfl⟩
  | cons b rest ih =>
    unfold pending at hpending
    cases hread : SwitchAccess.read switches b.name with
    | error cause =>
      simp only [hread] at hpending
      cases hpending
    | ok current =>
      simp only [hread] at hpending
      cases hlater : (p.pending on switches rest).value with
      | error cause =>
        rw [hlater] at hpending
        cases hpending
      | ok later =>
        obtain ⟨hreadable, rfl⟩ := ih hlater
        rw [hlater] at hpending
        cases hpending
        refine ⟨List.forall_mem_cons.2 ⟨⟨current, hread⟩, hreadable⟩, ?_⟩
        have hstate := state_of_read hread
        by_cases hat : current = p.target on b <;> simp [changes, hstate, hat]

omit [SwitchStates σ] in
/-- Writes are made in order, up to the first refused one, and the trace tells
    those that went through. -/
theorem isPrefix_switches_writeAll (switches : σ) (pending : List (String × Bool)) :
    (writeAll switches pending).trace.switches <+: pending := by
  induction pending generalizing switches with
  | nil => exact List.prefix_refl _
  | cons change rest ih =>
    unfold writeAll
    cases hwrite : SwitchAccess.write switches change.1 change.2 with
    | error cause => exact List.nil_prefix
    | ok after => simpa using ih after

omit [SwitchStates σ] in
/-- A write goes through exactly if the first one does. -/
theorem writeAll_ne_nil_iff (switches : σ) (pending : List (String × Bool)) :
    (writeAll switches pending).trace.switches ≠ [] ↔
      ∃ change rest after, pending = change :: rest ∧
        SwitchAccess.write switches change.1 change.2 = .ok after := by
  cases pending with
  | nil => simp [writeAll]
  | cons change rest =>
    unfold writeAll
    cases hwrite : SwitchAccess.write switches change.1 change.2 with
    | error cause => simp [hwrite]
    | ok after => simp [hwrite]

/-- A switch ends in a state that a write has set it to, and in its old one if
    none did. -/
theorem state_writeAll (switches : σ) (pending : List (String × Bool)) (name : String) :
    let done := writeAll switches pending
    (∃ on, (name, on) ∈ done.trace.switches ∧ state? done.value.1 name = some on) ∨
      (∀ on, (name, on) ∉ done.trace.switches) ∧
        state? done.value.1 name = state? switches name := by
  intro done
  simp only [done]
  induction pending generalizing switches with
  | nil => exact .inr ⟨by simp [writeAll], rfl⟩
  | cons change rest ih =>
    unfold writeAll
    cases hwrite : SwitchAccess.write switches change.1 change.2 with
    | error cause => exact .inr ⟨by simp, rfl⟩
    | ok after =>
      have hstate := state_of_write hwrite name
      obtain ⟨on, hmem, hset⟩ | ⟨hnone, hkept⟩ := ih after
      · exact .inl ⟨on, by simp [hmem], hset⟩
      · by_cases hname : name = change.1
        · subst hname
          rw [if_pos rfl] at hstate
          exact .inl ⟨change.2, by simp, hkept.trans hstate⟩
        · rw [if_neg hname] at hstate
          have hother (on : Bool) : (name, on) ≠ change := fun hsame => hname (by rw [← hsame])
          exact .inr ⟨by simpa [hother] using hnone, hkept.trans hstate⟩

omit [SwitchStates σ] in
/-- On a move an armed timer drives its switches, and concludes if none refuses. -/
theorem apply_of_moves (p : SwitchPolicy) {source target : CountState} (hmoves : source ≠ target)
    {arming : Arming} (harmed : arming.isArmed = true) (switches : σ) :
    let driven := p.drive (p.trigger.turnsOn target) switches
    (p.apply source target arming switches).value =
        (driven.value.1, driven.value.2.map (p.conclude target arming)) ∧
      (p.apply source target arming switches).trace = driven.trace := by
  intro driven
  rw [apply, if_neg hmoves, if_pos harmed]
  exact ⟨rfl, Trace.append_empty _⟩

omit [SwitchStates σ] in
/-- Only an armed timer meets a refusal, and it meets it in driving its
    switches. -/
theorem drive_of_refused {p : SwitchPolicy} {source target : CountState} {arming : Arming}
    {switches : σ} {cause : AccessFailure}
    (hrefused : (p.apply source target arming switches).value.2 = .error cause) :
    (p.apply source target arming switches).value.1 =
        (p.drive (p.trigger.turnsOn target) switches).value.1 ∧
      (p.apply source target arming switches).trace =
        (p.drive (p.trigger.turnsOn target) switches).trace := by
  by_cases hstays : source = target
  · rw [apply, if_pos hstays] at hrefused
    cases hrefused
  · by_cases harmed : arming.isArmed = true
    · obtain ⟨hvalue, htrace⟩ := p.apply_of_moves hstays harmed switches
      exact ⟨congrArg Prod.fst hvalue, htrace⟩
    · rw [apply, if_neg hstays, if_neg harmed] at hrefused
      cases hrefused

omit [SwitchStates σ] in
/-- Looking which switches have to change writes none of them. -/
theorem switches_pending (p : SwitchPolicy) (on : Bool) (switches : σ)
    (bindings : List SwitchBinding) : (p.pending on switches bindings).trace.switches = [] := by
  induction bindings with
  | nil => rfl
  | cons b rest ih =>
    unfold pending
    dsimp only
    split
    · rfl
    · simpa using ih

omit [SwitchStates σ] in
/-- After a refused read nothing is written, as all switches are read before the
    first write. -/
theorem drive_of_refused_read {p : SwitchPolicy} {on : Bool} {switches : σ} {cause : AccessFailure}
    (hpending : (p.pending on switches p.bindings).value = .error cause) :
    (p.drive on switches).value.1 = switches ∧ (p.drive on switches).trace.switches = [] := by
  unfold drive
  simp only [Traced.value_bind, Traced.trace_bind, Trace.switches_append, switches_pending]
  rw [hpending]
  exact ⟨rfl, rfl⟩

omit [SwitchStates σ] in
/-- After the reads the kept switches are written. -/
theorem drive_of_read {p : SwitchPolicy} {on : Bool} {switches : σ} {kept : List (String × Bool)}
    (hpending : (p.pending on switches p.bindings).value = .ok kept) :
    (p.drive on switches).value.1 = (writeAll switches kept).value.1 ∧
      (p.drive on switches).trace.switches = (writeAll switches kept).trace.switches := by
  unfold drive
  simp only [Traced.value_bind, Traced.trace_bind, Trace.switches_append, switches_pending]
  rw [hpending]
  exact ⟨rfl, by simp⟩

/-- All reads go through, and so does the write of the first switch that has to
    change. -/
def WritesFirst (p : SwitchPolicy) (on : Bool) (switches : σ) : Prop :=
  p.Readable switches ∧
    ∃ change rest after, p.changes on switches p.bindings = change :: rest ∧
      SwitchAccess.write switches change.1 change.2 = .ok after

/-- A drive writes switches that have to change, from the first one on. -/
theorem isPrefix_switches_drive (p : SwitchPolicy) (on : Bool) (switches : σ) :
    (p.drive on switches).trace.switches <+: p.changes on switches p.bindings := by
  cases hpending : (p.pending on switches p.bindings).value with
  | error refused =>
    rw [(drive_of_refused_read hpending).2]
    exact List.nil_prefix
  | ok kept =>
    obtain ⟨_, rfl⟩ := pending_ok hpending
    rw [(drive_of_read hpending).2]
    exact isPrefix_switches_writeAll switches _

/-- A drive writes nothing unless all reads and the first write go through. A
    refused read comes before any write, and a first write that is refused is
    the last one tried. -/
theorem switches_drive_ne_nil_iff (p : SwitchPolicy) (on : Bool) (switches : σ) :
    (p.drive on switches).trace.switches ≠ [] ↔ p.WritesFirst on switches := by
  cases hpending : (p.pending on switches p.bindings).value with
  | error refused =>
    obtain ⟨b, hmem, hread⟩ := exists_refused_of_pending hpending
    have hunreadable : ¬p.Readable switches := by
      intro hreadable
      obtain ⟨current, hcurrent⟩ := hreadable b hmem
      rw [hread] at hcurrent
      cases hcurrent
    simp [(drive_of_refused_read hpending).2, WritesFirst, hunreadable]
  | ok kept =>
    obtain ⟨hreadable, rfl⟩ := pending_ok hpending
    rw [(drive_of_read hpending).2, writeAll_ne_nil_iff, WritesFirst]
    exact (and_iff_right hreadable).symm

/-- A switch differs after driving exactly if a write of it went through: no
    other write of it is made, since it had to change. -/
theorem state_drive_ne_iff (p : SwitchPolicy) (on : Bool) (switches : σ) (name : String) :
    state? (p.drive on switches).value.1 name ≠ state? switches name ↔
      ∃ level, (name, level) ∈ (p.drive on switches).trace.switches := by
  cases hpending : (p.pending on switches p.bindings).value with
  | error refused =>
    obtain ⟨hkept, hnone⟩ := drive_of_refused_read hpending
    simp [hkept, hnone]
  | ok kept =>
    obtain ⟨_, rfl⟩ := pending_ok hpending
    obtain ⟨hwritten, hdone⟩ := drive_of_read hpending
    rw [hwritten, hdone]
    obtain ⟨level, hmem, hset⟩ | ⟨hnone, hkept⟩ :=
      state_writeAll switches (p.changes on switches p.bindings) name
    · have hchange : (name, level) ∈ p.changes on switches p.bindings :=
        (isPrefix_switches_writeAll switches (p.changes on switches p.bindings)).subset hmem
      have hold : state? switches name ≠ some level := by
        simpa using (List.mem_filter.1 hchange).2
      exact iff_of_true (hset ▸ hold.symm) ⟨level, hmem⟩
    · simp [hnone, hkept]

end SwitchPolicy

namespace SwitchTimer

variable {σ π : Type} [SwitchAccess σ] [Panel π]

/-- A second in which a switch refuses leaves the arming of its timer alone. -/
theorem arming_tick_of_refused {t : SwitchTimer} {switches : σ} {cause : AccessFailure}
    (hrefused : (t.policy.apply t.state t.counted.side t.arming switches).value.2 = .error cause)
    (panel : π) : (t.tick switches panel).value.1.arming = t.arming := by
  obtain hidle | ⟨harmed, hawake⟩ := t.idle_or_awake
  · rw [tick_idle hidle]
  · rw [tick_awake harmed hawake]
    simp only [Traced.value_bind, hrefused]
    rfl

end SwitchTimer

namespace SwitchPolicy

variable {σ : Type} [SwitchAccess σ] [SwitchStates σ]

/-- After a refused access a switch is not as it was exactly if a write of it
    went through before, and some switch is not exactly if all reads and the
    first write went through. A refused write does not take back those before
    it. The arming stays in any case: a refused action gives no new one, and the
    timer that acts keeps its own. -/
theorem refused_changes_iff {p : SwitchPolicy} {source target : CountState} {arming : Arming}
    {switches : σ} {cause : AccessFailure}
    (hrefused : (p.apply source target arming switches).value.2 = .error cause) :
    let acted := p.apply source target arming switches
    acted.trace.switches <+: p.changes (p.trigger.turnsOn target) switches p.bindings ∧
      (∀ name, state? acted.value.1 name ≠ state? switches name ↔
        ∃ level, (name, level) ∈ acted.trace.switches) ∧
      ((∃ name, state? acted.value.1 name ≠ state? switches name) ↔
        p.WritesFirst (p.trigger.turnsOn target) switches) ∧
      ∀ {π : Type} [Panel π] (panel : π) (t : SwitchTimer), t.policy = p → t.arming = arming →
        t.state = source → t.counted.side = target →
        (t.tick switches panel).value.1.arming = arming := by
  intro acted
  obtain ⟨hswitches, htrace⟩ := drive_of_refused hrefused
  have hchanged := p.state_drive_ne_iff (p.trigger.turnsOn target) switches
  rw [← hswitches, ← htrace] at hchanged
  refine ⟨htrace ▸ p.isPrefix_switches_drive _ switches, hchanged, ?_, ?_⟩
  · rw [← switches_drive_ne_nil_iff, ← htrace, ne_eq, List.eq_nil_iff_forall_not_mem]
    simp only [Classical.not_forall, Classical.not_not, Prod.exists]
    exact exists_congr hchanged
  · rintro π _ panel t rfl rfl rfl rfl
    exact SwitchTimer.arming_tick_of_refused hrefused panel

/-- Two switches that are off, of which the second refuses writes. -/
def halfStuck : SwitchBank where
  states := ⟨[("mist", false), ("spindle", false)]⟩
  refusedWrites := ["spindle"]

/-- Switches both of them on. -/
def switchingBoth : SwitchPolicy where
  trigger := .level
  shot := .multi
  inverted := false
  bindings := [⟨"mist", true⟩, ⟨"spindle", true⟩]

/-- The write of the second switch is refused. -/
theorem refused_halfStuck :
    (switchingBoth.apply .below .reached (.ofCodes 0 0) halfStuck).value.2 =
      .error .switchWrite := by
  rfl

/-- The first switch has come on when the second refuses. -/
theorem refused_changes_mist :
    switchingBoth.WritesFirst true halfStuck ∧
      ∃ name, state? (switchingBoth.apply .below .reached (.ofCodes 0 0) halfStuck).value.1 name ≠
        state? halfStuck name := by
  have hwrites : switchingBoth.WritesFirst true halfStuck := by
    have hreadable : switchingBoth.Readable halfStuck := by
      simp only [Readable, switchingBoth, List.forall_mem_cons]
      exact ⟨⟨false, rfl⟩, ⟨false, rfl⟩, by simp⟩
    exact ⟨hreadable, ("mist", true), [("spindle", true)], _, rfl, rfl⟩
  exact ⟨hwrites, (refused_changes_iff refused_halfStuck).2.2.1.2 hwrites⟩

/-- A refused action is not undone. -/
theorem refused_write_leaves_change :
    ¬∀ (p : SwitchPolicy) (source target : CountState) (arming : Arming) (bank : SwitchBank)
      (cause : AccessFailure),
      (p.apply source target arming bank).value.2 = .error cause →
      ∀ name, state? (p.apply source target arming bank).value.1 name = state? bank name := by
  intro hnone
  have hmist := hnone _ _ _ _ _ _ refused_halfStuck "mist"
  exact absurd hmist (by decide +kernel)

end SwitchPolicy

end Interlock
