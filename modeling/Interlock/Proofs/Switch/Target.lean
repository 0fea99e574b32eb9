import Interlock.Module.SwitchTimer
import Interlock.Proofs.Switch.Refusal

namespace Interlock

open SwitchStates

namespace SwitchPolicy

section

variable {σ : Type} [SwitchAccess σ]

/-- No access to the given switches is refused, now or after any writes to them. -/
def Obliging (names : List String) (switches : σ) : Prop :=
  ∀ writes : List (String × Bool), (∀ change ∈ writes, change.1 ∈ names) →
    (writeAll switches writes).value.2 = .ok () ∧
      ∀ name ∈ names, ∃ on, SwitchAccess.read (writeAll switches writes).value.1 name = .ok on

variable {names : List String} {switches : σ}

theorem value_writeAll_cons {change : String × Bool} {after : σ}
    (hwrite : SwitchAccess.write switches change.1 change.2 = .ok after)
    (rest : List (String × Bool)) :
    (writeAll switches (change :: rest)).value = (writeAll after rest).value := by
  rw [writeAll, hwrite]

/-- The first of some writes that go through goes through. -/
theorem exists_written {change : String × Bool} {rest : List (String × Bool)}
    (hdone : (writeAll switches (change :: rest)).value.2 = .ok ()) :
    ∃ after, SwitchAccess.write switches change.1 change.2 = .ok after ∧
      (writeAll after rest).value.2 = .ok () := by
  cases hwrite : SwitchAccess.write switches change.1 change.2 with
  | error cause =>
    rw [writeAll, hwrite] at hdone
    cases hdone
  | ok after =>
    rw [value_writeAll_cons hwrite] at hdone
    exact ⟨after, rfl, hdone⟩

/-- Writes that go through are followed by the others. -/
theorem value_writeAll_append {first : List (String × Bool)}
    (hdone : (writeAll switches first).value.2 = .ok ()) (second : List (String × Bool)) :
    (writeAll switches (first ++ second)).value =
      (writeAll (writeAll switches first).value.1 second).value := by
  induction first generalizing switches with
  | nil => rfl
  | cons change rest ih =>
    obtain ⟨after, hwrite, hrest⟩ := exists_written hdone
    rw [List.cons_append, value_writeAll_cons hwrite, value_writeAll_cons hwrite, ih hrest]

/-- Writes of which none is refused are all made. -/
theorem switches_writeAll_of_ok {pending : List (String × Bool)}
    (hdone : (writeAll switches pending).value.2 = .ok ()) :
    (writeAll switches pending).trace.switches = pending := by
  induction pending generalizing switches with
  | nil => rfl
  | cons change rest ih =>
    obtain ⟨after, hwrite, hrest⟩ := exists_written hdone
    rw [writeAll, hwrite]
    simpa using ih hrest

/-- Switches oblige as long as something holds of them that lets every access
    through, and that every write keeps. -/
theorem Obliging.of_kept {Holds : σ → Prop} (hholds : Holds switches)
    (hread : ∀ now, Holds now → ∀ name ∈ names, ∃ on, SwitchAccess.read now name = .ok on)
    (hwrite : ∀ now, Holds now → ∀ name ∈ names, ∀ on,
      ∃ after, SwitchAccess.write now name on = .ok after ∧ Holds after) :
    Obliging names switches := by
  intro writes hnames
  induction writes generalizing switches with
  | nil => exact ⟨rfl, hread switches hholds⟩
  | cons change rest ih =>
    rw [List.forall_mem_cons] at hnames
    obtain ⟨after, hafter, hkept⟩ := hwrite switches hholds change.1 hnames.1 change.2
    rw [value_writeAll_cons hafter]
    exact ih hkept hnames.2

theorem Obliging.readable (hobliging : Obliging names switches) :
    ∀ name ∈ names, ∃ on, SwitchAccess.read switches name = .ok on :=
  (hobliging [] (by simp)).2

theorem Obliging.writeAll (hobliging : Obliging names switches) {writes : List (String × Bool)}
    (hnames : ∀ change ∈ writes, change.1 ∈ names) :
    Obliging names (writeAll switches writes).value.1 := by
  intro later hlater
  have hdone := (hobliging writes hnames).1
  have hboth := hobliging (writes ++ later) (List.forall_mem_append.2 ⟨hnames, hlater⟩)
  rwa [value_writeAll_append hdone] at hboth

end

/-- The names of the bound switches. -/
def names (p : SwitchPolicy) : List String :=
  p.bindings.map (·.name)

section

variable {σ : Type} [SwitchAccess σ] [SwitchStates σ] {p : SwitchPolicy} {switches : σ}

/-- Only bound switches are changed. -/
theorem mem_names_of_changes (p : SwitchPolicy) (on : Bool) (switches : σ) :
    ∀ change ∈ p.changes on switches p.bindings, change.1 ∈ p.names := by
  intro change hchange
  obtain ⟨b, hb, rfl⟩ := List.mem_map.1 (List.mem_filter.1 hchange).1
  exact List.mem_map_of_mem hb

/-- Driving obliging switches makes all the changes that are due. The switches
    that are changed are bound ones, so that neither a read nor a write of them
    is refused. -/
theorem Obliging.drive (hobliging : Obliging p.names switches) (on : Bool) :
    let changes := p.changes on switches p.bindings
    (p.drive on switches).value =
        ((SwitchPolicy.writeAll switches changes).value.1, .ok changes.length) ∧
      (p.drive on switches).trace.switches = changes := by
  intro changes
  have hdone := (hobliging changes (p.mem_names_of_changes on switches)).1
  have hpending : (p.pending on switches p.bindings).value = .ok changes := by
    cases hpending : (p.pending on switches p.bindings).value with
    | ok kept => rw [(pending_ok hpending).2]
    | error cause =>
      obtain ⟨b, hb, hrefused⟩ := exists_refused_of_pending hpending
      obtain ⟨current, hread⟩ := hobliging.readable b.name (List.mem_map_of_mem hb)
      rw [hread] at hrefused
      cases hrefused
  refine ⟨?_, ?_⟩
  · unfold SwitchPolicy.drive
    simp only [Traced.value_bind, hpending, hdone]
    rfl
  · rw [(drive_of_read hpending).2, switches_writeAll_of_ok hdone]

/-- An armed timer makes the changes that are due, and no access stops it. -/
theorem Obliging.apply (hobliging : Obliging p.names switches) {source target : CountState}
    (hmoves : source ≠ target) {arming : Arming} (harmed : arming.isArmed = true) :
    let changes := p.changes (p.trigger.turnsOn target) switches p.bindings
    let acted := p.apply source target arming switches
    acted.value = ((SwitchPolicy.writeAll switches changes).value.1,
        .ok (p.conclude target arming changes.length)) ∧
      acted.trace.switches = changes := by
  intro changes acted
  obtain ⟨hvalue, htrace⟩ := hobliging.drive (p.trigger.turnsOn target)
  obtain ⟨hacted, hdriven⟩ := p.apply_of_moves hmoves harmed switches
  rw [hacted, hdriven, hvalue]
  exact ⟨rfl, htrace⟩

/-- The bindings of one switch ask for the same. Bindings that do not agree are
    read before either is written, so that each of them writes over what the
    other has found. -/
def Agrees (p : SwitchPolicy) : Prop :=
  ∀ b ∈ p.bindings, ∀ other ∈ p.bindings, b.name = other.name → b.onTrigger = other.onTrigger

instance (p : SwitchPolicy) : Decidable p.Agrees :=
  inferInstanceAs (Decidable (∀ b ∈ p.bindings, ∀ other ∈ p.bindings,
    b.name = other.name → b.onTrigger = other.onTrigger))

/-- Two bindings have the same target exactly if both ask for the same when the
    timer triggers. -/
theorem target_eq_iff (p : SwitchPolicy) (on : Bool) (b other : SwitchBinding) :
    p.target on b = p.target on other ↔ b.onTrigger = other.onTrigger := by
  unfold target
  cases on <;> simp

/-- Every bound switch is as its bindings ask for. -/
def AtTargets (p : SwitchPolicy) (on : Bool) (switches : σ) : Prop :=
  ∀ b ∈ p.bindings, state? switches b.name = some (p.target on b)

theorem changes_eq_nil_iff (p : SwitchPolicy) (on : Bool) (switches : σ) :
    p.changes on switches p.bindings = [] ↔ p.AtTargets on switches := by
  simp [changes, AtTargets, List.filter_eq_nil_iff]

/-- The changes that are due bring every switch to its target exactly if its
    bindings agree on what that is. Where they do not, the switch ends in one
    state, which is not the target of all of them. -/
theorem atTargets_writeAll_iff {on : Bool}
    (hdone : (writeAll switches (p.changes on switches p.bindings)).value.2 = .ok ()) :
    p.AtTargets on (writeAll switches (p.changes on switches p.bindings)).value.1 ↔ p.Agrees := by
  constructor
  · intro hat b hb other hother hname
    have hsame := hat b hb
    rw [hname, hat other hother, Option.some.injEq] at hsame
    exact (p.target_eq_iff on b other).1 hsame.symm
  · intro hagrees b hb
    have hmade := switches_writeAll_of_ok hdone
    obtain ⟨level, hmem, hset⟩ | ⟨hnone, hkept⟩ :=
      state_writeAll switches (p.changes on switches p.bindings) b.name
    · -- The last write came from a binding of the same switch.
      rw [hmade] at hmem
      obtain ⟨other, hother, hchange⟩ := List.mem_map.1 (List.mem_filter.1 hmem).1
      obtain ⟨hname, rfl⟩ := Prod.mk.inj hchange
      rw [hset, (p.target_eq_iff on other b).2 (hagrees other hother b hb hname)]
    · have hnotDue := hnone (p.target on b)
      rw [hmade, changes, List.mem_filter, not_and] at hnotDue
      rw [hkept]
      simpa using hnotDue (List.mem_map_of_mem hb)

/-- A bound switch that can be read reads as its state. -/
theorem Obliging.read_eq_iff (hobliging : Obliging p.names switches) {b : SwitchBinding}
    (hb : b ∈ p.bindings) (on : Bool) :
    SwitchAccess.read switches b.name = .ok on ↔ state? switches b.name = some on := by
  refine ⟨state_of_read, fun hstate => ?_⟩
  obtain ⟨current, hread⟩ := hobliging.readable b.name (List.mem_map_of_mem hb)
  rw [hread, Option.some.inj ((state_of_read hread).symm.trans hstate)]

/-- Where no access is refused, the action of an armed timer on a move
    concludes, whatever its bound switches are, and leaves all others alone.
    Every bound switch then reads as each of its bindings asks for, and to act
    on the same move again writes nothing, exactly if the bindings of one switch
    agree. -/
theorem targets_reached_iff {source target : CountState} (hmoves : source ≠ target)
    {arming : Arming} (harmed : arming.isArmed = true)
    (hobliging : Obliging p.names switches) :
    let acted := p.apply source target arming switches
    let after := acted.value.1
    acted.value.2 = .ok (p.conclude target arming acted.trace.switches.length) ∧
      (∀ name, name ∉ p.names → state? after name = state? switches name) ∧
      ((∀ b ∈ p.bindings,
          SwitchAccess.read after b.name = .ok (p.target (p.trigger.turnsOn target) b)) ↔
        p.Agrees) ∧
      ∀ again : Arming, again.isArmed = true →
        ((p.apply source target again after).trace.switches = [] ↔ p.Agrees) := by
  intro acted after
  have hnames := p.mem_names_of_changes (p.trigger.turnsOn target) switches
  have hdone := (hobliging _ hnames).1
  obtain ⟨hvalue, htrace⟩ := hobliging.apply hmoves harmed
  have hafter : after =
      (writeAll switches (p.changes (p.trigger.turnsOn target) switches p.bindings)).value.1 :=
    congrArg Prod.fst hvalue
  have hlater : Obliging p.names after := hafter ▸ hobliging.writeAll hnames
  have hat : p.AtTargets (p.trigger.turnsOn target) after ↔ p.Agrees := by
    rw [hafter]
    exact atTargets_writeAll_iff hdone
  refine ⟨?_, fun name hunbound => ?_, ?_, fun again hagain => ?_⟩
  · rw [htrace]
    exact congrArg Prod.snd hvalue
  · rw [hafter]
    obtain ⟨level, hmem, _⟩ | ⟨_, hkept⟩ := state_writeAll switches
      (p.changes (p.trigger.turnsOn target) switches p.bindings) name
    · rw [switches_writeAll_of_ok hdone] at hmem
      exact absurd (hnames _ hmem) hunbound
    · exact hkept
  · rw [← hat]
    exact forall₂_congr fun b hb => hlater.read_eq_iff hb _
  · rw [(hlater.apply hmoves hagain).2, changes_eq_nil_iff, hat]

end

/-- A bank that refuses nothing obliges for the switches that it has, since
    writes neither remove a switch nor make it refuse. -/
theorem obliging_bank {bank : SwitchBank} (hreads : bank.refusedReads = [])
    (hwrites : bank.refusedWrites = []) {names : List String}
    (hnames : ∀ name ∈ names, bank.states.contains name = true) : Obliging names bank := by
  let Holds (b : SwitchBank) : Prop :=
    b.refusedReads = [] ∧ b.refusedWrites = [] ∧ ∀ name ∈ names, b.states.contains name = true
  have hholds : Holds bank := ⟨hreads, hwrites, hnames⟩
  refine Obliging.of_kept hholds ?_ ?_
  · rintro now ⟨hreads, _, hnames⟩ name hname
    obtain ⟨on, hon⟩ :=
      Option.isSome_iff_exists.1 (SwitchBank.isSome_of_contains (hnames name hname))
    exact ⟨on, by simp [SwitchAccess.read, SwitchBank.read, hreads, hon]⟩
  · rintro now ⟨hreads, hwrites, hnames⟩ name hname on
    refine ⟨{ now with states := now.states.modify name fun _ => on }, ?_, hreads, hwrites, ?_⟩
    · simp [SwitchAccess.write, SwitchBank.write, hwrites, hnames name hname]
    · intro other hother
      rw [Registry.contains_modify]
      exact hnames other hother

/-- A timer whose bindings of one switch contradict each other. -/
def contradicting : TimerSettings where
  enable := true
  switches := [⟨"mist", true⟩, ⟨"mist", false⟩]

/-- A timer with contradicting bindings is built, and does not settle. -/
theorem contradiction_never_settles :
    ¬∀ (s : TimerSettings) (t : SwitchTimer) (bank : SwitchBank),
      (SwitchTimer.build s).value = .ok t → t.arming.isArmed = true →
      Obliging t.policy.names bank →
      let after := (t.policy.apply .below .reached t.arming bank).value.1
      (∀ b ∈ t.policy.bindings,
          SwitchAccess.read after b.name =
            .ok (t.policy.target (t.policy.trigger.turnsOn .reached) b)) ∧
        (t.policy.apply .below .reached t.arming after).trace.switches = [] := by
  intro hsettles
  have hobliging : Obliging (SwitchTimer.ofSettings contradicting).policy.names
      (SwitchBank.ofNames ["mist"]) := obliging_bank rfl rfl (by decide)
  obtain ⟨_, hnone⟩ := hsettles contradicting _ (SwitchBank.ofNames ["mist"]) rfl rfl hobliging
  exact absurd hnone (by decide)

/-- To act on the same move again switches the mist back. -/
theorem targets_reached_iff_contradicting :
    let t := SwitchTimer.ofSettings contradicting
    let after := (t.policy.apply .below .reached t.arming (SwitchBank.ofNames ["mist"])).value.1
    (t.policy.apply .below .reached t.arming after).trace.switches ≠ [] := by
  intro t after
  have hobliging : Obliging t.policy.names (SwitchBank.ofNames ["mist"]) :=
    obliging_bank rfl rfl (by decide)
  have hmoves : CountState.below ≠ .reached := nofun
  have harmed : t.arming.isArmed = true := rfl
  obtain ⟨_, _, _, hagain⟩ := targets_reached_iff hmoves harmed hobliging
  exact fun hnone => absurd ((hagain t.arming harmed).1 hnone) (by decide)

end SwitchPolicy

end Interlock
