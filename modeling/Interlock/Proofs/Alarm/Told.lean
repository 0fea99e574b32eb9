import Interlock.Proofs.Alarm.Panel

namespace Interlock

namespace Alarm

/-- What a step does to the fault indicator, if it reports a finding. -/
def lights (a : Alarm) (told : Option (Option LevelFault)) : Option Bool :=
  told.bind fun fault =>
    if a.escalator.indicator = some fault.isSome then none else some fault.isSome

/-- The fault reports among the events of a step, if it reports a finding. -/
def news (a : Alarm) (told : Option (Option LevelFault)) : List (Option LevelFault) :=
  told.elim [] fun fault => if a.last = fault then [] else [fault]

/-- The alarm notes a finding that is reported, or its notes stay. -/
structure Notes (a after : Alarm) (told : Option (Option LevelFault)) : Prop where
  owner_eq : after.escalator.owner = a.escalator.owner
  last_eq : after.last = told.getD a.last
  indicator_eq : after.escalator.indicator = (told.map Option.isSome).or a.escalator.indicator

/-- A step that takes the alarm `a` to `after` reports a finding, or tells
    nothing of faults. What it does to the outside is `done`. -/
structure Tells (a after : Alarm) (done : Trace) (told : Option (Option LevelFault)) : Prop
    extends Notes a after told where
  lit_eq : PanelCall.lit done.panel = a.lights told
  reports_eq : ∀ source, Event.reports source done.events =
    if source = a.escalator.owner then a.news told else []

/-- A report tells the finding that it is given: it is noted, the indicator is
    lit by it, and the events of the module come down to it. -/
theorem tells_report {π : Type} [Panel π] (a : Alarm) (fault : Option LevelFault) (panel : π) :
    a.Tells (a.report fault panel).value.1 (a.report fault panel).trace (some fault) := by
  obtain ⟨hindicator, hlit, _⟩ := a.report_indicator fault panel
  refine ⟨⟨a.owner_report fault panel, ?_, hindicator⟩, hlit, fun source => ?_⟩
  · cases fault with
    | some fault => exact (a.report_fault fault panel).2.2.1
    | none => exact (a.report_clear panel).2.2.1
  · split
    · rename_i hsource
      subst hsource
      cases fault with
      | some fault => exact (a.report_fault fault panel).2.2.2.2
      | none =>
        rw [(a.report_clear panel).2.2.2.2]
        cases hlast : a.last <;> simp [news, hlast]
    · rename_i hsource
      exact a.reports_report_of_ne hsource fault panel

/-- A step that is quiet about faults leaves the notes of the alarm alone, and
    the panel. The three premises are what a step does not do; its other effects
    are free. -/
theorem tells_nothing {a after : Alarm} {done : Trace} (hnotes : a.Notes after none)
    (hpanel : done.panel = []) (hreports : ∀ source, Event.reports source done.events = []) :
    a.Tells after done none where
  toNotes := hnotes
  lit_eq := by
    rw [hpanel]
    rfl
  reports_eq source := by
    rw [hreports]
    exact (ite_self _).symm

section

variable {a after : Alarm} {done : Trace} {told : Option (Option LevelFault)}

theorem Tells.quiet (htells : a.Tells after done none) (source : String) :
    Event.reports source done.events = [] :=
  (htells.reports_eq source).trans (ite_self _)

/-- Of two steps the first may be one that reports nothing; the notes after both
    are those of the second. -/
theorem Notes.trans {b : Alarm} (hfirst : a.Notes b none) (hsecond : b.Notes after none) :
    a.Notes after none :=
  ⟨hsecond.owner_eq.trans hfirst.owner_eq, hsecond.last_eq.trans hfirst.last_eq,
    hsecond.indicator_eq.trans hfirst.indicator_eq⟩

/-- A second that the alarm counts before the step makes no difference, since
    the count of seconds is none of its notes. -/
theorem Tells.of_tick
    (htells : Tells { a with escalator := a.escalator.tick } after done told) :
    a.Tells after done told :=
  ⟨⟨htells.owner_eq, htells.last_eq, htells.indicator_eq⟩, htells.lit_eq, htells.reports_eq⟩

/-- Only the panel and the fault reports among the events count, so other traces
    may stand in for the one of the step. -/
theorem Tells.seen (htells : a.Tells after done told) {seen : Trace}
    (hpanel : seen.panel = done.panel)
    (hreports : ∀ source, Event.reports source seen.events = Event.reports source done.events) :
    a.Tells after seen told where
  toNotes := htells.toNotes
  lit_eq := by rw [hpanel, htells.lit_eq]
  reports_eq source := by rw [hreports, htells.reports_eq]

/-- The note of the last report goes on being what the outside was told last.
    News is told only where it differs from the note, which is why the note has
    to agree before. -/
theorem Notes.last_agrees (hnotes : a.Notes after told) {past news : List Event}
    (hnews : Event.reports a.escalator.owner news = a.news told)
    (hlast : a.last = Event.lastReported a.escalator.owner past) :
    after.last = Event.lastReported a.escalator.owner (past ++ news) := by
  rw [hnotes.last_eq]
  cases told with
  | none => rw [Event.lastReported_append_of_quiet past hnews, ← hlast, Option.getD_none]
  | some fault =>
    rw [Alarm.news, Option.elim_some] at hnews
    split at hnews
    · rename_i hsame
      rw [Event.lastReported_append_of_quiet past hnews, ← hlast, hsame, Option.getD_some]
    · simp [Event.lastReported, hnews]

/-- The note of the indicator goes on being what the module lit last, as it is
    lit only where it differs from the note. -/
theorem Tells.indicator_agrees (htells : a.Tells after done told) {past : List PanelCall}
    (hlit : a.escalator.indicator = PanelCall.lit past) :
    after.escalator.indicator = PanelCall.lit (past ++ done.panel) := by
  rw [htells.indicator_eq, PanelCall.lit_append, htells.lit_eq, ← hlit]
  cases told with
  | none => rfl
  | some fault =>
    rw [lights, Option.bind_some]
    split
    · rename_i hsame
      rw [hsame]
      rfl
    · rfl

/-- The indicator is lit as the last report says, or was not touched as there
    was none. -/
def Coherent (a : Alarm) : Prop :=
  a.escalator.indicator = none ∧ a.last = none ∨ a.escalator.indicator = some a.last.isSome

/-- Coherence survives every step, since a finding that is reported goes to both
    notes. -/
theorem Notes.coherent (hnotes : a.Notes after told) (hcoherent : a.Coherent) : after.Coherent := by
  unfold Coherent
  rw [hnotes.indicator_eq, hnotes.last_eq]
  cases told with
  | none => exact hcoherent
  | some fault => exact .inr rfl

/-- A step lights the indicator exactly for a finding that the note of it
    contradicts. -/
theorem lights_eq_some_iff {on : Bool} :
    a.lights told = some on ↔
      a.escalator.indicator ≠ some on ∧ ∃ fault, told = some fault ∧ fault.isSome = on := by
  cases told with
  | none => simp [lights]
  | some fault =>
    by_cases hsame : a.escalator.indicator = some fault.isSome
    · simp only [lights, Option.bind_some, if_pos hsame, reduceCtorEq, Option.some.injEq,
        exists_eq_left', false_iff, not_and]
      exact fun hdiffers hon => hdiffers (hon ▸ hsame)
    · simp only [lights, Option.bind_some, if_neg hsame, Option.some.injEq, exists_eq_left']
      refine ⟨fun hon => ⟨?_, hon⟩, And.right⟩
      rwa [← hon]

/-- The fault indicator is lit only for a fault that was not told of before.
    Coherence is what joins the two notes: without it an unlit indicator says
    nothing about the last report. -/
theorem Coherent.of_lights_fault (hcoherent : a.Coherent) (hlit : a.lights told = some true) :
    a.last = none ∧ (told.getD a.last).isSome = true := by
  obtain ⟨hdiffers, fault, rfl, hfault⟩ := lights_eq_some_iff.1 hlit
  refine ⟨?_, hfault⟩
  rcases hcoherent with ⟨_, hnone⟩ | hindicator
  · exact hnone
  · rw [hindicator] at hdiffers
    simpa using hdiffers

theorem none_of_lights_clear (hlit : a.lights told = some false) : told.getD a.last = none := by
  obtain ⟨_, fault, rfl, hfault⟩ := lights_eq_some_iff.1 hlit
  simpa using hfault

/-- A fault for which nothing is lit was told of before: coherence turns the lit
    indicator into a last report. -/
theorem Coherent.of_lights_nothing (hcoherent : a.Coherent) (hlit : a.lights told = none)
    (hopen : (told.getD a.last).isSome = true) : a.last.isSome = true := by
  cases told with
  | none => exact hopen
  | some fault =>
    have hsame : a.escalator.indicator = some fault.isSome :=
      Decidable.byContradiction fun hdiffers => by
        rw [lights_eq_some_iff.2 ⟨hdiffers, fault, rfl, rfl⟩] at hlit
        cases hlit
    rcases hcoherent with ⟨hnone, _⟩ | hindicator
    · rw [hnone] at hsame
      cases hsame
    · rw [hindicator] at hsame
      exact (Option.some.inj hsame).trans hopen

end

end Alarm

end Interlock
