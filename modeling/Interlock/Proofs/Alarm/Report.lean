import Interlock.Alarm.Basic

namespace Interlock

namespace Escalator

variable {π : Type} [Panel π]

@[simp] theorem escalator_indicate (e : Escalator) (fault : Bool) (panel : π) :
    (e.indicate fault panel).value.1 = { e with indicator := some fault } := by
  unfold indicate
  split
  · rename_i hlit
    rw [← hlit]
  · rfl

@[simp] theorem sent_indicate (e : Escalator) (fault : Bool) (panel : π) :
    (e.indicate fault panel).trace.sent = [] := by
  unfold indicate
  split <;> rfl

@[simp] theorem events_indicate (e : Escalator) (fault : Bool) (panel : π) :
    (e.indicate fault panel).trace.events = [] := by
  unfold indicate
  split <;> rfl

@[simp] theorem value_suspend (e : Escalator) (fault : LevelFault) :
    (e.suspend fault).value = { e with paused := true } := by
  unfold suspend
  split
  · rename_i hpaused
    rw [Traced.value_pure, ← hpaused]
  · rfl

@[simp] theorem sent_suspend (e : Escalator) (fault : LevelFault) :
    (e.suspend fault).trace.sent = if e.paused then [] else [suspendCommand] := by
  unfold suspend
  split <;> rfl

@[simp] theorem events_suspend (e : Escalator) (fault : LevelFault) :
    (e.suspend fault).trace.events = [] := by
  unfold suspend
  split <;> rfl

@[simp] theorem paused_tick (e : Escalator) : e.tick.paused = e.paused := rfl

/-- A raised fault leaves the machine suspended, whatever the panel shows and
    does. The suspend command is sent unless the escalator is paused. -/
theorem raise_spec (e : Escalator) (fault : LevelFault) (menu : String) (panel : π) :
    let raised := e.raise fault menu panel
    raised.value.1.paused = true ∧ raised.value.1.owner = e.owner ∧
      raised.value.2.2.suspended = !e.paused ∧
      raised.trace.sent = (if e.paused then [] else [suspendCommand]) ∧
      raised.trace.events = [] := by
  intro raised
  simp only [raised, raise, Traced.value_bind, Traced.trace_bind]
  split
  · simp
  · simp [display]

theorem allClear_spec (e : Escalator) (panel : π) :
    let cleared := e.allClear panel
    cleared.value.1.paused = e.paused ∧ cleared.value.1.owner = e.owner ∧
      cleared.trace.sent = [] ∧ cleared.trace.events = [] := by
  simp [allClear]

end Escalator

namespace Event

/-- The fault report that an event is of a module: of a fault, or of an end to
    faults. -/
def report? (owner : String) : Event → Option (Option LevelFault)
  | faultRaised source fault => if source = owner then some (some fault) else none
  | faultsCleared source => if source = owner then some none else none
  | _ => none

/-- The fault reports of a module among events. -/
def reports (owner : String) (events : List Event) : List (Option LevelFault) :=
  events.filterMap (report? owner)

/-- The fault that a module reported last; `none` before the first report and
    after one of an end to faults. -/
def lastReported (owner : String) (events : List Event) : Option LevelFault :=
  (reports owner events).getLast?.join

@[simp] theorem reports_nil (owner : String) : reports owner [] = [] := rfl

@[simp] theorem reports_append (owner : String) (first second : List Event) :
    reports owner (first ++ second) = reports owner first ++ reports owner second :=
  List.filterMap_append

/-- A fault is among the reports of a module exactly if the events tell of it.
    An end of all faults is a report as well, but of no fault. -/
theorem mem_reports_iff (source : String) (fault : LevelFault) (events : List Event) :
    some fault ∈ reports source events ↔ faultRaised source fault ∈ events := by
  simp only [reports, List.mem_filterMap]
  constructor
  · rintro ⟨event, hmem, hreport⟩
    cases event <;> simp only [report?, reduceCtorEq] at hreport
    case faultRaised =>
      split at hreport
      · rename_i hsource
        cases hreport
        exact hsource ▸ hmem
      · cases hreport
    case faultsCleared =>
      split at hreport <;> cases hreport
  · intro hmem
    exact ⟨_, hmem, by simp [report?]⟩

/-- An end to faults is among the reports of a module exactly if the events tell
    of one. -/
theorem none_mem_reports_iff (source : String) (events : List Event) :
    none ∈ reports source events ↔ faultsCleared source ∈ events := by
  simp only [reports, List.mem_filterMap]
  constructor
  · rintro ⟨event, hmem, hreport⟩
    cases event <;> simp only [report?, reduceCtorEq] at hreport
    case faultsCleared =>
      split at hreport
      · rename_i hsource
        exact hsource ▸ hmem
      · cases hreport
    case faultRaised =>
      split at hreport <;> cases hreport
  · intro hmem
    exact ⟨_, hmem, by simp [report?]⟩

/-- Events without a report leave the last report as it is, however many they
    are. -/
theorem lastReported_append_of_quiet {owner : String} {later : List Event} (events : List Event)
    (hquiet : reports owner later = []) :
    lastReported owner (events ++ later) = lastReported owner events := by
  simp [lastReported, hquiet]

end Event

namespace Alarm

variable {π : Type} [Panel π]

/-- Reporting a fault suspends the machine once, and tells of the fault when it
    is another one than that of the last report. It does so whatever the panel
    shows. -/
theorem report_fault (a : Alarm) (fault : LevelFault) (panel : π) :
    let done := a.report (some fault) panel
    done.value.1.escalator.paused = true ∧
      done.value.1.escalator.owner = a.escalator.owner ∧
      done.value.1.last = some fault ∧
      done.trace.sent = (if a.escalator.paused then [] else [suspendCommand]) ∧
      Event.reports a.escalator.owner done.trace.events =
        (if a.last = some fault then [] else [some fault]) := by
  intro done
  obtain ⟨hpaused, howner, hsuspended, hsent, hevents⟩ :=
    a.escalator.raise_spec fault (a.menus.menuOf fault) panel
  refine ⟨?_, ?_, ?_, ?_, ?_⟩
  · simpa [done, report] using hpaused
  · simpa [done, report] using howner
  · simp [done, report]
  · simpa [done, report] using hsent
  · simp only [done, report, Traced.trace_bind, Trace.events_append, hevents, hsuspended]
    by_cases hsame : a.last = some fault <;> cases a.escalator.paused <;>
      simp [hsame, Event.reports, Event.report?]

/-- Reporting that there is no fault leaves a suspension as it is, since only a
    resume ends one. It is told only if a fault was reported last. -/
theorem report_clear (a : Alarm) (panel : π) :
    let done := a.report none panel
    done.value.1.escalator.paused = a.escalator.paused ∧
      done.value.1.escalator.owner = a.escalator.owner ∧
      done.value.1.last = none ∧
      done.trace.sent = [] ∧
      Event.reports a.escalator.owner done.trace.events =
        (if a.last.isSome then [none] else []) := by
  intro done
  obtain ⟨hpaused, howner, hsent, hevents⟩ := a.escalator.allClear_spec panel
  refine ⟨?_, ?_, ?_, ?_, ?_⟩
  · simpa [done, report] using hpaused
  · simpa [done, report] using howner
  · simp [done, report]
  · simpa [done, report] using hsent
  · simp only [done, report, Traced.trace_bind, Trace.events_append, hevents]
    cases a.last <;> simp [Event.reports, Event.report?]

/-- A report tells nothing in the name of another module, so that the reports of
    one module can be followed without those of the others. -/
theorem reports_report_of_ne (a : Alarm) {source : String} (hsource : source ≠ a.escalator.owner)
    (fault : Option LevelFault) (panel : π) :
    Event.reports source (a.report fault panel).trace.events = [] := by
  have hother : ¬a.escalator.owner = source := Ne.symm hsource
  cases fault with
  | some fault =>
    obtain ⟨_, _, hsuspended, _, hevents⟩ :=
      a.escalator.raise_spec fault (a.menus.menuOf fault) panel
    simp only [report, Traced.trace_bind, Trace.events_append, hevents, hsuspended]
    by_cases hsame : a.last = some fault <;> cases a.escalator.paused <;>
      simp [hsame, Event.reports, Event.report?, hother]
  | none =>
    obtain ⟨_, _, _, hevents⟩ := a.escalator.allClear_spec panel
    simp only [report, Traced.trace_bind, Trace.events_append, hevents]
    cases a.last <;> simp [Event.reports, Event.report?, hother]

theorem owner_report (a : Alarm) (fault : Option LevelFault) (panel : π) :
    (a.report fault panel).value.1.escalator.owner = a.escalator.owner := by
  cases fault with
  | some fault => exact (a.report_fault fault panel).2.1
  | none => exact (a.report_clear panel).2.1

/-- After a report a module is paused if there is a fault, and otherwise if it
    was before: no report ends a pause. -/
theorem paused_report (a : Alarm) (fault : Option LevelFault) (panel : π) :
    (a.report fault panel).value.1.escalator.paused = (fault.isSome || a.escalator.paused) := by
  cases fault with
  | some fault => simpa using (a.report_fault fault panel).1
  | none => simpa using (a.report_clear panel).1

/-- A report sends nothing but the suspend command, by a fault in a module that
    is not paused. -/
theorem sent_report (a : Alarm) (fault : Option LevelFault) (panel : π) :
    (a.report fault panel).trace.sent =
      if fault.isSome && !a.escalator.paused then [suspendCommand] else [] := by
  cases fault with
  | some fault =>
    rw [(a.report_fault fault panel).2.2.2.1]
    cases a.escalator.paused <;> rfl
  | none => simpa using (a.report_clear panel).2.2.2.1

/-- A report suspends the machine exactly by a fault in a module that is not
    paused. -/
theorem suspended_report (a : Alarm) (fault : Option LevelFault) (panel : π) :
    (a.report fault panel).value.2.2.suspended = (fault.isSome && !a.escalator.paused) := by
  cases fault with
  | some fault =>
    obtain ⟨_, _, hsuspended, _⟩ := a.escalator.raise_spec fault (a.menus.menuOf fault) panel
    simpa [report] using hsuspended
  | none => simp [report]

/-- The alarm's note of its last report is what its reports tell the outside. So
    the note can be read off the events, given that it could before. -/
theorem last_report (a : Alarm) (fault : Option LevelFault) (panel : π) (past : List Event)
    (hlast : a.last = Event.lastReported a.escalator.owner past) :
    (a.report fault panel).value.1.last =
      Event.lastReported a.escalator.owner (past ++ (a.report fault panel).trace.events) := by
  cases fault with
  | some fault =>
    obtain ⟨_, _, hafter, _, hreports⟩ := a.report_fault fault panel
    by_cases hsame : a.last = some fault
    · rw [if_pos hsame] at hreports
      rw [Event.lastReported_append_of_quiet past hreports, ← hlast, hafter, hsame]
    · rw [if_neg hsame] at hreports
      simp [hafter, Event.lastReported, hreports]
  | none =>
    obtain ⟨_, _, hafter, _, hreports⟩ := a.report_clear panel
    cases hbefore : a.last with
    | none =>
      simp only [hbefore, Option.isSome_none, Bool.false_eq_true, if_false] at hreports
      rw [Event.lastReported_append_of_quiet past hreports, ← hlast, hafter, hbefore]
    | some fault =>
      simp only [hbefore, Option.isSome_some, if_true] at hreports
      simp [hafter, Event.lastReported, hreports]

end Alarm

end Interlock
