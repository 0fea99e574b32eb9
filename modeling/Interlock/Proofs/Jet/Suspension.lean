import Interlock.Proofs.Jet.Edges
import Interlock.Proofs.Jet.Unrequested

namespace Interlock

namespace WaterJet

open ProcessState

/-- Whether an operation moves the process into one of the states, as the
    outside is told. -/
def enters (j : WaterJet) (op : Operation) (states : List ProcessState) : Bool :=
  (Event.moves (j.perform op).trace.events).any fun move => states.contains move.2

/-- Whether an operation asks for a job, by a start that is accepted or by a
    request. -/
def asksForJob (j : WaterJet) : Operation → Bool
  | .command code => code == startCode && j.active && j.sensors.doorClosed
  | .requestState raw => ofRaw raw == running
  | _ => false

/-- Whether an operation is a second in which the alarm suspends the machine. -/
def escalatesIn (j : WaterJet) : Operation → Bool
  | @Operation.tick _ _ panel => (j.tick panel).trace.sent.contains suspendCommand
  | _ => false

/-- Whether an operation settles or forgets all that suspended the machine: the
    process enters `resuming` or is switched off, or a job is asked for, even in
    the middle of one. -/
def clears (j : WaterJet) (op : Operation) : Bool :=
  j.enters op [resuming, off] || j.asksForJob op

/-- What suspends the machine in an operation. The pause sequence belongs to
    entering the states of pause, whether or not its commands find room. -/
def causes (j : WaterJet) (op : Operation) : List Suspension :=
  (if j.enters op pausedStates then [.pauseSequence] else []) ++
    if j.escalatesIn op then [.escalation] else []

/-- What suspended the machine since the last clearing, after one more
    operation. -/
def causesAfter (j : WaterJet) (before : List Suspension) (op : Operation) : List Suspension :=
  if j.clears op then [] else before ++ j.causes op

/-- What suspended the machine since the last clearing of a run; without one it
    adds to what came before. -/
def causesSince (j : WaterJet) (before : List Suspension) : List Operation → List Suspension
  | [] => before
  | op :: ops => (j.perform op).value.causesSince (j.causesAfter before op) ops

/-- The note of several causes. -/
def noted (causes : List Suspension) : Option Suspension :=
  if causes.contains .pauseSequence then some .pauseSequence
  else if causes.contains .escalation then some .escalation
  else none

/-- An operation tells of one move at most, so that it enters one state at most. -/
theorem moves_perform (j : WaterJet) (op : Operation) :
    Event.moves (j.perform op).trace.events =
      if (j.perform op).value.state = j.state then []
      else [(j.state, (j.perform op).value.state)] :=
  (tellsMove_perform j op).moves

/-- An operation enters one of the states exactly if it moves and ends in one of
    them. -/
theorem enters_eq (j : WaterJet) (op : Operation) (states : List ProcessState) :
    j.enters op states =
      ((j.perform op).value.state != j.state && states.contains (j.perform op).value.state) := by
  rw [enters, moves_perform]
  by_cases hstays : (j.perform op).value.state = j.state
  · simp [hstays]
  · rw [if_neg hstays, bne_iff_ne.2 hstays]
    simp

/-- The note of what suspended the machine, on the way from one cutter to
    another: a clearing empties it, the pause sequence replaces it, and an
    escalation is noted where nothing else is. -/
def NotesSuspension (before after : WaterJet) (asks escalates : Bool) : Prop :=
  let moves (states : List ProcessState) :=
    after.state != before.state && states.contains after.state
  after.context.suspension =
    if moves [resuming, off] || asks then none
    else if moves pausedStates then some .pauseSequence
    else if escalates then some (before.context.suspension.getD .escalation)
    else before.context.suspension

theorem NotesSuspension.of_stays {before after : WaterJet}
    (hprocess : after.process = before.process)
    (hsuspension : after.context.suspension = before.context.suspension) :
    NotesSuspension before after false false := by
  have hstate : after.state = before.state := congrArg JobProcess.current hprocess
  simp [NotesSuspension, hstate, hsuspension]

/-- A move by command notes what the state that is entered leaves of the
    suspension. A job is asked for by a move to `running` even from there, which
    forgets the suspension though nothing is entered. -/
theorem notesSuspension_goto (j : WaterJet) (target : ProcessState) :
    NotesSuspension j (j.goto target).value (target == running) false := by
  unfold NotesSuspension
  rw [state_goto, context_goto, context_preparedFor]
  by_cases hstays : target = j.state
  · cases target <;> simp [← hstays]
  · rw [if_neg hstays, bne_iff_ne.2 hstays]
    cases target <;> simp [entrySuspension, pausedStates]

/-- A command notes it by its moves; a start that is refused makes none. -/
theorem notesSuspension_command (j : WaterJet) (code : Nat) :
    NotesSuspension j (j.command code).value.1 (j.asksForJob (.command code)) false := by
  have hafter := afterCommand_command j code
  generalize (j.command code).value.1 = after at hafter ⊢
  cases hafter with
  | switchedOn => exact notesSuspension_goto { j with active := true } menu
  | keptOn => exact .of_stays rfl rfl
  | switchedOff =>
    exact notesSuspension_goto { j with active := false, context := j.context.stopWork } off
  | started haccepts =>
    have hasks : j.asksForJob (.command startCode) = true := by simp [asksForJob, haccepts]
    rw [hasks]
    exact notesSuspension_goto j running
  | ended => exact notesSuspension_goto j ending
  | unchanged _ hrefused =>
    have hasks : j.asksForJob (.command code) = false := by simpa [asksForJob] using hrefused
    rw [hasks]
    exact .of_stays rfl rfl

/-- A second notes first what the process enters and then the escalation. They
    do not compete: the state of a fault leaves the note, and only there the
    alarm suspends. -/
theorem Settled.notesSuspension_tick {j : WaterJet} (hsettled : j.Settled) {π : Type} [Panel π]
    (panel : π) :
    NotesSuspension j (j.tick panel).value.1 false (j.escalatesIn (.tick panel)) := by
  cases hactive : j.active with
  | false =>
    simp only [escalatesIn, tick_of_inactive hactive]
    exact .of_stays rfl rfl
  | true =>
    have hstate := hsettled.state_tick hactive panel
    have hescalates : j.escalatesIn (.tick panel) =
        ((j.state.raises j.found).isSome && !j.isPaused) := by
      rw [escalatesIn, hsettled.sent_tick_eq hactive]
      split <;> simp_all
    unfold NotesSuspension
    rw [hsettled.suspension_tick hactive, hstate, hescalates]
    cases hraises : j.state.raises j.found with
    | some fault =>
      have hsuccessor : j.state.successor j.seen = ofFault fault := successor_of_raises hraises
      rw [suspension_advanced_of_raises hraises, hsuccessor]
      cases fault <;> simp [ofFault, pausedStates]
    | none =>
      rw [suspension_advanced]
      by_cases hstays : j.state.successor j.seen = j.state
      · simp [hstays]
      · have hsuspends := suspends_successor hstays
        rw [bne_iff_ne.2 hstays, if_neg hstays]
        revert hsuspends
        cases j.state.successor j.seen <;> simp [suspends, entrySuspension, pausedStates]

/-- The note after an operation. The start of a job clears it, a state of pause
    sets it to the pause sequence, and a fault sets it to an escalation unless
    there is a note already. -/
theorem Settled.suspension_perform {j : WaterJet} (hsettled : j.Settled) (op : Operation) :
    (j.perform op).value.context.suspension =
      if j.clears op then none
      else if j.enters op pausedStates then some .pauseSequence
      else if j.escalatesIn op then some (j.context.suspension.getD .escalation)
      else j.context.suspension := by
  have hnotes : NotesSuspension j (j.perform op).value (j.asksForJob op) (j.escalatesIn op) := by
    cases op with
    | poll pins =>
      rw [perform_poll, value_poll]
      exact .of_stays rfl rfl
    | tick panel =>
      rw [perform_tick]
      exact hsettled.notesSuspension_tick panel
    | drive pins => exact .of_stays rfl rfl
    | command code =>
      rw [perform_command]
      exact notesSuspension_command j code
    | requestState raw => exact notesSuspension_goto j (.ofRaw raw)
    | resume =>
      rw [perform_resume, value_resume]
      exact .of_stays rfl rfl
  rw [clears, enters_eq, enters_eq]
  exact hnotes

/-- The note is what the history since the last clearing says. -/
theorem Settled.noted_perform {j : WaterJet} (hsettled : j.Settled) {before : List Suspension}
    (hnoted : j.context.suspension = noted before) (op : Operation) :
    (j.perform op).value.context.suspension = noted (j.causesAfter before op) := by
  rw [hsettled.suspension_perform, hnoted, causesAfter, causes]
  cases j.clears op
  · cases j.enters op pausedStates <;> cases j.escalatesIn op <;>
      by_cases hsequence : Suspension.pauseSequence ∈ before <;>
      by_cases hescalation : Suspension.escalation ∈ before <;> simp [noted, hsequence, hescalation]
  · simp [noted]

theorem Settled.noted_performAll {j : WaterJet} (hsettled : j.Settled) {before : List Suspension}
    (hnoted : j.context.suspension = noted before) (ops : List Operation) :
    (j.performAll ops).value.context.suspension = noted (j.causesSince before ops) := by
  induction ops generalizing j before with
  | nil => exact hnoted
  | cons op ops ih => exact ih (hsettled.perform op) (hsettled.noted_perform hnoted op)

/-- What waits to be sent, on the way from one cutter to another: the commands
    of the state that is entered are added, as far as there is room. -/
def QueuesEntry (before after : WaterJet) : Prop :=
  after.context.outbox =
    if after.state = before.state then before.context.outbox
    else before.context.outbox ++
      (after.state.entryCommands before.context.suspension).take before.context.room

theorem QueuesEntry.of_stays {before after : WaterJet} (hprocess : after.process = before.process)
    (houtbox : after.context.outbox = before.context.outbox) : QueuesEntry before after := by
  have hstate : after.state = before.state := congrArg JobProcess.current hprocess
  rw [QueuesEntry, if_pos hstate, houtbox]

theorem queuesEntry_goto (j : WaterJet) (target : ProcessState) :
    QueuesEntry j (j.goto target).value := by
  rw [QueuesEntry, state_goto, outbox_goto]

/-- A command queues them by its moves. -/
theorem queuesEntry_command (j : WaterJet) (code : Nat) :
    QueuesEntry j (j.command code).value.1 := by
  have hafter := afterCommand_command j code
  generalize (j.command code).value.1 = after at hafter ⊢
  cases hafter with
  | switchedOn => exact queuesEntry_goto { j with active := true } menu
  | keptOn => exact .of_stays rfl rfl
  | switchedOff =>
    exact queuesEntry_goto { j with active := false, context := j.context.stopWork } off
  | started => exact queuesEntry_goto j running
  | ended => exact queuesEntry_goto j ending
  | unchanged => exact .of_stays rfl rfl

/-- A second queues the commands of the state that the process moves to. The
    suspend command of the alarm is sent at once, and is not among them. -/
theorem Settled.queuesEntry_tick {j : WaterJet} (hsettled : j.Settled) {π : Type} [Panel π]
    (panel : π) : QueuesEntry j (j.tick panel).value.1 := by
  cases hactive : j.active with
  | false =>
    rw [tick_of_inactive hactive]
    exact .of_stays rfl rfl
  | true =>
    obtain ⟨_, _, houtbox, _⟩ := hsettled.kept_tick hactive panel
    rw [QueuesEntry, hsettled.state_tick hactive, houtbox, outbox_advanced]

/-- Whether an operation drives the outputs, which sends what waits. -/
def Operation.Drives : Operation → Prop
  | @Operation.drive _ _ _ => True
  | _ => False

/-- Every operation but the driving of the outputs queues the commands of the
    state that it enters. -/
theorem Settled.queuesEntry_of_not_drives {j : WaterJet} (hsettled : j.Settled) {op : Operation}
    (hother : ¬op.Drives) : QueuesEntry j (j.perform op).value := by
  cases op with
  | poll pins =>
    rw [perform_poll, value_poll]
    exact .of_stays rfl rfl
  | tick panel =>
    rw [perform_tick]
    exact hsettled.queuesEntry_tick panel
  | drive pins => exact absurd trivial hother
  | command code =>
    rw [perform_command]
    exact queuesEntry_command j code
  | requestState raw => exact queuesEntry_goto j (.ofRaw raw)
  | resume =>
    rw [perform_resume, value_resume]
    exact .of_stays rfl rfl

theorem drained_of_drives {op : Operation} (hdrives : op.Drives) (j : WaterJet) :
    (j.perform op).value.process = j.process ∧ (j.perform op).value.context.outbox = [] := by
  cases op with
  | drive pins => exact ⟨rfl, rfl⟩
  | poll pins | tick panel | command code | requestState raw | resume => exact absurd hdrives id

/-- Every operation queues the commands of the state that it enters, apart from
    driving the outputs, which leaves nothing waiting. -/
theorem Settled.queuesEntry_perform {j : WaterJet} (hsettled : j.Settled) (op : Operation) :
    QueuesEntry j (j.perform op).value ∨
      (j.perform op).value.state = j.state ∧ (j.perform op).value.context.outbox = [] := by
  by_cases hdrives : op.Drives
  · obtain ⟨hprocess, hempty⟩ := drained_of_drives hdrives j
    exact .inr ⟨congrArg JobProcess.current hprocess, hempty⟩
  · exact .inl (hsettled.queuesEntry_of_not_drives hdrives)

/-- An operation adds these commands to those that wait, of which there are
    sixteen at most: the first of them are added, and those that do not fit any
    more are dropped. -/
def Queues (j : WaterJet) (op : Operation) (commands : List String) : Prop :=
  (j.perform op).value.context.outbox =
    j.context.outbox ++ commands.take (16 - j.context.outbox.length)

/-- An operation that enters one of the states queues the commands of that
    state: driving the outputs, the one operation that empties the outbox,
    enters none. -/
theorem Settled.queues_of_enters {j : WaterJet} (hsettled : j.Settled) {op : Operation}
    {states : List ProcessState} (henters : j.enters op states = true) :
    ∃ state ∈ states, j.Queues op (state.entryCommands j.context.suspension) := by
  rw [enters_eq, Bool.and_eq_true, bne_iff_ne, List.contains_iff_mem] at henters
  obtain ⟨hmoves, hstate⟩ := henters
  obtain hqueues | ⟨hstays, _⟩ := hsettled.queuesEntry_perform op
  · rw [QueuesEntry, if_neg hmoves] at hqueues
    exact ⟨_, hstate, hqueues⟩
  · exact absurd hstays hmoves

/-- Where no state with commands of its own is entered, nothing is added to the
    outbox. It stays, or it is sent as a whole. -/
theorem Settled.isPrefix_outbox {j : WaterJet} (hsettled : j.Settled) {op : Operation}
    (hquiet : j.enters op (resuming :: pausedStates) = false) :
    (j.perform op).value.context.outbox <+: j.context.outbox := by
  rw [enters_eq, Bool.and_eq_false_iff, bne_eq_false_iff_eq] at hquiet
  obtain hqueues | ⟨_, hempty⟩ := hsettled.queuesEntry_perform op
  · rw [hqueues]
    split
    · exact List.prefix_rfl
    · rename_i hmoves
      have hother := hquiet.resolve_left hmoves
      have hsilent : (j.perform op).value.state.entryCommands j.context.suspension = [] := by
        revert hother
        cases (j.perform op).value.state <;> simp [entryCommands, pausedStates]
      simp [hsilent]
  · rw [hempty]
    exact List.nil_prefix

/-- Whatever is done with a new cutter, an operation that enters `resuming`
    queues what undoes the suspension, as far as there is room: all that takes
    the cutting up again, if the pause sequence was queued since the last
    clearing; the resume command alone, if since then only the alarm suspended
    the machine; and all that takes the cutting up again, if nothing did. The
    pause sequence is queued exactly where a state of pause is entered, and no
    other operation adds commands. -/
theorem resuming_undoes_suspension {ι : Type} [PinAccess ι] {s : JetSettings} {delay : Nat}
    {pins : ι} {new : WaterJet} (hbuild : (build s delay pins).value = .ok new)
    (ops : List Operation)
    (op : Operation) :
    let j := (new.performAll ops).value
    let causes := new.causesSince [] ops
    (j.enters op [resuming] = true →
      (.pauseSequence ∈ causes → j.Queues op ["M42", "M46", "G4 S1.0", "M3", "M8"]) ∧
        (.pauseSequence ∉ causes → .escalation ∈ causes → j.Queues op ["M601"]) ∧
        (causes = [] → j.Queues op ["M42", "M46", "G4 S1.0", "M3", "M8"])) ∧
      (j.enters op pausedStates = true →
        j.Queues op ["M600", "M9", "G4 S2.0", "M47", "M5", "M43"]) ∧
      (j.enters op (resuming :: pausedStates) = false →
        (j.perform op).value.context.outbox <+: j.context.outbox) := by
  intro j causes
  obtain ⟨rfl, _⟩ := build_ok hbuild
  have hsettled : j.Settled := (settled_ofSettings s delay).performAll ops
  have hnoted : j.context.suspension = noted causes :=
    (settled_ofSettings s delay).noted_performAll rfl ops
  refine ⟨fun hresumes => ?_, fun hpauses => ?_, hsettled.isPrefix_outbox⟩
  · obtain ⟨state, hstate, hqueues⟩ := hsettled.queues_of_enters hresumes
    obtain rfl := List.mem_singleton.1 hstate
    have hundoes {note : Option Suspension} (hnote : noted causes = note) :
        j.Queues op (resumeCommands note) := by
      rwa [hnoted, hnote] at hqueues
    refine ⟨fun hsequence => ?_, fun hsequence hescalation => ?_, fun hnone => ?_⟩
    · have hnote : noted causes = some .pauseSequence := by simp [noted, hsequence]
      exact hundoes hnote
    · have hnote : noted causes = some .escalation := by simp [noted, hsequence, hescalation]
      exact hundoes hnote
    · have hnote : noted causes = none := by simp [noted, hnone]
      exact hundoes hnote
  · obtain ⟨state, hstate, hqueues⟩ := hsettled.queues_of_enters hpauses
    simp only [pausedStates, List.mem_cons, List.not_mem_nil, or_false] at hstate
    obtain rfl | rfl := hstate <;> exact hqueues

/-- A job that an overfull tank suspended resumes with the resume command alone,
    and with all that takes the cutting up again if a pause was requested
    meanwhile. -/
theorem resuming_undoes_suspension_overfull :
    let suspended : List Operation :=
      [.command 1401, .poll (plainPins ["P2.12"]), .command 1403, .tick ({} : StubPanel),
        .poll (plainPins ["P2.12", "P1.29"]), .tick ({} : StubPanel), .poll (plainPins ["P2.12"])]
    let second : Operation := .tick ({} : StubPanel)
    ((plain (suspended ++ [.resume])).perform second).value.context.outbox = ["M601"] ∧
      ((plain (suspended ++ [.requestState 7, .resume])).perform second).value.context.outbox =
        ["M600", "M9", "G4 S2.0", "M47", "M5", "M43", "M42", "M46", "G4 S1.0", "M3", "M8"] := by
  intro suspended second
  have hbuild : (WaterJet.build plainSettings 20 (plainPins [])).value =
      .ok (ofSettings plainSettings 20) := rfl
  have halone := (resuming_undoes_suspension hbuild (suspended ++ [.resume]) second).1 (by decide)
  have hsequence := (resuming_undoes_suspension hbuild
    (suspended ++ [.requestState 7, .resume]) second).1 (by decide)
  exact ⟨(halone.2.1 (by decide) (by decide)).trans (by decide),
    (hsequence.1 (by decide)).trans (by decide)⟩

end WaterJet

end Interlock
