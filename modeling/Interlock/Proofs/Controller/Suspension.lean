import Interlock.Proofs.Controller.Operation
import Interlock.Proofs.Controller.Feedback

namespace Interlock

/-- The last of the suspend and resume commands among those that were sent. -/
def lastPauseCommand (sent : List String) : Option String :=
  (sent.filter fun command => command == suspendCommand || command == resumeCommand).getLast?

@[simp] theorem lastPauseCommand_nil : lastPauseCommand [] = none := rfl

theorem lastPauseCommand_append (first second : List String) :
    lastPauseCommand (first ++ second) = (lastPauseCommand second).or (lastPauseCommand first) := by
  unfold lastPauseCommand
  rw [List.filter_append, List.getLast?_append]

theorem mem_of_lastPauseCommand {sent : List String} {command : String}
    (hlast : lastPauseCommand sent = some command) :
    command = suspendCommand ∨ command = resumeCommand := by
  have hmem := List.mem_of_getLast? hlast
  simpa using (List.mem_filter.1 hmem).2

theorem lastPauseCommand_of_suspends {sent : List String}
    (hall : ∀ command ∈ sent, command = suspendCommand) (hsome : sent ≠ []) :
    lastPauseCommand sent = some suspendCommand := by
  have hself : (sent.filter fun command => command == suspendCommand || command == resumeCommand) =
      sent := List.filter_eq_self.2 fun command hmem => by simp [hall command hmem]
  rw [lastPauseCommand, hself, List.getLast?_eq_some_getLast hsome, hall _ (List.getLast_mem hsome)]

/-- Commands of other kinds do not count, however many there are. -/
theorem lastPauseCommand_of_neither {sent : List String}
    (hnone : ∀ command ∈ sent, command ≠ suspendCommand ∧ command ≠ resumeCommand) :
    lastPauseCommand sent = none := by
  have hempty : (sent.filter fun command => command == suspendCommand || command == resumeCommand) =
      [] := List.filter_eq_nil_iff.2 fun command hmem => by simp [hnone command hmem]
  rw [lastPauseCommand, hempty, List.getLast?_nil]

/-- The pause sequence suspends the machine if its first command fits: that is
    the suspend command, and none of the others resumes. -/
theorem lastPauseCommand_pauseSequence {n : Nat} (hfits : 0 < n) :
    lastPauseCommand (pauseSequence.take n) = some suspendCommand := by
  have hrest :
      ∀ command ∈ pauseSequence.tail, command ≠ suspendCommand ∧ command ≠ resumeCommand := by
    decide
  have htail (n : Nat) : lastPauseCommand (pauseSequence.tail.take n) = none :=
    lastPauseCommand_of_neither fun command hmem => hrest command (List.mem_of_mem_take hmem)
  cases n with
  | zero => cases hfits
  | succ n =>
    have hsplit : pauseSequence.take (n + 1) = [suspendCommand] ++ pauseSequence.tail.take n := rfl
    rw [hsplit, lastPauseCommand_append, htail]
    rfl

/-- Of the commands that undo a suspension, only the one that undoes an
    escalation counts. -/
theorem lastPauseCommand_resumeCommands {suspension : Option Suspension} (n : Nat) :
    lastPauseCommand ((ProcessState.resumeCommands suspension).take n) =
      if suspension = some .escalation ∧ 0 < n then some resumeCommand else none := by
  have hsequence :
      ∀ command ∈ resumeSequence, command ≠ suspendCommand ∧ command ≠ resumeCommand := by
    decide
  have hnone : lastPauseCommand (resumeSequence.take n) = none :=
    lastPauseCommand_of_neither fun command hmem => hsequence command (List.mem_of_mem_take hmem)
  rcases suspension with _ | _ | _
  · simpa [ProcessState.resumeCommands] using hnone
  · simpa [ProcessState.resumeCommands] using hnone
  · cases n with
    | zero => rfl
    | succ n => simp [ProcessState.resumeCommands]; rfl

/-- If a water module is paused, the machine is suspended once all commands are
    sent. -/
def Covers (paused : Bool) (commands : List String) : Prop :=
  paused = true → lastPauseCommand commands = some suspendCommand

namespace WaterJet

open ProcessState

/-- The next second takes up a job that an escalation had suspended, and has
    room for the resume command. -/
def UndoesEscalation (j : WaterJet) : Prop :=
  j.LeavesPause ∧ j.context.suspension = some .escalation ∧ 0 < j.context.room

/-- A second queues the resume command exactly if it undoes an escalation, and
    no suspend command: that is sent at once by the alarm. So what waited before
    keeps its last word unless an escalation is undone. -/
theorem Settled.lastPauseCommand_tick {j : WaterJet} (hsettled : j.Settled) {π : Type} [Panel π]
    (panel : π) :
    (j.UndoesEscalation →
        lastPauseCommand (j.tick panel).value.1.context.outbox = some resumeCommand) ∧
      (¬j.UndoesEscalation →
        lastPauseCommand (j.tick panel).value.1.context.outbox =
          lastPauseCommand j.context.outbox) := by
  cases hactive : j.active with
  | false =>
    rw [tick_of_inactive hactive]
    refine ⟨fun hundoes => ?_, fun _ => rfl⟩
    exact absurd hundoes.1.1 (by simp [hactive])
  | true =>
    obtain ⟨_, _, houtbox, _⟩ := hsettled.kept_tick hactive panel
    rw [houtbox, outbox_advanced]
    by_cases hleaves : j.LeavesPause
    · have hresuming := (leavesPause_iff hactive).1 hleaves
      have hmoves : resuming ≠ j.state := by
        intro hstays
        obtain ⟨_, _, ⟨hpaused, _⟩ | ⟨hfault, _⟩⟩ := hleaves
        · exact absurd hpaused (by rw [← hstays]; decide)
        · exact absurd hfault (by rw [← hstays]; decide)
      rw [hresuming, if_neg hmoves, lastPauseCommand_append, entryCommands,
        lastPauseCommand_resumeCommands]
      refine ⟨fun hundoes => ?_, fun hnot => ?_⟩
      · rw [if_pos hundoes.2]
        rfl
      · rw [if_neg fun hboth => hnot ⟨hleaves, hboth⟩]
        rfl
    · refine ⟨fun hundoes => absurd hundoes.1 hleaves, fun _ => ?_⟩
      split
      · rfl
      · rename_i hmoves
        rw [entry_of_successor hmoves (hleaves ∘ (leavesPause_iff hactive).2), List.take_nil,
          List.append_nil]

/-- Every state in which the cutter is paused is entered with the pause
    sequence. -/
theorem entryCommands_of_paused {target : ProcessState} (hpaused : target ∈ pausedStates)
    (suspension : Option Suspension) : target.entryCommands suspension = pauseSequence := by
  revert hpaused
  cases target <;> simp [pausedStates, entryCommands]

theorem entryCommands_of_plain {target : ProcessState} (hplain : target ∉ pausedStates)
    (hresuming : target ≠ resuming) (suspension : Option Suspension) :
    target.entryCommands suspension = [] := by
  revert hplain hresuming
  cases target <;> simp [pausedStates, entryCommands]

/-- A request for a state that leaves a pause uncovered: it queues the resume
    command while a module is paused, or pauses the cutter when there is no room
    for a suspend command. -/
def RequestUncovers (j : WaterJet) (target : ProcessState) (sent : List String) (paused : Bool) :
    Prop :=
  target ≠ j.state ∧
    ((target = resuming ∧ j.context.suspension = some .escalation ∧ 0 < j.context.room ∧
        paused = true) ∨
      (target ∈ pausedStates ∧ j.context.room = 0 ∧
        lastPauseCommand (sent ++ j.context.outbox) ≠ some suspendCommand))

section

variable {j : WaterJet} {target : ProcessState} {sent : List String} {other : Bool}

/-- A request that pauses the cutter needs room for the suspend command, or that
    one was the last already. Another module may be paused beside the cutter. -/
theorem Settled.covers_goto_paused_iff (hsettled : j.Settled) (hmoves : target ≠ j.state)
    (hwaiting : target ∈ pausedStates) :
    Covers (other || (j.goto target).value.isPaused)
        (sent ++ (j.goto target).value.context.outbox) ↔
      (j.context.room = 0 → lastPauseCommand (sent ++ j.context.outbox) = some suspendCommand) := by
  have hsuspends := (mem_pausedStates_iff target).1 hwaiting
  have hnotRunning : target ≠ running := by
    rintro rfl
    cases hsuspends
  have hpaused : (j.goto target).value.isPaused = true := by
    rw [hsettled.isPaused_goto]
    simp [hsuspends, hnotRunning, hmoves]
  rw [hpaused, outbox_goto, if_neg hmoves, entryCommands_of_paused hwaiting, ← List.append_assoc]
  rcases Nat.eq_zero_or_pos j.context.room with hfull | hroom
  · simp [Covers, hfull]
  · simp [Covers, lastPauseCommand_append, lastPauseCommand_pauseSequence hroom,
      Nat.ne_of_gt hroom]

/-- A request that does not pause the cutter pauses nothing: it may end the
    pause of the cutter, but leaves the other module's. -/
theorem Settled.paused_of_goto (hsettled : j.Settled)
    (hplain : target ≠ j.state → target ∉ pausedStates)
    (hpaused : (other || (j.goto target).value.isPaused) = true) :
    (other || j.isPaused) = true := by
  rw [hsettled.isPaused_goto, Bool.or_eq_true] at hpaused
  rw [Bool.or_eq_true]
  refine hpaused.imp_right fun hafter => ?_
  have hsilent : (target != j.state && target.suspends) = false := by
    by_cases hmoves : target = j.state
    · simp [hmoves]
    · simpa [hmoves] using Bool.eq_false_iff.2 (hplain hmoves ∘ (mem_pausedStates_iff target).2)
  rw [hsilent, Bool.false_or, Bool.and_eq_true] at hafter
  exact hafter.2

/-- A request for the resuming state must not undo an escalation during a pause.
    Other suspensions are undone by commands that do not resume the machine. -/
theorem Settled.covers_goto_resuming_iff (hsettled : j.Settled) (hmoves : resuming ≠ j.state)
    (hcovers : Covers (other || j.isPaused) (sent ++ j.context.outbox)) :
    Covers (other || (j.goto resuming).value.isPaused)
        (sent ++ (j.goto resuming).value.context.outbox) ↔
      ¬(j.context.suspension = some .escalation ∧ 0 < j.context.room ∧
        (other || j.isPaused) = true) := by
  have hpaused : (j.goto resuming).value.isPaused = j.isPaused := by
    rw [hsettled.isPaused_goto]
    simp [suspends]
  rw [hpaused, outbox_goto, if_neg hmoves, ← List.append_assoc, Covers, lastPauseCommand_append,
    entryCommands, lastPauseCommand_resumeCommands]
  by_cases hundoes : j.context.suspension = some .escalation ∧ 0 < j.context.room
  · simp [hundoes, suspendCommand, resumeCommand]
  · rw [if_neg hundoes]
    refine iff_of_true hcovers ?_
    rintro ⟨hescalation, hroom, _⟩
    exact hundoes ⟨hescalation, hroom⟩

/-- A request that changes nothing, or that neither pauses nor resumes the
    cutter, keeps a pause covered, as it queues no command. -/
theorem Settled.covers_goto_plain (hsettled : j.Settled)
    (hplain : target ≠ j.state → target ∉ pausedStates ∧ target ≠ resuming)
    (hcovers : Covers (other || j.isPaused) (sent ++ j.context.outbox)) :
    Covers (other || (j.goto target).value.isPaused)
      (sent ++ (j.goto target).value.context.outbox) := by
  have houtbox : (j.goto target).value.context.outbox = j.context.outbox := by
    rw [outbox_goto]
    split
    · rfl
    · rename_i hmoves
      obtain ⟨hwaiting, hresuming⟩ := hplain hmoves
      rw [entryCommands_of_plain hwaiting hresuming, List.take_nil, List.append_nil]
  rw [houtbox]
  exact fun hpaused => hcovers (hsettled.paused_of_goto (fun hmoves => (hplain hmoves).1) hpaused)

/-- The request, whatever its target is: a covered pause stays covered unless
    the request uncovers it. -/
theorem Settled.covers_goto_iff (hsettled : j.Settled) (target : ProcessState)
    (hcovers : Covers (other || j.isPaused) (sent ++ j.context.outbox)) :
    Covers (other || (j.goto target).value.isPaused)
      (sent ++ (j.goto target).value.context.outbox) ↔
      ¬j.RequestUncovers target sent (other || j.isPaused) := by
  unfold RequestUncovers
  by_cases hmoves : target = j.state
  · exact iff_of_true (hsettled.covers_goto_plain (fun hne => absurd hmoves hne) hcovers)
      fun huncovers => huncovers.1 hmoves
  by_cases hwaiting : target ∈ pausedStates
  · have hnotResuming : target ≠ resuming := by
      rintro rfl
      exact absurd hwaiting (by decide)
    rw [hsettled.covers_goto_paused_iff hmoves hwaiting]
    simp [hmoves, hwaiting, hnotResuming]
  by_cases hresuming : target = resuming
  · subst hresuming
    rw [hsettled.covers_goto_resuming_iff hmoves hcovers]
    simp [hmoves, hwaiting]
  · refine iff_of_true (hsettled.covers_goto_plain (fun _ => ⟨hwaiting, hresuming⟩) hcovers) ?_
    simp [hwaiting, hresuming]

end

end WaterJet

namespace Controller

open WaterJet ProcessState

/-- The commands that are sent when the outputs are driven. -/
def waiting (c : Controller) : List String :=
  c.jet.elim [] fun jet => jet.context.outbox

/-- While a water module is paused, the last of the suspend and resume commands
    is a suspend command. What waits is counted with what was sent. -/
def Covered (c : Controller) (sent : List String) : Prop :=
  Covers c.isSuspended (sent ++ c.waiting)

/-- Whether a water module finds a fault in the next second. -/
def findsFault (c : Controller) : Bool :=
  (c.tank.elim false fun tank => tank.fault?.isSome) ||
    c.jet.elim false fun jet => jet.fault?.isSome

/-- After the next second a resume command waits, and behind it no suspend
    command. -/
def ResumesLast (c : Controller) : Prop :=
  (∃ jet, c.jet = some jet ∧ jet.UndoesEscalation) ∨ lastPauseCommand c.waiting = some resumeCommand

/-- The operations that leave a pause without a suspension of the machine: a
    second that ends with a module paused and a resume command to be sent behind
    all suspend commands, and a request for a state which queues that command
    during a pause, or a pause for whose commands there is no room. -/
def Uncovers (c : Controller) (sent : List String) : Operation → Prop
  | @Operation.tick _ _ _ => (c.findsFault || c.isSuspended) = true ∧ c.ResumesLast
  | .requestState raw =>
    ∃ jet, c.jet = some jet ∧ jet.RequestUncovers (ofRaw raw) sent c.isSuspended
  | _ => False

/-- Where nothing is added to what was sent and waits, and no pause begins, a
    pause stays covered. What waited may have been sent. -/
theorem Covered.of_same {c c' : Controller} {sent sent' : List String} (hcovered : c.Covered sent)
    (hsame : sent' ++ c'.waiting = sent ++ c.waiting)
    (hsuspended : c'.isSuspended = true → c.isSuspended = true) : c'.Covered sent' := by
  intro hpaused
  rw [hsame]
  exact hcovered (hsuspended hpaused)

section

variable {σ ι : Type} [SwitchAccess σ] [PinAccess ι] {c : Controller}

/-- After a second the machine is suspended if it was, or if a module found a
    fault. -/
theorem Settled.isSuspended_tick (hsettled : c.Settled) (switches : σ) :
    (c.tick switches).value.1.isSuspended = (c.findsFault || c.isSuspended) := by
  obtain ⟨tankPanel, jetPanel, htank, hjet, _⟩ := c.tick_spec switches
  have htankPaused : (c.tick switches).value.1.tankPaused =
      ((c.tank.elim false fun tank => tank.fault?.isSome) || c.tankPaused) := by
    unfold tankPaused
    rw [htank]
    cases c.tank with
    | none => rfl
    | some tank => exact tank.isPaused_tick tankPanel
  have hjetPaused : (c.tick switches).value.1.jetPaused =
      ((c.jet.elim false fun jet => jet.fault?.isSome) || c.jetPaused) := by
    unfold jetPaused
    rw [hjet]
    cases hmodule : c.jet with
    | none => rfl
    | some jet => exact (hsettled jet hmodule).isPaused_second jetPanel
  change ((c.tick switches).value.1.tankPaused || (c.tick switches).value.1.jetPaused) =
    (c.findsFault || (c.tankPaused || c.jetPaused))
  rw [htankPaused, hjetPaused, findsFault]
  ac_rfl

/-- A second that ends with a module paused sends a suspend command, or the
    module was paused before and nothing is sent: no command comes from a second
    but to suspend. -/
theorem Settled.suspends_tick (hsettled : c.Settled) (switches : σ)
    (hsuspended : (c.findsFault || c.isSuspended) = true) :
    lastPauseCommand (c.tick switches).trace.sent = some suspendCommand ∨
      (c.tick switches).trace.sent = [] ∧ c.isSuspended = true := by
  by_cases hsent : (c.tick switches).trace.sent = []
  · refine .inr ⟨hsent, ?_⟩
    rw [hsettled.sent_tick, List.append_eq_nil_iff] at hsent
    obtain ⟨htankSilent, hjetSilent⟩ := hsent
    -- A module that finds a fault in silence was paused before.
    have hmodule {α : Type} (module : Option α) (finds paused : α → Bool)
        (hsilent : (module.elim [] fun m => if finds m && !paused m then [suspendCommand] else []) =
          []) : module.elim false finds = true → module.elim false paused = true := by
      cases module with
      | none => exact id
      | some m =>
        intro hfinds
        change finds m = true at hfinds
        simpa [hfinds] using hsilent
    have htank := hmodule c.tank _ _ htankSilent
    have hjet := hmodule c.jet _ _ hjetSilent
    change (c.tankPaused || c.jetPaused) = true
    rw [findsFault, Bool.or_eq_true, Bool.or_eq_true] at hsuspended
    rw [Bool.or_eq_true]
    exact hsuspended.elim (Or.imp htank hjet) Bool.or_eq_true_iff.1
  · exact .inl (lastPauseCommand_of_suspends (hsettled.mem_sent_tick switches) hsent)

/-- What waits after a second ends on a resume command exactly if the second
    undoes an escalation or one waited before. -/
theorem Settled.waiting_tick (hsettled : c.Settled) (switches : σ) :
    let after := (c.tick switches).value.1
    (lastPauseCommand after.waiting = some resumeCommand ↔ c.ResumesLast) ∧
      (lastPauseCommand after.waiting = none → lastPauseCommand c.waiting = none) := by
  intro after
  obtain ⟨_, jetPanel, _, hjet, _⟩ := c.tick_spec switches
  unfold ResumesLast
  cases hmodule : c.jet with
  | none => simp [after, waiting, hjet, hmodule]
  | some jet =>
    obtain ⟨hundoes, hkeeps⟩ := (hsettled jet hmodule).lastPauseCommand_tick jetPanel
    have hafter : after.waiting = (jet.tick jetPanel).value.1.context.outbox := by
      simp [after, waiting, hjet, hmodule]
    have hbefore : c.waiting = jet.context.outbox := by simp [waiting, hmodule]
    rw [hafter, hbefore]
    by_cases hjetUndoes : jet.UndoesEscalation
    · simp [hundoes hjetUndoes, hjetUndoes]
    · simp [hkeeps hjetUndoes, hjetUndoes]

/-- A second keeps a pause covered unless it uncovers it. A fault that was found
    suspends the machine at once, but a resume command that waits is sent behind
    that. -/
theorem Settled.covered_tick_iff (hsettled : c.Settled) {sent : List String}
    (hcovered : c.Covered sent) (switches : σ) :
    (c.tick switches).value.1.Covered (sent ++ (c.tick switches).trace.sent) ↔
      ¬c.Uncovers sent (.tick switches) := by
  obtain ⟨hresumes, hnone⟩ := hsettled.waiting_tick switches
  unfold Covered Covers Uncovers
  rw [hsettled.isSuspended_tick, ← hresumes, lastPauseCommand_append, lastPauseCommand_append]
  cases hlast : lastPauseCommand (c.tick switches).value.1.waiting with
  | some command =>
    rcases mem_of_lastPauseCommand hlast with rfl | rfl
    · simp [suspendCommand, resumeCommand]
    · simp [suspendCommand, resumeCommand]
  | none =>
    refine iff_of_true (fun hsuspended => ?_) (by simp)
    rcases hsettled.suspends_tick switches hsuspended with hsent | ⟨hsent, hbefore⟩
    · rw [hsent]
      rfl
    · have hkept := hcovered hbefore
      rw [lastPauseCommand_append, hnone hlast] at hkept
      rw [hsent]
      exact hkept

end

/-- What waits is the cutter's, and stays if the cutter keeps it. -/
theorem waiting_map {c c' : Controller} {f : WaterJet → WaterJet} (hjet : c'.jet = c.jet.map f)
    (hkeeps : ∀ jet, c.jet = some jet → (f jet).context.outbox = jet.context.outbox) :
    c'.waiting = c.waiting := by
  unfold waiting
  rw [hjet]
  cases hmodule : c.jet with
  | none => rfl
  | some jet => exact hkeeps jet hmodule

/-- No pause begins if neither module begins one. The cutter may be known to be
    the one of the controller. -/
theorem suspended_map {c c' : Controller} {f : WaterTank → WaterTank} {g : WaterJet → WaterJet}
    (htank : c'.tank = c.tank.map f) (hjet : c'.jet = c.jet.map g)
    (hkeepsTank : ∀ tank : WaterTank, (f tank).isPaused = true → tank.isPaused = true)
    (hkeepsJet : ∀ jet, c.jet = some jet → (g jet).isPaused = true → jet.isPaused = true)
    (hsuspended : c'.isSuspended = true) : c.isSuspended = true := by
  unfold isSuspended at *
  rw [htank, hjet, Bool.or_eq_true] at hsuspended
  rw [Bool.or_eq_true]
  refine hsuspended.imp (fun hpaused => ?_) fun hpaused => ?_
  · cases hmodule : c.tank with
    | none => simp [hmodule] at hpaused
    | some tank =>
      rw [hmodule] at hpaused
      exact hkeepsTank tank hpaused
  · cases hmodule : c.jet with
    | none => simp [hmodule] at hpaused
    | some jet =>
      rw [hmodule] at hpaused
      exact hkeepsJet jet hmodule hpaused

/-- Driving the outputs sends what waits, and nothing else. -/
theorem waiting_drive {ι : Type} [PinAccess ι] (c : Controller) (pins : ι) :
    (c.drive pins).trace.sent = c.waiting ∧ (c.drive pins).value.1.waiting = [] := by
  obtain ⟨_, ⟨jetPins, hjet⟩, hsent⟩ := c.drive_spec pins
  refine ⟨hsent, ?_⟩
  unfold waiting
  rw [hjet]
  cases c.jet <;> rfl

/-- Driving the outputs begins and ends no pause. -/
theorem isSuspended_drive {ι : Type} [PinAccess ι] (c : Controller) (pins : ι) :
    (c.drive pins).value.1.isSuspended = c.isSuspended := by
  obtain ⟨htank, ⟨jetPins, hjet⟩, _⟩ := c.drive_spec pins
  unfold isSuspended
  rw [htank, hjet]
  congr 1
  · cases c.tank with
    | none => rfl
    | some tank => exact tank.isPaused_drive pins
  · cases c.jet <;> rfl

theorem covers_drive_iff {ι : Type} [PinAccess ι] (c : Controller) (sent : List String) (pins : ι) :
    Covers (c.drive pins).value.1.isSuspended (sent ++ (c.drive pins).trace.sent) ↔
      c.Covered sent := by
  rw [isSuspended_drive, (c.waiting_drive pins).1]
  rfl

/-- A console line keeps every pause covered. A resume ends all pauses; a code
    may start or end a job, which queues neither of the two commands. -/
theorem Settled.covered_line {c : Controller} (hsettled : c.Settled) {sent : List String}
    (hcovered : c.Covered sent) (text : String) : (c.handleLine text).value.1.Covered sent := by
  unfold handleLine
  split
  · exact fun hsuspended => absurd hsuspended (Bool.eq_false_iff.1 c.isSuspended_resume)
  · rename_i code _ _
    obtain ⟨htank, hjet⟩ := c.value_command code
    refine hcovered.of_same (congrArg (sent ++ ·) (waiting_map hjet fun jet hmodule => ?_)) ?_
    · exact (hsettled jet hmodule).outbox_command code
    · refine suspended_map htank hjet (fun tank hpaused => ?_) fun jet hmodule hpaused => ?_
      · rwa [tank.isPaused_command] at hpaused
      · rw [(hsettled jet hmodule).isPaused_command] at hpaused
        split at hpaused
        · cases hpaused
        · exact hpaused
  · exact hcovered

/-- A request from the menus keeps a pause covered unless it uncovers it.
    Without a cutter it does nothing. -/
theorem Settled.covered_request_iff {c : Controller} (hsettled : c.Settled) {sent : List String}
    (hcovered : c.Covered sent) (raw : Nat) :
    (c.requestState raw).value.Covered sent ↔ ¬c.Uncovers sent (.requestState raw) := by
  obtain ⟨htank, hjet⟩ := c.value_requestState raw
  cases hmodule : c.jet with
  | none =>
    rw [hmodule] at hjet
    refine iff_of_true (hcovered.of_same ?_ ?_) ?_
    · simp [waiting, hjet, hmodule]
    · simp [isSuspended, htank, hjet, hmodule]
    · rintro ⟨jet, hnone, _⟩
      rw [hmodule] at hnone
      cases hnone
  | some jet =>
    rw [hmodule] at hjet
    have hrequest : (c.requestState raw).value.jet = some (jet.goto (ofRaw raw)).value := hjet
    have hwaits : c.waiting = jet.context.outbox := by simp [waiting, hmodule]
    have hsuspended : c.isSuspended = (c.tankPaused || jet.isPaused) := by
      simp [isSuspended, tankPaused, hmodule]
    have hbefore : Covers (c.tankPaused || jet.isPaused) (sent ++ jet.context.outbox) := by
      rwa [← hsuspended, ← hwaits]
    have hafter : (c.requestState raw).value.Covered sent ↔
        Covers (c.tankPaused || (jet.goto (ofRaw raw)).value.isPaused)
          (sent ++ (jet.goto (ofRaw raw)).value.context.outbox) := by
      simp [Covered, isSuspended, tankPaused, waiting, hrequest, htank]
    rw [hafter, (hsettled jet hmodule).covers_goto_iff (ofRaw raw) hbefore]
    simp [Uncovers, hmodule, hsuspended]

/-- Only the operations that uncover a pause leave one uncovered. Reading,
    driving, lines and browsing never do. -/
theorem Settled.covered_perform_iff {c : Controller} (hsettled : c.Settled) {sent : List String}
    (hcovered : c.Covered sent) (op : Operation) :
    (c.perform op).value.Covered (sent ++ (c.perform op).trace.sent) ↔ ¬c.Uncovers sent op := by
  cases op with
  | poll pins =>
    obtain ⟨htank, hjet⟩ := c.value_poll pins
    rw [perform_poll, sent_poll, List.append_nil]
    refine iff_of_true (hcovered.of_same ?_ ?_) id
    · rw [waiting_map hjet fun jet _ => by rw [WaterJet.value_poll]]
    · refine suspended_map htank hjet (fun tank hpaused => ?_) fun jet _ hpaused => ?_
      · rwa [tank.isPaused_poll] at hpaused
      · rwa [jet.isPaused_poll] at hpaused
  | tick switches =>
    rw [perform_tick]
    exact hsettled.covered_tick_iff hcovered switches
  | drive pins =>
    rw [perform_drive]
    refine iff_of_true ?_ id
    rw [Covered, (c.waiting_drive pins).2, List.append_nil]
    exact (c.covers_drive_iff sent pins).2 hcovered
  | line text =>
    rw [perform_line]
    dsimp only
    rw [sent_handleLine, List.append_nil]
    exact iff_of_true (hsettled.covered_line hcovered text) id
  | requestState raw =>
    rw [perform_requestState, sent_requestState, List.append_nil]
    exact hsettled.covered_request_iff hcovered raw
  | browse navigator =>
    exact iff_of_true (hcovered.of_same (by simp [waiting]) id) id

/-- In any run of a controller, a paused module keeps the machine suspended
    throughout, exactly if no operation uncovers a pause: what waits to be sent
    counts as sent. Once the outputs are driven nothing waits, so that the last
    of the suspend and resume commands sent is then a suspend command during
    every pause, exactly if the pause was covered before. -/
theorem suspension_stands_iff {ι : Type} [PinAccess ι] (s : Settings) (pins : ι)
    (ops : List Operation) :
    let after (past : List Operation) : Traced Controller := do
      let new ← build s pins
      new.performAll past
    ((∀ past, past <+: ops → (after past).value.Covered (after past).trace.sent) ↔
      ∀ past op later, ops = past ++ op :: later →
        ¬(after past).value.Uncovers (after past).trace.sent op) ∧
    ∀ (past : List Operation) {ι' : Type} [PinAccess ι'] (pins' : ι'),
      let driven := after (past ++ [.drive pins'])
      (driven.value.isSuspended = true →
          (driven.trace.sent.filter fun command =>
            command == "M600" || command == "M601").getLast? =
            some "M600") ↔
        (after past).value.Covered (after past).trace.sent := by
  intro after
  have hafter (past : List Operation) :
      past.foldl advance ((build s pins).value, (build s pins).trace.sent) =
        ((after past).value, (after past).trace.sent) := foldl_advance ..
  refine ⟨?_, fun past _ _ pins' => ?_⟩
  · have hnew : (build s pins).value.Covered (build s pins).trace.sent := fun hsuspended =>
      absurd hsuspended (Bool.eq_false_iff.1 (isSuspended_build s pins))
    have hinv {state : Controller × List String} (hsettled : state.1.Settled) (op : Operation) :
        (advance state op).1.Settled := hsettled.perform op
    have hstep {state : Controller × List String} (hsettled : state.1.Settled)
        (hcovered : state.1.Covered state.2) (op : Operation) :
        (advance state op).1.Covered (advance state op).2 ↔ ¬state.1.Uncovers state.2 op :=
      hsettled.covered_perform_iff hcovered op
    have hthroughout :=
      foldl_throughout_iff (P := fun state => state.1.Covered state.2) advance hinv
      hstep (s := ((build s pins).value, (build s pins).trace.sent)) (settled_build s pins) hnew ops
    simpa only [hafter] using hthroughout
  · have hdriven := hafter (past ++ [.drive pins'])
    rw [List.foldl_append, hafter past, List.foldl_cons, List.foldl_nil, advance, perform_drive]
      at hdriven
    obtain ⟨hvalue, hsent⟩ := Prod.mk.inj hdriven
    dsimp only
    rw [← hvalue, ← hsent]
    exact (after past).value.covers_drive_iff (after past).trace.sent pins'

/-- A reading of the inputs, a second and its outputs. -/
def secondOps (high : List String) : List Operation :=
  [.poll (waterPins high), .tick (SwitchBank.ofNames []), .drive (waterPins high)]

/-- The cutter is overfull, and the operator resumes it. When its float has
    fallen, the tank is overfull. -/
def crossing : List Operation :=
  [.line "M1401", .poll (waterPins ["P2.12"]), .line "M1403"] ++ secondOps ["P2.12"] ++
    secondOps ["P2.12", "P1.29"] ++ [.line "resume", .poll (waterPins ["P2.12", "T.high"])]

/-- A new controller with a tank and a cutter after a run. -/
def waterRun (ops : List Operation) : Traced Controller := do
  let new ← build waterSettings (waterPins [])
  new.performAll ops

/-- The cutter leaves its fault as the tank finds one. -/
theorem uncovers_crossing :
    (waterRun crossing).value.Uncovers (waterRun crossing).trace.sent
      (.tick (SwitchBank.ofNames [])) := by
  refine ⟨by decide +kernel, .inl
    ⟨(waterRun crossing).value.jet.get (by decide +kernel), by simp, ?_⟩⟩
  unfold UndoesEscalation LeavesPause
  decide +kernel

/-- The second that follows uncovers the pause of the tank. -/
theorem suspension_stands_until_crossing :
    ¬∀ past, past <+: crossing ++ [.tick (SwitchBank.ofNames [])] →
      (waterRun past).value.Covered (waterRun past).trace.sent := by
  intro hstands
  have hiff := (suspension_stands_iff waterSettings (waterPins [])
    (crossing ++ [.tick (SwitchBank.ofNames [])])).1
  exact hiff.1 hstands crossing _ [] rfl uncovers_crossing

/-- The outputs are driven after every second. -/
def DrivesSeconds : List Operation → Prop
  | [] => True
  | @Operation.tick _ _ _ :: @Operation.drive _ _ _ :: rest => DrivesSeconds rest
  | @Operation.tick _ _ _ :: _ => False
  | _ :: rest => DrivesSeconds rest

/-- Not in every run is the last command a suspend command when the outputs have
    been driven during a pause: the machine goes on under the pause of the tank. -/
theorem machine_goes_on_under_pause :
    ¬∀ (s : Settings) (pins : PinBank) (past : List Operation) (pins' : PinBank),
      DrivesSeconds (past ++ [.drive pins']) →
        let after : Traced Controller := do
          let new ← build s pins
          new.performAll (past ++ [.drive pins'])
        after.value.isSuspended = true →
          lastPauseCommand after.trace.sent = some suspendCommand := by
  intro hsuspends
  have hlast := hsuspends waterSettings (waterPins [])
    (crossing ++ [.tick (SwitchBank.ofNames [])]) (waterPins ["P2.12", "T.high"])
    (by simp [crossing, secondOps, DrivesSeconds]) (by decide +kernel)
  exact absurd hlast (by decide +kernel)

end Controller

end Interlock
