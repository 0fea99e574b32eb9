import Interlock.Proofs.Jet.Suspension
import Mathlib.Data.List.Induction
import Mathlib.Data.List.TakeDrop

namespace Interlock

theorem JobContext.sendRecords_nil (ctx : JobContext) : ctx.sendRecords [] = [] := by
  simp [sendRecords]

/-- Entering a state reports its commands that find no room. Other records may
    stand before and behind them. -/
theorem ProcessState.sendRecords_infix_enterRecords (state : ProcessState) (ctx : JobContext) :
    ctx.sendRecords (state.entryCommands ctx.suspension) <:+: state.enterRecords ctx := by
  cases state
  case paused | gantryStalled | resuming => exact (List.prefix_append _ _).isInfix
  all_goals
    simp only [entryCommands, ctx.sendRecords_nil]
    exact List.nil_infix

/-- What a second writes to the log is what the move to its successor writes,
    which is nothing where the process stays. -/
theorem JobProcess.tickRecords_eq_moveRecords (p : JobProcess) (ctx : JobContext) :
    p.tickRecords ctx = p.moveRecords (p.current.successor ctx)
      { ctx with raisedFault := (p.current.raises ctx.verdict).or ctx.raisedFault } := by
  rw [← ProcessState.context_next, ← ProcessState.getD_next]
  unfold tickRecords
  obtain ⟨target, after⟩ := p.current.next ctx
  cases target with
  | none => simp [moveRecords]
  | some target => rfl

theorem JobProcess.sendRecords_infix_moveRecords {p : JobProcess} {target : ProcessState}
    (hmoves : target ≠ p.current) (ctx : JobContext) :
    ctx.sendRecords (target.entryCommands ctx.suspension) <:+: p.moveRecords target ctx := by
  rw [moveRecords, if_neg hmoves]
  exact (target.sendRecords_infix_enterRecords ctx).trans (List.suffix_cons _ _).isInfix

namespace WaterJet

open ProcessState

/-- The commands that an operation hands over: those of the state to which the
    outside is told that the process moved. -/
def handsOver (j : WaterJet) (op : Operation) : List String :=
  (Event.moves (j.perform op).trace.events).flatMap fun move =>
    move.2.entryCommands j.context.suspension

/-- Of the commands that an operation hands over, those that find room. -/
def admits (j : WaterJet) (op : Operation) : List String :=
  (j.handsOver op).take j.context.room

/-- The commands that driving the outputs sends. -/
def delivers (j : WaterJet) : Operation → List String
  | @Operation.drive _ _ pins => (j.drive pins).trace.sent
  | _ => []

/-- An operation hands over the commands of the state that it leads to, if that
    is another one. -/
theorem handsOver_eq (j : WaterJet) (op : Operation) :
    j.handsOver op =
      if (j.perform op).value.state = j.state then []
      else (j.perform op).value.state.entryCommands j.context.suspension := by
  rw [handsOver, moves_perform]
  split <;> simp

/-- Driving the outputs moves no process, so it hands nothing over. -/
theorem handsOver_of_drives {op : Operation} (hdrives : op.Drives) (j : WaterJet) :
    j.handsOver op = [] := by
  have hstays : (j.perform op).value.state = j.state :=
    congrArg JobProcess.current (drained_of_drives hdrives j).1
  rw [handsOver_eq, if_pos hstays]

theorem delivers_of_not_drives {op : Operation} (hother : ¬op.Drives) (j : WaterJet) :
    j.delivers op = [] := by
  cases op with
  | drive pins => exact absurd trivial hother
  | poll pins | tick panel | command code | requestState raw | resume => rfl

/-- Commands of the operator hand nothing over: the states that they lead to are
    entered without commands. -/
theorem handsOver_command (j : WaterJet) (code : Nat) : j.handsOver (.command code) = [] := by
  have hsilent {target : ProcessState} (htarget : target ∈ [off, menu, running, ending])
      {after : WaterJet} (hstate : after.state = target) :
      (if after.state = j.state then []
        else after.state.entryCommands j.context.suspension) = [] := by
    rw [hstate]
    revert htarget
    cases target <;> simp [entryCommands]
  rw [handsOver_eq, perform_command]
  have hafter := afterCommand_command j code
  generalize (j.command code).value.1 = after at hafter ⊢
  cases hafter with
  | switchedOn => exact hsilent (by simp) (state_goto { j with active := true } menu)
  | keptOn => exact if_pos rfl
  | switchedOff => exact hsilent (by simp) (state_goto _ off)
  | started => exact hsilent (by simp) (state_goto j running)
  | ended => exact hsilent (by simp) (state_goto j ending)
  | unchanged => exact if_pos rfl

/-- The step: what is sent and what waits then is what waited before, followed
    by the commands that found room. -/
theorem Settled.delivers_perform {j : WaterJet} (hsettled : j.Settled) (op : Operation) :
    j.delivers op ++ (j.perform op).value.context.outbox = j.context.outbox ++ j.admits op := by
  by_cases hdrives : op.Drives
  · rw [admits, handsOver_of_drives hdrives, List.take_nil, (drained_of_drives hdrives j).2]
    cases op with
    | drive pins => rw [delivers, sent_drive]
    | poll pins | tick panel | command code | requestState raw | resume => exact absurd hdrives id
  · rw [delivers_of_not_drives hdrives, List.nil_append, admits, handsOver_eq,
      hsettled.queuesEntry_of_not_drives hdrives]
    split
    · rw [List.take_nil, List.append_nil]
    · rfl

/-- Never do more commands wait than there is room for. -/
theorem Settled.length_outbox_perform {j : WaterJet} (hsettled : j.Settled)
    (hfits : j.context.outbox.length ≤ JobContext.outboxCapacity) (op : Operation) :
    (j.perform op).value.context.outbox.length ≤ JobContext.outboxCapacity := by
  have hlength := congrArg List.length (hsettled.delivers_perform op)
  simp only [admits, JobContext.room, List.length_append, List.length_take] at hlength
  omega

/-- A request for another state reports the commands that find no room. -/
theorem sendRecords_infix_goto {j : WaterJet} {target : ProcessState} (hmoves : target ≠ j.state) :
    j.context.sendRecords (target.entryCommands j.context.suspension) <:+:
      (j.goto target).trace.records := by
  have hprepared : target ≠ (j.preparedFor target).process.current := by
    rwa [process_preparedFor]
  have hentry := JobProcess.sendRecords_infix_moveRecords hprepared (j.preparedFor target).context
  have hsame : (j.preparedFor target).context.sendRecords
      (target.entryCommands (j.preparedFor target).context.suspension) =
        j.context.sendRecords (target.entryCommands j.context.suspension) := by
    rw [context_preparedFor]
    cases target <;> rfl
  rw [hsame] at hentry
  exact hentry.trans ⟨_, _, by simp [goto, preparedFor]; rfl⟩

/-- A second of an active cutter that moves the process reports the commands
    that find no room. The context that it moves from has the same room as
    before the second. -/
theorem sendRecords_infix_tick {j : WaterJet} (hactive : j.active = true)
    (hmoves : j.state.successor j.seen ≠ j.state) {π : Type} [Panel π] (panel : π) :
    j.context.sendRecords ((j.state.successor j.seen).entryCommands j.context.suspension) <:+:
      (j.tick panel).trace.records := by
  have hentry : j.context.sendRecords ((j.state.successor j.seen).entryCommands
      j.context.suspension) <:+: j.process.tickRecords j.seen := by
    rw [JobProcess.tickRecords_eq_moveRecords]
    exact JobProcess.sendRecords_infix_moveRecords (p := j.process) hmoves
      { j.seen with raisedFault := (j.state.raises j.found).or j.seen.raisedFault }
  have htrace : ∃ before after,
      (j.tick panel).trace.records = before ++ (j.process.tickRecords j.seen ++ after) := by
    unfold tick
    rw [if_neg (by simp [hactive])]
    exact ⟨_, _, rfl⟩
  obtain ⟨before, after, htrace⟩ := htrace
  rw [htrace, ← List.append_assoc]
  exact hentry.trans ⟨before, after, rfl⟩

/-- Each command that an operation hands over and that finds no room is
    reported. -/
theorem Settled.sendRecords_infix_perform {j : WaterJet} (hsettled : j.Settled) (op : Operation) :
    j.context.sendRecords (j.handsOver op) <:+: (j.perform op).trace.records := by
  have hsilent (hnone : j.handsOver op = []) :
      j.context.sendRecords (j.handsOver op) <:+: (j.perform op).trace.records := by
    rw [hnone, j.context.sendRecords_nil]
    exact List.nil_infix
  by_cases hstays : (j.perform op).value.state = j.state
  · exact hsilent (by rw [handsOver_eq, if_pos hstays])
  · cases op with
    | tick panel =>
      rw [handsOver_eq, if_neg hstays]
      rw [perform_tick] at hstays ⊢
      cases hactive : j.active with
      | false => exact absurd (by rw [tick_of_inactive hactive]) hstays
      | true =>
        dsimp only at hstays ⊢
        rw [hsettled.state_tick hactive] at hstays ⊢
        exact sendRecords_infix_tick hactive hstays panel
    | requestState raw =>
      rw [handsOver_eq, if_neg hstays]
      rw [perform_requestState, requestState, Traced.value_bind, state_goto] at hstays ⊢
      exact (sendRecords_infix_goto hstays).trans (List.suffix_append _ _).isInfix
    | command code => exact hsilent (handsOver_command j code)
    | drive pins => exact absurd rfl hstays
    | poll pins => exact absurd (by rw [perform_poll, value_poll]; rfl) hstays
    | resume => exact absurd (by rw [perform_resume, value_resume]; rfl) hstays

/-- What the operations of a run contribute, one after the other. -/
def collect (part : WaterJet → Operation → List String) (j : WaterJet) :
    List Operation → List String
  | [] => []
  | op :: ops => part j op ++ collect part (j.perform op).value ops

/-- What a run contributes is what its parts contribute. -/
theorem collect_append (part : WaterJet → Operation → List String) (j : WaterJet)
    (first second : List Operation) :
    j.collect part (first ++ second) =
      j.collect part first ++ (j.performAll first).value.collect part second := by
  induction first generalizing j with
  | nil => rfl
  | cons op ops ih =>
    rw [List.cons_append, collect, collect, ih, List.append_assoc]
    rfl

theorem collect_admits_sublist (j : WaterJet) (ops : List Operation) :
    (j.collect admits ops).Sublist (j.collect handsOver ops) := by
  induction ops generalizing j with
  | nil => exact .refl _
  | cons op ops ih => exact (List.take_sublist _ _).append (ih _)

/-- As long as the outputs are not driven, nothing is sent. -/
theorem collect_delivers_eq_nil {between : List Operation} (hquiet : ∀ op ∈ between, ¬op.Drives)
    (j : WaterJet) : j.collect delivers between = [] := by
  induction between generalizing j with
  | nil => rfl
  | cons op ops ih =>
    rw [List.forall_mem_cons] at hquiet
    rw [collect, delivers_of_not_drives hquiet.1, List.nil_append, ih hquiet.2]

/-- All that is sent in a run, and what waits after it, is what waited before
    and what found room, each command once and in order. -/
theorem Settled.delivers_performAll {j : WaterJet} (hsettled : j.Settled) (ops : List Operation) :
    j.collect delivers ops ++ (j.performAll ops).value.context.outbox =
      j.context.outbox ++ j.collect admits ops := by
  induction ops generalizing j with
  | nil => exact (List.append_nil _).symm
  | cons op ops ih =>
    calc j.delivers op ++ (j.perform op).value.collect delivers ops ++
          ((j.perform op).value.performAll ops).value.context.outbox
      _ = j.delivers op ++ ((j.perform op).value.context.outbox ++
            (j.perform op).value.collect admits ops) := by
          rw [List.append_assoc, ih (hsettled.perform op)]
      _ = j.context.outbox ++ (j.admits op ++ (j.perform op).value.collect admits ops) := by
          rw [← List.append_assoc, hsettled.delivers_perform, List.append_assoc]

/-- In no run do more commands wait than there is room for. -/
theorem Settled.length_outbox_performAll {j : WaterJet} (hsettled : j.Settled)
    (hfits : j.context.outbox.length ≤ JobContext.outboxCapacity) (ops : List Operation) :
    (j.performAll ops).value.context.outbox.length ≤ JobContext.outboxCapacity := by
  induction ops generalizing j with
  | nil => exact hfits
  | cons op ops ih => exact ih (hsettled.perform op) (hsettled.length_outbox_perform hfits op)

/-- In every run there is a last moment at which nothing waits, and no driving
    of the outputs after it. If they are never driven it is the start. -/
theorem exists_drained {j : WaterJet} (hempty : j.context.outbox = []) (ops : List Operation) :
    ∃ first between, ops = first ++ between ∧ (∀ op ∈ between, ¬op.Drives) ∧
      (j.performAll first).value.context.outbox = [] := by
  induction ops using List.reverseRecOn with
  | nil => exact ⟨[], [], rfl, by simp, hempty⟩
  | append_singleton ops op ih =>
    by_cases hdrives : op.Drives
    · refine ⟨ops ++ [op], [], by simp, by simp, ?_⟩
      rw [value_performAll_append]
      exact (drained_of_drives hdrives _).2
    · obtain ⟨first, between, rfl, hquiet, hdrained⟩ := ih
      refine ⟨first, between ++ [op], by simp, ?_, hdrained⟩
      simpa [or_imp, forall_and] using ⟨hquiet, hdrives⟩

/-- All commands that are handed over in a run find room. -/
def KeepsAll (j : WaterJet) (ops : List Operation) : Prop :=
  j.collect admits ops = j.collect handsOver ops

/-- A run keeps all if both of its parts do. What found room in one part cannot
    make up for what was lost in the other, as it is never more than what was
    handed over. -/
theorem keepsAll_append (j : WaterJet) (first second : List Operation) :
    j.KeepsAll (first ++ second) ↔
      j.KeepsAll first ∧ (j.performAll first).value.KeepsAll second := by
  have hfirst := j.collect_admits_sublist first
  have hsecond := (j.performAll first).value.collect_admits_sublist second
  simp only [KeepsAll, collect_append]
  constructor
  · intro hall
    have hlength := congrArg List.length hall
    have hfirstLe := hfirst.length_le
    have hsecondLe := hsecond.length_le
    simp only [List.length_append] at hlength
    exact ⟨hfirst.eq_of_length_le (by omega), hsecond.eq_of_length_le (by omega)⟩
  · rintro ⟨hbefore, hafter⟩
    rw [hbefore, hafter]

/-- An operation loses nothing exactly if there is room for all that it hands
    over. -/
theorem keepsAll_singleton (j : WaterJet) (op : Operation) :
    j.KeepsAll [op] ↔ (j.handsOver op).length ≤ j.context.room := by
  simp [KeepsAll, collect, admits]

/-- As long as the outputs are not driven and nothing is lost, all that is
    handed over waits. -/
theorem Settled.outbox_of_quiet {j : WaterJet} (hsettled : j.Settled) {between : List Operation}
    (hquiet : ∀ op ∈ between, ¬op.Drives) (hkeeps : j.KeepsAll between) :
    (j.performAll between).value.context.outbox =
      j.context.outbox ++ j.collect handsOver between := by
  rw [← hkeeps, ← hsettled.delivers_performAll, collect_delivers_eq_nil hquiet, List.nil_append]

/-- Nothing is lost in a run exactly if between two drivings of the outputs no
    more commands are handed over than may wait. Nothing waits at first, so that
    the room of a moment is what the commands handed over since the last driving
    left of it. -/
theorem Settled.keepsAll_iff {j : WaterJet} (hsettled : j.Settled)
    (hempty : j.context.outbox = []) (ops : List Operation) :
    j.KeepsAll ops ↔
      ∀ before between after, ops = before ++ between ++ after → (∀ op ∈ between, ¬op.Drives) →
        ((j.performAll before).value.collect handsOver between).length ≤
          JobContext.outboxCapacity := by
  constructor
  · rintro hkeeps before between after rfl hquiet
    have hbetween := ((keepsAll_append _ _ _).1 ((keepsAll_append _ _ _).1 hkeeps).1).2
    have hstart := hsettled.performAll before
    have hfits := hstart.length_outbox_performAll
      (hsettled.length_outbox_performAll (by simp [hempty]) before) between
    rw [hstart.outbox_of_quiet hquiet hbetween, List.length_append] at hfits
    omega
  · intro hroom
    induction ops using List.reverseRecOn with
    | nil => rfl
    | append_singleton ops op ih =>
      have hkeeps := ih fun before between after hsplit =>
        hroom before between (after ++ [op]) (by simp [hsplit])
      refine (keepsAll_append _ _ _).2 ⟨hkeeps, (keepsAll_singleton _ _).2 ?_⟩
      by_cases hdrives : op.Drives
      · rw [handsOver_of_drives hdrives]
        exact Nat.zero_le _
      · -- All that was handed over since the outbox was empty waits when the operation comes.
        obtain ⟨first, between, rfl, hquiet, hdrained⟩ := exists_drained hempty ops
        have hbetween := ((keepsAll_append _ _ _).1 hkeeps).2
        have hwaits := (hsettled.performAll first).outbox_of_quiet hquiet hbetween
        rw [hdrained, List.nil_append] at hwaits
        have hfew := hroom first (between ++ [op]) [] (by simp)
          (by simpa [or_imp, forall_and] using ⟨hquiet, hdrives⟩)
        rw [collect_append, List.length_append, ← hwaits, ← value_performAll_append] at hfew
        simp only [collect, List.append_nil] at hfew
        rw [JobContext.room]
        omega

/-- Three pauses are requested before the outputs are driven. -/
def pausing : List Operation :=
  [.requestState 7, .requestState 15, .requestState 7, .drive (plainPins [])]

end WaterJet

end Interlock
