import Interlock.Proofs.Jet.NewJob
import Interlock.Proofs.Jet.Resume
import Mathlib.Logic.Function.Iterate

namespace Interlock

namespace Counter

/-- The next second leaves the counter running. -/
def RunsNext (c : Counter) : Prop :=
  c.startRequested = true ∨ c.running = true ∧ c.stopRequested = false

/-- The next second stops the running counter. -/
def StopsNext (c : Counter) : Prop :=
  c.running = true ∧ c.stopRequested = true ∧ c.startRequested = false

theorem runsNext_iff {c : Counter} (hstarted : c.startRequested = true ∨ c.running = true) :
    c.RunsNext ↔ ¬c.StopsNext := by
  unfold RunsNext StopsNext
  grind

/-- Asking for a counter to run does not help against a stop that waits. -/
theorem runsNext_ensureRunning_iff (c : Counter) : c.ensureRunning.RunsNext ↔ ¬c.StopsNext := by
  unfold ensureRunning
  split
  · rename_i hruns
    exact runsNext_iff (.inr hruns)
  · rename_i hstands
    exact iff_of_true (.inl rfl) fun hstops => hstands hstops.1

/-- A counter that is asked to run does run or will start. -/
theorem startRequested_or_running_ensureRunning (c : Counter) :
    c.ensureRunning.startRequested = true ∨ c.ensureRunning.running = true := by
  unfold ensureRunning
  split
  · rename_i hruns
    exact .inr hruns
  · exact .inl rfl

/-- Asking a counter that is about to stop changes nothing: it is still running. -/
theorem ensureRunning_of_stopsNext {c : Counter} (hstops : c.StopsNext) : c.ensureRunning = c :=
  if_pos hstops.1

/-- The first of several seconds decides: from then on the counter counts every
    one. -/
theorem RunsNext.iterate {c : Counter} (hruns : c.RunsNext) (n : Nat) :
    (tick false false)^[n + 1] c =
      { elapsed := min ((if c.startRequested then 0 else c.elapsed) + (n + 1)) greatest
        running := true } := by
  induction n with
  | zero =>
    rcases hruns with hstart | ⟨hrunning, hstop⟩
    · simp [tick, settle, count, hstart]
    · cases hstart : c.startRequested <;> simp [tick, settle, count, hstart, hrunning, hstop]
  | succ n ih =>
    rw [Function.iterate_succ_apply', ih]
    simp only [tick, settle, count, Bool.false_eq_true, if_false, Bool.false_or, Bool.true_and,
      Bool.not_false, if_true]
    congr 1
    omega

/-- A counter that stops in the first of several seconds keeps its count. -/
theorem StopsNext.iterate {c : Counter} (hstops : c.StopsNext) (n : Nat) :
    (tick false false)^[n + 1] c = { elapsed := c.elapsed } := by
  obtain ⟨_, hstop, hstart⟩ := hstops
  induction n with
  | zero => simp [tick, settle, count, hstart, hstop]
  | succ n ih =>
    rw [Function.iterate_succ_apply', ih]
    simp [tick, settle, count]

end Counter

namespace ProcessState

/-- What entering a state asks of a counter of useful work. -/
def entryWork (c : Counter) : ProcessState → Counter
  | running => c.ensureRunning
  | ending | invalid => c.requestStop
  | _ => c

theorem work_enter (state : ProcessState) (ctx : JobContext) :
    (state.enter ctx).abrasiveHopper = state.entryWork ctx.abrasiveHopper ∧
      (state.enter ctx).spentAbrasive = state.entryWork ctx.spentAbrasive := by
  cases state <;> exact ⟨rfl, rfl⟩

end ProcessState

namespace WaterJet

open ProcessState

/-- What holds of the counters of useful work between two operations: they are
    one, and in a job that is starting they run or will start, and nothing holds
    them. -/
structure KeepsWork (j : WaterJet) : Prop where
  spent_eq : j.context.spentAbrasive = j.context.abrasiveHopper
  starting : j.state = running → j.context.frozen = false ∧
    (j.context.abrasiveHopper.startRequested = true ∨ j.context.abrasiveHopper.running = true)

theorem keepsWork_ofSettings (s : JetSettings) (delay : Nat) : (ofSettings s delay).KeepsWork where
  spent_eq := rfl
  starting := nofun

/-- Only the process, the counters and the frozen work count. -/
theorem KeepsWork.frame {j j' : WaterJet} (hkeeps : j.KeepsWork) (hprocess : j'.process = j.process)
    (hfrozen : j'.context.frozen = j.context.frozen)
    (hhopper : j'.context.abrasiveHopper = j.context.abrasiveHopper)
    (hspent : j'.context.spentAbrasive = j.context.spentAbrasive) : j'.KeepsWork where
  spent_eq := by rw [hspent, hhopper, hkeeps.spent_eq]
  starting := by
    unfold state
    rw [hprocess, hfrozen, hhopper]
    exact hkeeps.starting

/-- A move by command asks of the counters what the state asks that is entered,
    and nothing if the cutter is in that state already. -/
theorem work_goto (j : WaterJet) (target : ProcessState) :
    let after := (j.goto target).value.context
    let asked (c : Counter) := if target = j.state then c else target.entryWork c
    after.abrasiveHopper = asked j.context.abrasiveHopper ∧
      after.spentAbrasive = asked j.context.spentAbrasive := by
  dsimp only
  rw [context_goto, context_preparedFor]
  split
  · exact ⟨rfl, rfl⟩
  · exact work_enter _ _

/-- A move by command treats both counters alike, and one to `running` starts
    them unless they run. -/
theorem KeepsWork.goto {j : WaterJet} (hkeeps : j.KeepsWork) (target : ProcessState) :
    (j.goto target).value.KeepsWork := by
  obtain ⟨hhopper, hspent⟩ := work_goto j target
  refine ⟨by rw [hspent, hhopper, hkeeps.spent_eq], fun hrunning => ?_⟩
  rw [state_goto] at hrunning
  subst hrunning
  rw [hhopper, frozen_goto]
  split
  · rename_i hstays
    exact hkeeps.starting hstays.symm
  · exact ⟨rfl, Counter.startRequested_or_running_ensureRunning _⟩

/-- A command treats both counters alike. In a job that is starting it may ask
    for them once more; a stop comes only with a move out of the job. -/
theorem KeepsWork.command {j : WaterJet} (hkeeps : j.KeepsWork) (hsettled : j.Settled)
    (code : Nat) : (j.command code).value.1.KeepsWork := by
  refine hsettled.keeps_command hkeeps ?_ ?_ ?_ (fun _ hkeeps target _ => hkeeps.goto target) code
  · intro j active hkeeps
    exact hkeeps.frame rfl rfl rfl rfl
  · intro j hkeeps
    refine ⟨congrArg Counter.ensureRunning hkeeps.spent_eq, fun hrunning => ?_⟩
    exact ⟨(hkeeps.starting hrunning).1, Counter.startRequested_or_running_ensureRunning _⟩
  · intro j hkeeps
    exact ⟨congrArg Counter.requestStop hkeeps.spent_eq, hkeeps.starting⟩

/-- Moving on ticks both counters, and asks of them what the state asks that is
    entered. -/
theorem work_advanced (j : WaterJet) :
    let asked (c : Counter) :=
      if j.state.successor j.seen = j.state then c else (j.state.successor j.seen).entryWork c
    j.advanced.context.abrasiveHopper =
        asked (j.context.abrasiveHopper.tick j.context.frozen false) ∧
      j.advanced.context.spentAbrasive =
        asked (j.context.spentAbrasive.tick j.context.frozen false) := by
  dsimp only
  rw [context_advanced]
  dsimp only
  split
  · exact ⟨rfl, rfl⟩
  · exact work_enter _ _

/-- A second treats both counters alike. It never ends in a job that is
    starting. -/
theorem KeepsWork.tick {j : WaterJet} (hkeeps : j.KeepsWork) (hsettled : j.Settled) {π : Type}
    [Panel π] (panel : π) : (j.tick panel).value.1.KeepsWork := by
  cases hactive : j.active with
  | false => rwa [tick_of_inactive hactive]
  | true =>
    obtain ⟨_, _, _, _, hhopper, hspent⟩ := hsettled.kept_tick hactive panel
    obtain ⟨hhopperAsked, hspentAsked⟩ := work_advanced j
    refine ⟨?_, fun hrunning => ?_⟩
    · rw [hspent, hhopper, hspentAsked, hhopperAsked, hkeeps.spent_eq]
    · rw [hsettled.state_tick hactive] at hrunning
      exact absurd hrunning (successor_ne_running _ _)

/-- Every operation treats both counters alike, since a state asks the same of
    both and a second counts both or none. -/
theorem KeepsWork.perform {j : WaterJet} (hkeeps : j.KeepsWork) (hsettled : j.Settled)
    (op : Operation) : (j.perform op).value.KeepsWork := by
  cases op with
  | poll pins =>
    rw [perform_poll, value_poll]
    exact hkeeps.frame rfl rfl rfl rfl
  | tick panel =>
    rw [perform_tick]
    exact hkeeps.tick hsettled panel
  | drive pins => exact hkeeps.frame rfl rfl rfl rfl
  | command code =>
    rw [perform_command]
    exact hkeeps.command hsettled code
  | requestState raw => exact hkeeps.goto (.ofRaw raw)
  | resume =>
    rw [perform_resume, value_resume]
    exact hkeeps.frame rfl rfl rfl rfl

theorem Reached.keepsWork {j : WaterJet} {past : Trace} (hreached : Reached j past) :
    j.KeepsWork := by
  refine (hreached.invariant (P := fun j => j.Settled ∧ j.KeepsWork) ?_ ?_).2
  · exact fun s delay => ⟨settled_ofSettings s delay, keepsWork_ofSettings s delay⟩
  · exact fun j op ⟨hsettled, hkeeps⟩ => ⟨hsettled.perform op, hkeeps.perform hsettled op⟩

/-- The start of a job makes the counters run in the next second, unless a stop
    of them waits: the start asks for a counter only if it does not run, and
    does not see the stop. -/
theorem KeepsWork.runsNext_iff {j : WaterJet} (hkeeps : j.KeepsWork) :
    (j.goto running).value.context.abrasiveHopper.RunsNext ↔
      ¬j.context.abrasiveHopper.StopsNext := by
  rw [(work_goto j running).1]
  split
  · rename_i hstays
    exact Counter.runsNext_iff (hkeeps.starting hstays.symm).2
  · exact Counter.runsNext_ensureRunning_iff _

/-- The start of a job leaves a counter alone that is about to stop. -/
theorem hopper_goto_of_stopsNext {j : WaterJet} (hstops : j.context.abrasiveHopper.StopsNext) :
    (j.goto running).value.context.abrasiveHopper = j.context.abrasiveHopper := by
  rw [(work_goto j running).1]
  split
  · rfl
  · exact Counter.ensureRunning_of_stopsNext hstops

/-- A job that goes on: nothing has paused it, and nothing holds the counters of
    useful work. -/
structure AtWork (j : WaterJet) : Prop where
  settled : j.Settled
  active : j.active = true
  unpaused : j.isPaused = false
  free : j.context.frozen = false
  cutting : j.state ∈ [running, watching, dumping]

/-- The job is left to itself: its inputs are read, its outputs driven, and
    seconds pass in which the evaluation finds no fault. -/
def Undisturbed (j : WaterJet) : List Operation → Prop
  | [] => True
  | @Operation.poll _ _ pins :: ops => (j.poll pins).value.Undisturbed ops
  | @Operation.drive _ _ pins :: ops => (j.drive pins).value.1.Undisturbed ops
  | @Operation.tick _ _ panel :: ops =>
    j.found.faults.mask = 0 ∧ (j.tick panel).value.1.Undisturbed ops
  | _ => False

/-- Whether an operation is a second. -/
def isSecond : Operation → Bool
  | @Operation.tick _ _ _ => true
  | _ => false

/-- Only these fields count for a job that goes on. -/
theorem AtWork.frame {j j' : WaterJet} (hwork : j.AtWork) (hsettled : j'.Settled)
    (hactive : j'.active = j.active) (halarm : j'.alarm = j.alarm)
    (hprocess : j'.process = j.process) (hfrozen : j'.context.frozen = j.context.frozen) :
    j'.AtWork where
  settled := hsettled
  active := hactive.trans hwork.active
  unpaused := by
    unfold isPaused
    rw [halarm]
    exact hwork.unpaused
  free := hfrozen.trans hwork.free
  cutting := by
    unfold state
    rw [hprocess]
    exact hwork.cutting

/-- A job that starts in an active module goes on from there. -/
theorem AtWork.goto_running {j : WaterJet} (hsettled : j.Settled) (hkeeps : j.KeepsWork)
    (hactive : j.active = true) : (j.goto running).value.AtWork where
  settled := hsettled.goto running
  active := (active_goto j running).trans hactive
  unpaused := hsettled.isPaused_goto running
  free := ((hkeeps.goto running).starting (state_goto j running)).1
  cutting := by simp

/-- A second without a fault goes on with the cutting: nothing is raised, and
    the pause that would hold it is off. -/
theorem AtWork.successor {j : WaterJet} (hwork : j.AtWork) (hclean : j.found.faults.mask = 0) :
    j.state.successor j.seen ∈ [watching, dumping] := by
  rw [successor_of_quiet (raises_of_clean hclean), paused_seen, hwork.unpaused]
  have hcutting := hwork.cutting
  revert hcutting
  cases j.state <;> cases j.seen.verdict.phase <;> decide

/-- A second without a fault counts, and leaves the job to go on: the next state
    is `watching` or `dumping`, and to enter these asks nothing of the counters. -/
theorem AtWork.tick {j : WaterJet} (hwork : j.AtWork) (hclean : j.found.faults.mask = 0) {π : Type}
    [Panel π] (panel : π) :
    (j.tick panel).value.1.AtWork ∧
      (j.tick panel).value.1.context.abrasiveHopper =
        j.context.abrasiveHopper.tick false false := by
  have hnext := hwork.successor hclean
  obtain ⟨hsettled, hactive, hunpaused, hfree, _⟩ := hwork
  have hpaused : (j.tick panel).value.1.isPaused = false := by
    rw [hsettled.isPaused_tick hactive, raises_of_clean hclean, hunpaused]
    rfl
  -- Entering `watching` or `dumping` changes nothing.
  have hentered (ctx : JobContext) : (j.state.successor j.seen).enter ctx = ctx := by
    simp only [List.mem_cons, List.not_mem_nil, or_false] at hnext
    obtain hnext | hnext := hnext <;> rw [hnext] <;> rfl
  obtain ⟨_, _, _, hfrozen, hhopper, _⟩ := hsettled.kept_tick hactive panel
  rw [context_advanced] at hfrozen hhopper
  simp only [hentered, ite_self] at hfrozen hhopper
  have hactiveAfter := (hsettled.context_tick hactive panel).2.2.2.2.2
  refine ⟨⟨hsettled.tick panel, hactiveAfter.trans hactive, hpaused, ?_, ?_⟩, ?_⟩
  · rw [hfrozen, hpaused]
    exact hfree
  · rw [hsettled.state_tick hactive panel]
    exact List.mem_cons_of_mem running hnext
  · have hseen : j.seen.abrasiveHopper = j.context.abrasiveHopper.tick j.context.frozen false := rfl
    rw [hhopper, hseen, hfree]

/-- In a job that is left to itself the counters count as many seconds as pass.
    Readings and drives in between do not count. -/
theorem AtWork.performAll {j : WaterJet} (hwork : j.AtWork) {ops : List Operation}
    (hquiet : j.Undisturbed ops) :
    (j.performAll ops).value.AtWork ∧
      (j.performAll ops).value.context.abrasiveHopper =
        (Counter.tick false false)^[ops.countP isSecond] j.context.abrasiveHopper := by
  induction ops generalizing j with
  | nil => exact ⟨hwork, rfl⟩
  | cons op ops ih =>
    cases op with
    | poll pins =>
      have hkept : (j.poll pins).value.AtWork := by
        have hsettled := hwork.settled.poll pins
        rw [value_poll] at hsettled ⊢
        exact hwork.frame hsettled rfl rfl rfl rfl
      obtain ⟨hafter, hcounts⟩ := ih hkept hquiet
      refine ⟨hafter, hcounts.trans ?_⟩
      rw [value_poll]
      rfl
    | drive pins =>
      have hkept : (j.drive pins).value.1.AtWork :=
        hwork.frame (hwork.settled.drive pins) rfl rfl rfl rfl
      exact ih hkept hquiet
    | tick panel =>
      obtain ⟨hkept, hcounted⟩ := hwork.tick hquiet.1 panel
      obtain ⟨hafter, hcounts⟩ := ih hkept hquiet.2
      rw [hcounted, ← Function.iterate_succ_apply] at hcounts
      refine ⟨hafter, hcounts.trans ?_⟩
      rw [List.countP_cons_of_pos rfl]
    | command code | requestState raw | resume => exact absurd hquiet id

/-- The useful work of a job that is left to itself, whatever was asked of the
    counters before it was accepted. If no stop waits that the next second would
    carry out, both counters run after every second of the job, and each second
    after the first adds one. Otherwise the start does not count: the stop takes
    effect in the first second of the job, and both stand still after every
    second of it. -/
theorem job_counts_work_unless_stopping {j started : WaterJet} {past : Trace}
    (hreached : Reached j past)
    (haccepts : (j.command startCode).value = (started, some startReply)) {ops : List Operation}
    (hquiet : started.Undisturbed ops) {π : Type} [Panel π] (panel : π)
    (hclean : (started.performAll ops).value.found.faults.mask = 0) :
    let before := (started.performAll ops).value
    let after := (before.tick panel).value.1.context
    before.context.spentAbrasive = before.context.abrasiveHopper ∧
      after.spentAbrasive = after.abrasiveHopper ∧
      (¬j.context.abrasiveHopper.StopsNext →
        after.abrasiveHopper.running = true ∧
          ((∃ op ∈ ops, isSecond op = true) →
            after.abrasiveHopper.elapsed =
              min (before.context.abrasiveHopper.elapsed + 1) Counter.greatest)) ∧
      (j.context.abrasiveHopper.StopsNext →
        after.abrasiveHopper.running = false ∧
          after.abrasiveHopper.elapsed = j.context.abrasiveHopper.elapsed) := by
  intro before after
  obtain ⟨hstarted, hactive⟩ := value_startCode (congrArg Prod.snd haccepts)
  have hstate : started = (j.goto running).value := by rw [← hstarted, haccepts]
  have hkeeps := hreached.keepsWork
  have hwork : started.AtWork := hstate ▸ .goto_running hreached.settled hkeeps hactive
  obtain ⟨hbefore, hcounted⟩ := hwork.performAll hquiet
  obtain ⟨_, hcounts⟩ := hbefore.tick hclean panel
  rw [hcounted, ← Function.iterate_succ_apply' (Counter.tick false false)] at hcounts
  have hperformed : (j.perform (.command startCode)).value = started := congrArg Prod.fst haccepts
  have hstart := hperformed ▸ hreached.perform (.command startCode)
  have hsame := (hstart.performAll ops).keepsWork
  have hsameAfter := ((hstart.performAll ops).perform (.tick panel)).keepsWork
  refine ⟨hsame.spent_eq, hsameAfter.spent_eq, fun hgoes => ?_, fun hstops => ?_⟩
  · have hruns : started.context.abrasiveHopper.RunsNext := hstate ▸ hkeeps.runsNext_iff.2 hgoes
    rw [hruns.iterate] at hcounts
    refine ⟨congrArg Counter.running hcounts, fun hpassed => ?_⟩
    obtain ⟨n, hn⟩ := Nat.exists_eq_add_one.2 (List.countP_pos_iff.2 hpassed)
    rw [hn, hruns.iterate] at hcounted
    rw [hcounts, hcounted, hn]
    dsimp only
    omega
  · have hkept : started.context.abrasiveHopper = j.context.abrasiveHopper := by
      rw [hstate, hopper_goto_of_stopsNext hstops]
    rw [hkept, hstops.iterate] at hcounts
    rw [hcounts]
    exact ⟨rfl, rfl⟩

/-- A job that is started in the second in which the one before was ended does
    not count at all. -/
theorem job_lost_to_waiting_stop :
    ¬∀ (j started : WaterJet) (past : Trace) (panel : StubPanel), Reached j past →
      (j.command startCode).value = (started, some startReply) → started.found.faults.mask = 0 →
      (started.tick panel).value.1.context.abrasiveHopper.running = true := by
  intro hruns
  have hlost := hruns
    (plain [.command 1401, .poll (plainPins ["P2.12"]), .tick ({} : StubPanel), .command 1404]) _ _
    {} (reached_plain _) (Prod.ext rfl (by decide)) (by decide)
  exact absurd hlost (by decide)

/-- Two seconds of a job that is started after the counters have stopped, and of
    one that is started in the second of their stop. -/
theorem job_counts_work_two_seconds :
    let ended : List Operation :=
      [.command 1401, .poll (plainPins ["P2.12"]), .tick ({} : StubPanel), .command 1404]
    let second : Operation := .tick ({} : StubPanel)
    let early := ((plain ended).command startCode).value.1
    let late := ((plain (ended ++ [second])).command startCode).value.1
    let afterEarly := ((early.performAll [second]).value.tick ({} : StubPanel)).value.1.context
    let afterLate := ((late.performAll [second]).value.tick ({} : StubPanel)).value.1.context
    afterEarly.abrasiveHopper.running = false ∧
      afterEarly.abrasiveHopper.elapsed = (plain ended).context.abrasiveHopper.elapsed ∧
      afterLate.abrasiveHopper.running = true ∧
      afterLate.abrasiveHopper.elapsed =
        min ((late.performAll [second]).value.context.abrasiveHopper.elapsed + 1)
          Counter.greatest := by
  intro ended second early late afterEarly afterLate
  have hacceptsEarly : ((plain ended).command startCode).value = (early, some startReply) :=
    Prod.ext rfl (by decide)
  have hacceptsLate :
      ((plain (ended ++ [second])).command startCode).value = (late, some startReply) :=
    Prod.ext rfl (by decide)
  have hquietEarly : early.Undisturbed [second] := ⟨by decide, trivial⟩
  have hquietLate : late.Undisturbed [second] := ⟨by decide, trivial⟩
  obtain ⟨_, _, _, hlost⟩ := job_counts_work_unless_stopping (reached_plain ended) hacceptsEarly
    hquietEarly ({} : StubPanel) (by decide)
  obtain ⟨_, _, hcounts, _⟩ := job_counts_work_unless_stopping (reached_plain (ended ++ [second]))
    hacceptsLate hquietLate ({} : StubPanel) (by decide)
  obtain ⟨hstands, hkept⟩ := hlost ⟨by decide, by decide, by decide⟩
  obtain ⟨hruns, hadds⟩ := hcounts fun hstops => absurd hstops.1 (by decide)
  unfold afterEarly afterLate
  exact ⟨hstands, hkept, hruns, hadds ⟨second, List.mem_singleton.2 rfl, rfl⟩⟩

end WaterJet

end Interlock
