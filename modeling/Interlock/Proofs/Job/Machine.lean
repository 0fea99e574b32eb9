import Interlock.Job.Machine
import Mathlib.Tactic.SplitIfs

namespace Interlock

namespace ProcessState

/-- What entering a state sets the head to; `none` leaves the head as it is. -/
def entryHead : ProcessState → Option Bool
  | running | resuming => some true
  | prep | ready | watching | dumping => none
  | _ => some false

/-- Whether entering the state suspends the machine. -/
def suspends : ProcessState → Bool
  | paused | gantryStalled => true
  | _ => false

@[simp] theorem highPressurePump_enter (state : ProcessState) (ctx : JobContext) :
    (state.enter ctx).outputs.highPressurePump =
      state.entryHead.getD ctx.outputs.highPressurePump := by
  cases state <;> rfl

@[simp] theorem verdict_enter (state : ProcessState) (ctx : JobContext) :
    (state.enter ctx).verdict = ctx.verdict := by
  cases state <;> rfl

@[simp] theorem raisedFault_enter (state : ProcessState) (ctx : JobContext) :
    (state.enter ctx).raisedFault = ctx.raisedFault := by
  cases state <;> rfl

@[simp] theorem suspendRequested_enter (state : ProcessState) (ctx : JobContext) :
    (state.enter ctx).suspendRequested = (state.suspends || ctx.suspendRequested) := by
  cases state <;> rfl

@[simp] theorem paused_enter (state : ProcessState) (ctx : JobContext) :
    (state.enter ctx).paused = (state != running && (state.suspends || ctx.paused)) := by
  cases state <;> rfl

@[simp] theorem entryHead_ofFault (fault : LevelFault) :
    (ofFault fault).entryHead = some false := by
  cases fault <;> rfl

/-- Where the head was off, entering a state leaves it on exactly if the state
    switches it on. -/
theorem entryHead_getD_false_iff (state : ProcessState) :
    state.entryHead.getD false = true ↔ state = running ∨ state = resuming := by
  cases state <;> decide

/-- Whether entering a state stops or starts the time of useful work; `none`
    leaves it as it is. -/
def entryFrozen : ProcessState → Option Bool
  | running | resuming => some false
  | paused | gantryStalled | idleTooLong | waitFill | filtersBlocked | levelTooHigh => some true
  | _ => none

@[simp] theorem frozen_enter (state : ProcessState) (ctx : JobContext) :
    (state.enter ctx).frozen = state.entryFrozen.getD ctx.frozen := by
  cases state <;> rfl

/-- Entering a state may ask for the counters of useful work, but does not move
    them. -/
theorem elapsed_enter (state : ProcessState) (ctx : JobContext) :
    (state.enter ctx).abrasiveHopper.elapsed = ctx.abrasiveHopper.elapsed ∧
      (state.enter ctx).spentAbrasive.elapsed = ctx.spentAbrasive.elapsed := by
  have hasked (c : Counter) : c.ensureRunning.elapsed = c.elapsed := by
    unfold Counter.ensureRunning
    split <;> rfl
  cases state
  case running => exact ⟨hasked ctx.abrasiveHopper, hasked ctx.spentAbrasive⟩
  all_goals exact ⟨rfl, rfl⟩

/-- What remains of a suspension once a state is entered. -/
def entrySuspension (suspension : Option Suspension) : ProcessState → Option Suspension
  | off | resuming => none
  | paused | gantryStalled => some .pauseSequence
  | _ => suspension

@[simp] theorem suspension_enter (state : ProcessState) (ctx : JobContext) :
    (state.enter ctx).suspension = state.entrySuspension ctx.suspension := by
  cases state <;> rfl

/-- The commands with which a state is entered. -/
def entryCommands (suspension : Option Suspension) : ProcessState → List String
  | paused | gantryStalled => pauseSequence
  | resuming => resumeCommands suspension
  | _ => []

/-- Entering a state queues its commands, as far as there is room. -/
theorem outbox_enter (state : ProcessState) (ctx : JobContext) :
    (state.enter ctx).outbox =
      ctx.outbox ++ (state.entryCommands ctx.suspension).take ctx.room := by
  cases state
  case paused | gantryStalled | resuming => rfl
  all_goals
    simp only [entryCommands, List.take_nil, List.append_nil]
    rfl

/-- What a state asks of the outputs when it is entered depends only on what was
    asked of them before. -/
theorem outputs_enter_congr (state : ProcessState) {ctx ctx' : JobContext}
    (houtputs : ctx.outputs = ctx'.outputs) :
    (state.enter ctx).outputs = (state.enter ctx').outputs := by
  cases state
  case off | invalid => rfl
  all_goals simp [enter, suspend, JobContext.setHead, JobContext.setFeed, JobContext.setDump,
    JobContext.send, JobContext.startWork, JobContext.stopWork, houtputs]

/-- The fault of a verdict that the state leaves on. Paused states see an
    overfull tank alone, and others but the watched ones see nothing. -/
def raises (state : ProcessState) (verdict : Verdict) : Option LevelFault :=
  match state with
  | watching | dumping | idleTooLong | waitFill | filtersBlocked | levelTooHigh =>
    verdict.primaryFault
  | paused | gantryStalled => if verdict.faults.levelTooHigh then some .levelTooHigh else none
  | _ => none

/-- The state that follows in a second without a fault to leave on. -/
def onward (state : ProcessState) (paused : Bool) (phase : LevelPhase) : ProcessState :=
  match state with
  | prep => if phase = .dumping then ready else prep
  | running | resuming => watching
  | watching | dumping =>
    if paused then state else if phase = .dumping then dumping else watching
  | .paused | gantryStalled | idleTooLong | waitFill | filtersBlocked | levelTooHigh =>
    if paused then state else resuming
  | ending | endstopTriggered => menu
  | off | menu | dryRun | ready | invalid => state

/-- The state after a second. -/
def successor (state : ProcessState) (ctx : JobContext) : ProcessState :=
  match state.raises ctx.verdict with
  | some fault => ofFault fault
  | none => state.onward ctx.paused ctx.verdict.phase

/-- Asking for the next state leaves the context as it is, but for the fault
    that the state raises. -/
theorem context_next (state : ProcessState) (ctx : JobContext) :
    (state.next ctx).2 =
      { ctx with raisedFault := (state.raises ctx.verdict).or ctx.raisedFault } := by
  cases state
  case watching | dumping | idleTooLong | waitFill | filtersBlocked | levelTooHigh =>
    cases hfault : ctx.verdict.primaryFault <;> simp [next, leaveOnFault, raises, hfault]
  case paused | gantryStalled =>
    cases hhigh : ctx.verdict.faults.levelTooHigh <;> simp [next, raises, hhigh]
  all_goals rfl

/-- The state that is asked for is the successor; a state that asks for none
    stays. -/
theorem getD_next (state : ProcessState) (ctx : JobContext) :
    (state.next ctx).1.getD state = state.successor ctx := by
  cases state
  case watching | dumping | idleTooLong | waitFill | filtersBlocked | levelTooHigh =>
    cases hfault : ctx.verdict.primaryFault with
    | some fault => simp [next, leaveOnFault, successor, raises, hfault]
    | none =>
      simp only [next, leaveOnFault, successor, raises, hfault, onward]
      split_ifs <;> rfl
  case paused | gantryStalled =>
    simp only [next, successor, raises, onward]
    split_ifs <;> rfl
  case prep =>
    simp only [next, successor, raises, onward]
    split_ifs <;> rfl
  all_goals rfl

theorem successor_of_raises {state : ProcessState} {ctx : JobContext} {fault : LevelFault}
    (hraises : state.raises ctx.verdict = some fault) : state.successor ctx = ofFault fault := by
  simp [successor, hraises]

theorem successor_of_quiet {state : ProcessState} {ctx : JobContext}
    (hquiet : state.raises ctx.verdict = none) :
    state.successor ctx = state.onward ctx.paused ctx.verdict.phase := by
  simp [successor, hquiet]

theorem onward_ne_running (state : ProcessState) (paused : Bool) (phase : LevelPhase) :
    state.onward paused phase ≠ running := by
  cases state <;> cases paused <;> cases phase <;> simp [onward]

/-- A second without a fault moves to no state that suspends the machine by
    itself; it may stay in one. -/
theorem suspends_onward {state : ProcessState} {paused : Bool} {phase : LevelPhase}
    (hmoves : state.onward paused phase ≠ state) :
    (state.onward paused phase).suspends = false := by
  revert hmoves
  cases state <;> cases paused <;> cases phase <;> simp [onward, suspends]

/-- A second never starts a job. -/
theorem successor_ne_running (state : ProcessState) (ctx : JobContext) :
    state.successor ctx ≠ running := by
  unfold successor
  cases state.raises ctx.verdict with
  | some fault => cases fault <;> simp [ofFault]
  | none => exact onward_ne_running state ctx.paused ctx.verdict.phase

/-- A second never moves to a state that suspends the machine by itself. -/
theorem suspends_successor {state : ProcessState} {ctx : JobContext}
    (hmoves : state.successor ctx ≠ state) : (state.successor ctx).suspends = false := by
  unfold successor at hmoves ⊢
  cases hfault : state.raises ctx.verdict with
  | some fault => cases fault <;> rfl
  | none =>
    rw [hfault] at hmoves
    exact suspends_onward hmoves

/-- The states that wait for a resume and look at an overfull tank alone. -/
def pausedStates : List ProcessState :=
  [paused, gantryStalled]

/-- The states in which a fault is waited out. -/
def faultStates : List ProcessState :=
  [waitFill, filtersBlocked, idleTooLong, levelTooHigh]

/-- The states of a job in which the process looks at every fault of the catch
    tank. -/
def watchedStates : List ProcessState :=
  [watching, dumping, waitFill, filtersBlocked, idleTooLong, levelTooHigh]

theorem raises_of_watched {state : ProcessState} (hwatched : state ∈ watchedStates)
    (verdict : Verdict) : state.raises verdict = verdict.primaryFault := by
  simp only [watchedStates, List.mem_cons, List.not_mem_nil, or_false] at hwatched
  rcases hwatched with rfl | rfl | rfl | rfl | rfl | rfl <;> rfl

theorem tankInUse_of_watched {state : ProcessState} (hwatched : state ∈ watchedStates) :
    state.tankInUse = true := by
  revert hwatched
  cases state <;> decide

theorem raises_of_paused {state : ProcessState} (hpaused : state ∈ pausedStates)
    (verdict : Verdict) :
    state.raises verdict = if verdict.faults.levelTooHigh then some .levelTooHigh else none := by
  simp only [pausedStates, List.mem_cons, List.not_mem_nil, or_false] at hpaused
  rcases hpaused with rfl | rfl <;> rfl

theorem mem_watched_of_fault {state : ProcessState} (hfault : state ∈ faultStates) :
    state ∈ watchedStates := by
  revert hfault
  cases state <;> decide

/-- A second without a fault resumes the job exactly in a state of waiting, once
    the pause is lifted. -/
theorem onward_eq_resuming_iff (state : ProcessState) (paused : Bool) (phase : LevelPhase) :
    state.onward paused phase = resuming ↔
      paused = false ∧ (state ∈ pausedStates ∨ state ∈ faultStates) := by
  cases paused <;> cases phase <;> cases state <;> decide

/-- A second resumes the job exactly in a state of waiting, once the pause is
    lifted and no fault that the state looks at is found. -/
theorem successor_eq_resuming_iff (state : ProcessState) (ctx : JobContext) :
    state.successor ctx = resuming ↔
      ctx.paused = false ∧
        ((state ∈ pausedStates ∧ ctx.verdict.faults.levelTooHigh = false) ∨
          (state ∈ faultStates ∧ ctx.verdict.primaryFault = none)) := by
  cases hraises : state.raises ctx.verdict with
  | some fault =>
    have hstays : ofFault fault ≠ resuming := by cases fault <;> decide
    simp only [successor_of_raises hraises, hstays, false_iff]
    rintro ⟨_, ⟨hpaused, hhigh⟩ | ⟨hfault, hclean⟩⟩
    · simp [raises_of_paused hpaused, hhigh] at hraises
    · simp [raises_of_watched (mem_watched_of_fault hfault), hclean] at hraises
  | none =>
    rw [successor_of_quiet hraises, onward_eq_resuming_iff]
    refine and_congr_right fun _ => or_congr ?_ ?_
    · refine (and_iff_left_of_imp fun hpaused => ?_).symm
      simpa [raises_of_paused hpaused] using hraises
    · refine (and_iff_left_of_imp fun hfault => ?_).symm
      simpa [raises_of_watched (mem_watched_of_fault hfault)] using hraises

end ProcessState

namespace JobProcess

open ProcessState

@[simp] theorem current_moveTo (p : JobProcess) (target : ProcessState) (ctx : JobContext) :
    (p.moveTo target ctx).process.current = target := by
  unfold moveTo
  split_ifs with hstay
  · exact hstay.symm
  · rfl

/-- A move enters the state unless the process is in it. -/
theorem context_moveTo (p : JobProcess) (target : ProcessState) (ctx : JobContext) :
    (p.moveTo target ctx).context = if target = p.current then ctx else target.enter ctx := by
  unfold moveTo
  split_ifs <;> rfl

/-- A second is a move to the successor, with the fault left to be reported,
    where a move to the current state changes nothing. So what is proved of
    moves holds of seconds and of commands. -/
theorem tick_eq_moveTo (p : JobProcess) (ctx : JobContext) :
    p.tick ctx = p.moveTo (p.current.successor ctx)
      { ctx with raisedFault := (p.current.raises ctx.verdict).or ctx.raisedFault } := by
  rw [← context_next, ← getD_next]
  unfold tick
  obtain ⟨target, after⟩ := p.current.next ctx
  cases target with
  | none => simp [moveTo]
  | some target => rfl

end JobProcess

end Interlock
