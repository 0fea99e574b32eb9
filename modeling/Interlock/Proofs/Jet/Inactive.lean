import Interlock.Proofs.Jet.Delivery

namespace Interlock

namespace ProcessState

/-- The states that ask for an output, or hand commands over, when they are
    entered. -/
def actingStates : List ProcessState :=
  [prep, running, paused, resuming, levelTooHigh, gantryStalled]

/-- Entering any other state asks for no output and hands nothing over. The
    outputs have to be off before, as most of these states leave the valve and
    the feed as they are. -/
theorem rests_enter {state : ProcessState} (hrests : state ∉ actingStates) {ctx : JobContext}
    (hoff : ctx.outputs = {}) :
    (state.enter ctx).outputs = {} ∧ ∀ suspension, state.entryCommands suspension = [] := by
  cases state
  case prep | running | paused | resuming | levelTooHigh | gantryStalled =>
    exact absurd (by decide) hrests
  all_goals
    refine ⟨?_, fun _ => rfl⟩
    simp [enter, JobContext.setHead, JobContext.setFeed, JobContext.setDump, JobContext.stopWork,
      hoff]

/-- Entering one of them shows, even where nothing was asked for before: two of
    them hand commands over, and the others ask for a pump or the valve. -/
theorem acts_enter {state : ProcessState} (hacts : state ∈ actingStates) (ctx : JobContext)
    (suspension : Option Suspension) :
    (state.enter ctx).outputs ≠ {} ∨ state.entryCommands suspension ≠ [] := by
  simp only [actingStates, List.mem_cons, List.not_mem_nil, or_false] at hacts
  rcases hacts with rfl | rfl | rfl | rfl | rfl | rfl
  case inr.inr.inl | inr.inr.inr.inr.inr => exact .inr (by simp [entryCommands, pauseSequence])
  all_goals
    refine .inl fun hoff => ?_
    have hfeed := congrArg Outputs.lowPressurePump hoff
    simp [enter, JobContext.setHead, JobContext.setFeed, JobContext.setDump] at hfeed

/-- A state in which the outputs are off from the start: to enter it asks
    nothing of them, its second does not look at the tank, and no second ends in
    it that did not start there. -/
structure ShutsOff (state : ProcessState) : Prop where
  outputs_enter : ∀ ctx, (state.enter ctx).outputs = {}
  tank_unused : state.tankInUse = false
  successor_eq_iff : ∀ source ctx, successor source ctx = state ↔ source = state

/-- The module is shut off in `off`, and in the state of a number that names
    none. -/
theorem shutsOff {state : ProcessState} (hstate : state ∈ [off, invalid]) : state.ShutsOff := by
  simp only [List.mem_cons, List.not_mem_nil, or_false] at hstate
  refine ⟨fun ctx => ?_, ?_, fun source ctx => ?_⟩
  · rcases hstate with rfl | rfl <;> rfl
  · rcases hstate with rfl | rfl <;> rfl
  · cases hraises : source.raises ctx.verdict with
    | some fault =>
      rw [successor_of_raises hraises]
      rcases hstate with rfl | rfl <;> cases source <;> cases fault <;> simp_all [ofFault, raises]
    | none =>
      rw [successor_of_quiet hraises]
      rcases hstate with rfl | rfl <;> cases source <;> cases ctx.paused <;>
        cases ctx.verdict.phase <;> decide

end ProcessState

namespace WaterJet

open ProcessState

/-- In the given state nothing is asked of the outputs. -/
def RestsIn (state : ProcessState) (j : WaterJet) : Prop :=
  j.state = state → j.context.outputs = {}

section RestsIn

variable {rest : ProcessState} {j j' : WaterJet}

theorem RestsIn.frame (hrests : RestsIn rest j) (hprocess : j'.process = j.process)
    (houtputs : j'.context.outputs = j.context.outputs) : RestsIn rest j' := by
  unfold RestsIn state at *
  rwa [hprocess, houtputs]

/-- A move by command leaves the outputs off in the resting state: a move there
    switches them off, and a move elsewhere owes nothing. -/
theorem RestsIn.goto (hshuts : rest.ShutsOff) (hrests : RestsIn rest j) (target : ProcessState) :
    RestsIn rest (j.goto target).value := by
  intro hentered
  rw [state_goto] at hentered
  subst hentered
  rw [context_goto, context_preparedFor]
  split
  · rename_i hstays
    exact hrests hstays.symm
  · exact hshuts.outputs_enter _

/-- A second keeps the outputs off in the resting state. It ends there only if
    it started there, and then it looks at no tank whose verdict could ask for
    an output. -/
theorem RestsIn.tick (hshuts : rest.ShutsOff) (hsettled : j.Settled) (hrests : RestsIn rest j)
    {π : Type} [Panel π] (panel : π) : RestsIn rest (j.tick panel).value.1 := by
  cases hactive : j.active with
  | false => rwa [tick_of_inactive hactive]
  | true =>
    intro hends
    rw [hsettled.state_tick hactive, hshuts.successor_eq_iff] at hends
    have hstays : j.state.successor j.seen = j.state :=
      ((hshuts.successor_eq_iff _ _).2 hends).trans hends.symm
    have hfound : j.found = {} := by simp [found, evaluate, hends, hshuts.tank_unused]
    rw [(hsettled.context_tick hactive panel).1, context_advanced]
    dsimp only
    rw [if_pos hstays]
    simp [seen, observe, hfound, JobContext.tickWork, hrests hends]

/-- Every operation is a move by command, a second, or leaves process and
    outputs alone. -/
theorem RestsIn.perform (hshuts : rest.ShutsOff) (hsettled : j.Settled) (hrests : RestsIn rest j)
    (op : Operation) : RestsIn rest (j.perform op).value := by
  cases op with
  | poll pins =>
    rw [perform_poll, value_poll]
    exact hrests.frame rfl rfl
  | tick panel =>
    rw [perform_tick]
    exact hrests.tick hshuts hsettled panel
  | drive pins => exact hrests.frame rfl rfl
  | command code =>
    rw [perform_command]
    exact hsettled.keeps_command hrests (fun _ hrests => hrests.frame rfl rfl)
      (fun hrests => hrests.frame rfl rfl) (fun hrests => hrests.frame rfl rfl)
      (fun _ hrests target _ => hrests.goto hshuts target) code
  | requestState raw => exact hrests.goto hshuts (.ofRaw raw)
  | resume =>
    rw [perform_resume, value_resume]
    exact hrests.frame rfl rfl

theorem RestsIn.performAll (hshuts : rest.ShutsOff) (hsettled : j.Settled) (hrests : RestsIn rest j)
    (ops : List Operation) : RestsIn rest (j.performAll ops).value := by
  induction ops generalizing j with
  | nil => exact hrests
  | cons op ops ih => exact ih (hsettled.perform op) (hrests.perform hshuts hsettled op)

end RestsIn

/-- A cutter of which nothing differs that shows to the outside. -/
def LooksLike (j' j : WaterJet) : Prop :=
  j'.active = j.active ∧ j'.process = j.process ∧ j'.context.outputs = j.context.outputs

/-- A cutter that is not active after an operation that does not switch it on. -/
inductive AfterIdle (j : WaterJet) : Operation → WaterJet → Prop where
  | stays {op : Operation} {after : WaterJet} (hsame : after.LooksLike j) : AfterIdle j op after
  | ended {op : Operation} {prepared : WaterJet} (hsame : prepared.LooksLike j)
      {target : ProcessState} (htarget : target ∈ [off, ending]) :
      AfterIdle j op (prepared.goto target).value
  | requested (raw : Nat) : AfterIdle j (.requestState raw) (j.goto (ofRaw raw)).value

/-- Whatever is done with an inactive cutter without switching it on, it stays
    as it looks, is ended or switched off, or enters a state that was requested:
    codes other than the end of a job are refused, and seconds do nothing. -/
theorem afterIdle_perform {j : WaterJet} (hinactive : j.active = false) {op : Operation}
    (hstays : op ≠ .command enableCode) : AfterIdle j op (j.perform op).value := by
  cases op with
  | poll pins =>
    rw [perform_poll, value_poll]
    exact .stays ⟨rfl, rfl, rfl⟩
  | tick panel =>
    rw [perform_tick, tick_of_inactive hinactive]
    exact .stays ⟨rfl, rfl, rfl⟩
  | drive pins => exact .stays ⟨rfl, rfl, rfl⟩
  | command code =>
    rw [perform_command]
    have hafter := afterCommand_command j code
    dsimp only
    generalize (j.command code).value.1 = after at hafter ⊢
    cases hafter with
    | switchedOn | keptOn => exact absurd rfl hstays
    | switchedOff =>
      have hsame : LooksLike { j with active := false, context := j.context.stopWork } j :=
        ⟨hinactive.symm, rfl, rfl⟩
      exact .ended hsame List.mem_cons_self
    | started haccepts => exact absurd (hinactive.symm.trans haccepts.1) (by decide)
    | ended => exact .ended ⟨rfl, rfl, rfl⟩ (by simp)
    | unchanged => exact .stays ⟨rfl, rfl, rfl⟩
  | requestState raw => exact .requested raw
  | resume =>
    rw [perform_resume, value_resume]
    exact .stays ⟨rfl, rfl, rfl⟩

/-- No other operation switches a cutter on. -/
theorem inactive_perform {j : WaterJet} (hinactive : j.active = false) {op : Operation}
    (hstays : op ≠ .command enableCode) : (j.perform op).value.active = false := by
  have hafter := afterIdle_perform hinactive hstays
  generalize (j.perform op).value = after at hafter ⊢
  cases hafter with
  | stays hsame => exact hsame.1.trans hinactive
  | ended hsame => exact (active_goto _ _).trans (hsame.1.trans hinactive)
  | requested => exact (active_goto _ _).trans hinactive

theorem inactive_performAll {j : WaterJet} (hinactive : j.active = false) {ops : List Operation}
    (hstays : .command enableCode ∉ ops) : (j.performAll ops).value.active = false := by
  induction ops generalizing j with
  | nil => exact hinactive
  | cons op ops ih =>
    rw [List.mem_cons, not_or] at hstays
    exact ih (inactive_perform hinactive (Ne.symm hstays.1)) hstays.2

/-- An inactive cutter that asks for nothing, and from which each of the acting
    states is still a move. -/
structure AtRest (j : WaterJet) : Prop where
  inactive : j.active = false
  outputs_off : j.context.outputs = {}
  not_acting : j.state ∉ actingStates

/-- An inactive cutter in `off` is at rest, as its outputs are off there. -/
theorem RestsIn.atRest {j : WaterJet} (hrests : RestsIn off j) (hinactive : j.active = false)
    (hoff : j.state = off) : j.AtRest :=
  ⟨hinactive, hrests hoff, by rw [hoff]; decide⟩

/-- A cutter that looks like one at rest is at rest. -/
theorem AtRest.frame {j j' : WaterJet} (hrest : j.AtRest) (hsame : j'.LooksLike j) : j'.AtRest := by
  obtain ⟨hinactive, hoff, hstate⟩ := hrest
  obtain ⟨hactive, hprocess, houtputs⟩ := hsame
  refine ⟨hactive.trans hinactive, houtputs.trans hoff, ?_⟩
  unfold state at *
  rwa [hprocess]

/-- A request for an acting state, which asks for more than rest. -/
def AsksToAct : Operation → Prop
  | .requestState raw => ofRaw raw ∈ actingStates
  | _ => False

/-- A move to a state that does not act keeps the rest. The outputs were off
    before, and entering such a state switches none of them on. -/
theorem AtRest.goto {j : WaterJet} (hrest : j.AtRest) {target : ProcessState}
    (htarget : target ∉ actingStates) : (j.goto target).value.AtRest := by
  have hprepared : (j.preparedFor target).context.outputs = {} := by
    rw [context_preparedFor]
    exact hrest.outputs_off
  refine ⟨(active_goto j target).trans hrest.inactive, ?_, by rwa [state_goto]⟩
  rw [context_goto]
  split
  · exact hprepared
  · exact (rests_enter htarget hprepared).1

/-- The step: everything but a switch-on and a request for an acting state
    leaves a cutter at rest, and hands nothing over. -/
theorem AtRest.perform {j : WaterJet} (hrest : j.AtRest) {op : Operation}
    (hstays : op ≠ .command enableCode) (hquiet : ¬AsksToAct op) :
    (j.perform op).value.AtRest ∧ j.handsOver op = [] := by
  have hafter := afterIdle_perform hrest.inactive hstays
  rw [handsOver_eq]
  generalize (j.perform op).value = after at hafter ⊢
  cases hafter with
  | stays hsame => exact ⟨hrest.frame hsame, if_pos (congrArg JobProcess.current hsame.2.1)⟩
  | @ended _ prepared hsame target htarget =>
    have hnotActing : target ∉ actingStates := by
      simp only [List.mem_cons, List.not_mem_nil, or_false] at htarget
      rcases htarget with rfl | rfl <;> decide
    refine ⟨(hrest.frame hsame).goto hnotActing, ?_⟩
    rw [state_goto, (rests_enter hnotActing hrest.outputs_off).2, ite_self]
  | requested raw =>
    refine ⟨hrest.goto hquiet, ?_⟩
    rw [state_goto, (rests_enter hquiet hrest.outputs_off).2, ite_self]

/-- Granting a request for an acting state breaks the rest. A cutter at rest is
    in no acting state, so the request is a move, and the state is entered. -/
theorem AtRest.acts_perform {j : WaterJet} (hrest : j.AtRest) {op : Operation}
    (hacts : AsksToAct op) :
    (j.perform op).value.context.outputs ≠ {} ∨ j.handsOver op ≠ [] := by
  cases op with
  | requestState raw =>
    have hmoves : ofRaw raw ≠ j.state := fun hsame => hrest.not_acting (hsame ▸ hacts)
    rw [handsOver_eq, perform_requestState, requestState, Traced.value_bind, state_goto,
      if_neg hmoves, context_goto, if_neg hmoves]
    exact acts_enter hacts _ _
  | poll pins | tick panel | drive pins | command code | resume => exact absurd hacts id

/-- Nothing is asked of the outputs throughout a run, and nothing is handed over
    to be sent. -/
def Rests (j : WaterJet) (ops : List Operation) : Prop :=
  (∀ before, before <+: ops → (j.performAll before).value.context.outputs = {}) ∧
    j.collect WaterJet.handsOver ops = []

/-- A cutter rests throughout a run exactly if it does in its first operation
    and in those after it. -/
theorem rests_cons (j : WaterJet) (op : Operation) (ops : List Operation) :
    j.Rests (op :: ops) ↔
      j.context.outputs = {} ∧ j.handsOver op = [] ∧ (j.perform op).value.Rests ops := by
  simp only [Rests, List.prefix_cons_iff, collect, List.append_eq_nil_iff]
  constructor
  · rintro ⟨houtputs, hnone, hlater⟩
    exact ⟨houtputs [] (.inl rfl), hnone,
      fun before hbefore => houtputs (op :: before) (.inr ⟨before, rfl, hbefore⟩), hlater⟩
  · rintro ⟨hoff, hnone, houtputs, hlater⟩
    refine ⟨?_, hnone, hlater⟩
    rintro _ (rfl | ⟨before, rfl, hbefore⟩)
    · exact hoff
    · exact houtputs before hbefore

theorem Rests.outputs_off {j : WaterJet} {ops : List Operation} (hrests : j.Rests ops) :
    j.context.outputs = {} :=
  hrests.1 [] List.nil_prefix

/-- Without a switch-on, a cutter stays at rest exactly as long as no acting
    state is requested: such a request breaks the rest at once, and nothing else
    does. -/
theorem AtRest.rests_iff {j : WaterJet} (hrest : j.AtRest) {ops : List Operation}
    (hstays : .command enableCode ∉ ops) : j.Rests ops ↔ ∀ op ∈ ops, ¬AsksToAct op := by
  induction ops generalizing j with
  | nil => simpa [Rests, collect, WaterJet.performAll] using hrest.outputs_off
  | cons op ops ih =>
    rw [List.mem_cons, not_or] at hstays
    rw [rests_cons, List.forall_mem_cons]
    by_cases hacts : AsksToAct op
    · refine iff_of_false ?_ fun hquiet => hquiet.1 hacts
      rintro ⟨_, hnone, hlater⟩
      exact (hrest.acts_perform hacts).elim (· hlater.outputs_off) (· hnone)
    · obtain ⟨hrest', hnone⟩ := hrest.perform (Ne.symm hstays.1) hacts
      rw [ih hrest' hstays.2]
      simp [hacts, hrest.outputs_off, hnone]

/-- Switching off puts a cutter at rest, from whatever state it was in. If it
    was in `off` already it does not move, and then the outputs are off since it
    entered. -/
theorem RestsIn.atRest_disable {j : WaterJet} (hsettled : j.Settled) (hrests : RestsIn off j) :
    (j.perform (.command disableCode)).value.AtRest := by
  have hafter : RestsIn off (j.perform (.command disableCode)).value :=
    hrests.perform (shutsOff (by simp)) hsettled (.command disableCode)
  have hdisabled : (j.perform (.command disableCode)).value =
      (WaterJet.goto { j with active := false, context := j.context.stopWork } .off).value := by
    rw [perform_command]
    exact value_disable j
  refine hafter.atRest ?_ ?_
  · rw [hdisabled]
    exact active_goto _ _
  · rw [hdisabled]
    exact state_goto _ _

/-- From the moment that a cutter is built or switched off it is inactive until
    it is switched on. In such a span nothing is asked of the outputs and
    nothing is handed over to be sent exactly if no request names a state that
    acts when it is entered. No request looks at whether the cutter is active,
    and nothing else reaches the process of one that is not. -/
theorem inactive_rests_iff {ι : Type} [PinAccess ι] {s : JetSettings} {delay : Nat} {pins : ι}
    {new : WaterJet} (hbuild : (build s delay pins).value = .ok new) {past ops : List Operation}
    (hspan : past = [] ∨ ∃ earlier, past = earlier ++ [.command disableCode])
    (hstays : .command enableCode ∉ ops) :
    let start := (new.performAll past).value
    (∀ before, before <+: ops → (start.performAll before).value.active = false) ∧
      (start.Rests ops ↔ ∀ raw, .requestState raw ∈ ops → ofRaw raw ∉ actingStates) := by
  intro start
  obtain ⟨rfl, _⟩ := build_ok hbuild
  have hsettled := settled_ofSettings s delay
  have hoffRests : RestsIn off (ofSettings s delay) := fun _ => rfl
  have hrest : start.AtRest := by
    obtain rfl | ⟨earlier, rfl⟩ := hspan
    · exact hoffRests.atRest rfl rfl
    · rw [show start = _ from value_performAll_append _ _ _]
      have hearlier := hoffRests.performAll (shutsOff (by simp)) hsettled earlier
      exact hearlier.atRest_disable (hsettled.performAll earlier)
  refine ⟨fun before hbefore => ?_, (hrest.rests_iff hstays).trans ?_⟩
  · exact inactive_performAll hrest.inactive fun hon => hstays (hbefore.mem hon)
  · constructor
    · exact fun hquiet raw hrequest => hquiet _ hrequest
    · intro hquiet op hop
      cases op with
      | requestState raw => exact hquiet raw hop
      | poll pins | tick panel | drive pins | command code | resume => exact id

/-- A pause and then a job are requested of a cutter that was never switched on. -/
def requesting : List Operation := [.requestState 7, .requestState 5]

/-- A cutter that is not active asks for its pumps, and hands the pause sequence
    over. -/
theorem inactive_asks_for_pumps :
    let new := ofSettings plainSettings 20
    ¬new.Rests requesting ∧
      (new.performAll requesting).value.active = false ∧
      (new.performAll requesting).value.context.outputs =
        { lowPressurePump := true, highPressurePump := true } ∧
      (new.performAll requesting).value.context.outbox = pauseSequence := by
  refine ⟨fun hrests => ?_, by decide, by decide, by decide⟩
  exact absurd hrests.2 (by decide)

/-- Requests for `dryRun` and `watching` with a second between, and the start
    code after them, leave a cutter at rest that is not active: none of these
    states acts when it is entered, and the code is refused. -/
theorem inactive_rests_iff_menu :
    let new := ofSettings plainSettings 20
    let ops : List Operation :=
      [.requestState 3, .tick ({} : StubPanel), .requestState 6, .command startCode]
    new.Rests ops := by
  intro new ops
  have hbuild : (WaterJet.build plainSettings 20 (plainPins [])).value = .ok new := rfl
  have hstays : Operation.command enableCode ∉ ops := by simp [ops, enableCode, startCode]
  obtain ⟨_, hiff⟩ := inactive_rests_iff hbuild (.inl rfl) hstays
  refine hiff.2 fun raw hrequest => ?_
  simp only [ops, List.mem_cons, Operation.requestState.injEq, reduceCtorEq, List.not_mem_nil,
    false_or, or_false] at hrequest
  rcases hrequest with rfl | rfl <;> decide

end WaterJet

end Interlock
