import Interlock.Proofs.Jet.Escalation

namespace Interlock

namespace Event

/-- The move that an event tells of. -/
def move? : Event → Option (ProcessState × ProcessState)
  | stateChanged source target => some (source, target)
  | _ => none

/-- The moves that events tell of. -/
def moves (events : List Event) : List (ProcessState × ProcessState) :=
  events.filterMap move?

@[simp] theorem moves_nil : moves [] = [] := rfl

@[simp] theorem moves_append (first second : List Event) :
    moves (first ++ second) = moves first ++ moves second :=
  List.filterMap_append

end Event

/-- Moves that lead from one state to another: each starts where the one before
    ended, and goes to another state. -/
inductive Path : ProcessState → List (ProcessState × ProcessState) → ProcessState → Prop where
  | nil (state : ProcessState) : Path state [] state
  | cons {source middle target : ProcessState} {moves : List (ProcessState × ProcessState)} :
      middle ≠ source → Path middle moves target → Path source ((source, middle) :: moves) target

theorem Path.append {source middle target : ProcessState}
    {first second : List (ProcessState × ProcessState)} (hfirst : Path source first middle)
    (hsecond : Path middle second target) : Path source (first ++ second) target := by
  induction hfirst with
  | nil => exact hsecond
  | cons hmoves _ ih => exact .cons hmoves (ih hsecond)

namespace JobProcess

/-- The process after a move to a state, which is none to the current state. -/
def reach (p : JobProcess) (target : ProcessState) : JobProcess :=
  if target = p.current then p else ⟨target, p.current⟩

/-- What there is to tell of such a move. -/
def movesTo (p : JobProcess) (target : ProcessState) : List (ProcessState × ProcessState) :=
  if target = p.current then [] else [(p.current, target)]

@[simp] theorem current_reach (p : JobProcess) (target : ProcessState) :
    (p.reach target).current = target := by
  unfold reach
  split_ifs with hstays
  · exact hstays.symm
  · rfl

theorem previous_reach (p : JobProcess) (target : ProcessState) :
    (p.reach target).previous = ((p.movesTo target).getLast?.map Prod.fst).getD p.previous := by
  unfold reach movesTo
  split <;> rfl

theorem process_moveTo (p : JobProcess) (target : ProcessState) (ctx : JobContext) :
    (p.moveTo target ctx).process = p.reach target := by
  unfold moveTo reach
  split <;> rfl

theorem moves_moveTo (p : JobProcess) (target : ProcessState) (ctx : JobContext) :
    Event.moves (WaterJet.moveEvents (p.moveTo target ctx).move) = p.movesTo target := by
  unfold moveTo movesTo
  split <;> rfl

/-- A move to a state is a path there, an empty one if the process is in that
    state. -/
theorem path_movesTo (p : JobProcess) (target : ProcessState) :
    Path p.current (p.movesTo target) target := by
  unfold movesTo
  split
  · rename_i hstays
    exact hstays ▸ .nil p.current
  · rename_i hmoves
    exact .cons hmoves (.nil target)

end JobProcess

/-- Reports of faults tell of no move. -/
theorem Alarm.moves_report {π : Type} [Panel π] (a : Alarm) (fault : Option LevelFault)
    (panel : π) :
    Event.moves (a.report fault panel).trace.events = [] := by
  cases fault with
  | some fault =>
    obtain ⟨_, _, _, _, hevents⟩ := a.escalator.raise_spec fault (a.menus.menuOf fault) panel
    simp only [report, Traced.trace_bind, Trace.events_append, hevents]
    split <;> split <;> rfl
  | none =>
    obtain ⟨_, _, _, hevents⟩ := a.escalator.allClear_spec panel
    simp only [report, Traced.trace_bind, Trace.events_append, hevents]
    split <;> rfl

namespace WaterJet

open ProcessState

/-- What was told on the way from one cutter to another is the move of the
    process from the state of the one to that of the other, and no other move. -/
structure TellsMove (before after : WaterJet) (told : List Event) : Prop where
  process : after.process = before.process.reach after.state
  moves : Event.moves told = before.process.movesTo after.state

theorem moves_absorbSuspend (j : WaterJet) : Event.moves j.absorbSuspend.trace.events = [] := by
  unfold absorbSuspend
  split <;> rfl

/-- Switching the module tells of no move; the move that comes with it is one of
    the process. -/
theorem moves_setActive (j : WaterJet) (active : Bool) :
    Event.moves (j.setActive active).trace.events = [] := by
  unfold setActive
  split <;> rfl

/-- The report of a second tells of no move. -/
theorem moves_escalate {π : Type} [Panel π] (j : WaterJet) (panel : π) :
    Event.moves (j.escalate panel).trace.events = [] := by
  unfold escalate
  dsimp only
  split
  · simp [Alarm.moves_report]
  · rfl

/-- To tell a move it is enough to know what the process reached, and that this
    was told: the state afterwards is the one reached. -/
theorem TellsMove.of_reach {before after : WaterJet} {told : List Event} {target : ProcessState}
    (hprocess : after.process = before.process.reach target)
    (hmoves : Event.moves told = before.process.movesTo target) : TellsMove before after told := by
  have hstate : after.state = target := by rw [state, hprocess, JobProcess.current_reach]
  exact ⟨hstate ▸ hprocess, hstate ▸ hmoves⟩

/-- Nothing is told where the process stays. -/
theorem TellsMove.of_stays {before after : WaterJet} {told : List Event}
    (hprocess : after.process = before.process) (hmoves : Event.moves told = []) :
    TellsMove before after told :=
  have hstays : before.process.reach before.state = before.process := if_pos rfl
  have hnone : before.process.movesTo before.state = [] := if_pos rfl
  .of_reach (hprocess.trans hstays.symm) (hmoves.trans hnone.symm)

/-- A move by command is told of. -/
theorem tellsMove_goto (j : WaterJet) (target : ProcessState) :
    TellsMove j (j.goto target).value (j.goto target).trace.events := by
  have hprocess : (j.goto target).value.process = j.process.reach target := by
    simp [value_goto, moved, JobProcess.process_moveTo]
  have hprepared := process_preparedFor j target
  unfold preparedFor at hprepared
  refine .of_reach hprocess ?_
  simp [goto, moves_absorbSuspend, JobProcess.moves_moveTo, hprepared]

/-- Switching the module on tells of the way out of `off`, if the process was
    there. -/
theorem tellsMove_enable (j : WaterJet) : TellsMove j j.enable.value j.enable.trace.events := by
  by_cases hoff : j.state = .off
  · obtain ⟨hprocess, hmoves⟩ := tellsMove_goto { j with active := true } .menu
    have henable : Event.moves j.enable.trace.events =
        Event.moves (goto { j with active := true } .menu).trace.events := by
      unfold state at hoff
      simp [enable, moves_setActive, state, hoff]
    rw [value_enable, if_pos hoff]
    exact ⟨hprocess, henable.trans hmoves⟩
  · have henable : Event.moves j.enable.trace.events = [] := by
      unfold state at hoff
      simp [enable, moves_setActive, state, hoff]
    rw [value_enable, if_neg hoff]
    exact .of_stays rfl henable

/-- Switching the module off tells of the way to `off`. -/
theorem tellsMove_disable (j : WaterJet) : TellsMove j j.disable.value j.disable.trace.events := by
  obtain ⟨hprocess, hmoves⟩ :=
    tellsMove_goto { j with active := false, context := j.context.stopWork } .off
  rw [value_disable]
  exact ⟨hprocess, by simpa [disable, moves_setActive] using hmoves⟩

/-- A command tells of the move that it made, and a refused one of none. -/
theorem tellsMove_command (j : WaterJet) (code : Nat) :
    TellsMove j (j.command code).value.1 (j.command code).trace.events := by
  unfold command
  split_ifs
  · exact .of_stays rfl rfl
  · simpa using tellsMove_enable j
  · simpa using tellsMove_disable j
  · unfold startJob
    split_ifs
    · exact .of_stays rfl rfl
    · exact .of_stays rfl rfl
    · simpa using tellsMove_goto j .running
  · simpa using tellsMove_goto j .ending
  · exact .of_stays rfl rfl

/-- A second tells of the move that the process chose. Neither the report of
    faults nor the pause that follows moves the process again. -/
theorem tellsMove_tick {π : Type} [Panel π] (j : WaterJet) (panel : π) :
    TellsMove j (j.tick panel).value.1 (j.tick panel).trace.events := by
  cases hactive : j.active with
  | false =>
    rw [tick_of_inactive hactive]
    exact .of_stays rfl rfl
  | true =>
    have hprocess : (j.tick panel).value.1.process = (j.process.tick j.seen).process := by
      rw [value_tick hactive]
      refine (frame_escalate _ panel).1.trans ?_
      rw [value_absorbSuspend]
      rfl
    have hmoves : Event.moves (j.tick panel).trace.events =
        Event.moves (moveEvents (j.process.tick j.seen).move) := by
      simp [events_tick hactive, moves_absorbSuspend, moves_escalate]
    rw [JobProcess.tick_eq_moveTo] at hprocess hmoves
    exact .of_reach (hprocess.trans (JobProcess.process_moveTo ..))
      (hmoves.trans (JobProcess.moves_moveTo ..))

/-- Every operation tells of the move that it made, and of no other. -/
theorem tellsMove_perform (j : WaterJet) (op : Operation) :
    TellsMove j (j.perform op).value (j.perform op).trace.events := by
  cases op with
  | poll pins =>
    have hprocess : (j.poll pins).value.process = j.process := by rw [value_poll]
    refine .of_stays hprocess ?_
    rw [perform_poll, poll]
    split <;> simp
  | tick panel =>
    rw [perform_tick]
    exact tellsMove_tick j panel
  | drive pins =>
    rw [perform_drive]
    exact .of_stays rfl (by simp [drive, Traced.send])
  | command code =>
    rw [perform_command]
    exact tellsMove_command j code
  | requestState raw =>
    simpa [requestState] using tellsMove_goto j (.ofRaw raw)
  | resume =>
    have hprocess : j.resume.value.1.process = j.process := by rw [value_resume]
    rw [perform_resume]
    refine .of_stays hprocess ?_
    unfold resume
    dsimp only
    split <;> rfl

/-- The edges along which a second moves the process. -/
inductive Onward : ProcessState → ProcessState → Prop where
  | ended : Onward ending menu
  | begun : Onward running watching
  | resumed : Onward resuming watching
  | filled : Onward watching dumping
  | emptied : Onward dumping watching
  | failed {source target : ProcessState} :
      source ∈ watchedStates → target ∈ faultStates → target ≠ source → Onward source target
  | cleared {source : ProcessState} : source ∈ faultStates → Onward source resuming

/-- The edges along which an operation moves the process of a cutter whose
    states are not requested. -/
inductive Edge (j : WaterJet) : Operation → ProcessState → ProcessState → Prop where
  | enable : Edge j (.command enableCode) off menu
  | disable {source : ProcessState} : source ≠ off → Edge j (.command disableCode) source off
  | start {source : ProcessState} : j.active = true → j.sensors.doorClosed = true →
      source ≠ running → Edge j (.command startCode) source running
  | finish {source : ProcessState} : source ≠ ending → Edge j (.command endCode) source ending
  | second {π : Type} [Panel π] {panel : π} {source target : ProcessState} :
      Onward source target → Edge j (.tick panel) source target

/-- The states that a process reaches without requests. -/
def unrequestedStates : List ProcessState :=
  [off, menu, running, resuming, ending] ++ watchedStates

theorem mem_faultStates_ofFault (fault : LevelFault) : ofFault fault ∈ faultStates := by
  cases fault <;> decide

/-- From such a state, a second moves the process along an edge or not at all.
    From the other states it would too, along edges that are not listed. -/
theorem onward_successor {source : ProcessState} (hsource : source ∈ unrequestedStates)
    {ctx : JobContext} (hmoves : source.successor ctx ≠ source) :
    Onward source (source.successor ctx) := by
  cases hraises : source.raises ctx.verdict with
  | some fault =>
    rw [successor_of_raises hraises] at hmoves ⊢
    refine .failed ?_ (mem_faultStates_ofFault fault) hmoves
    revert hsource hraises
    cases source <;> simp [unrequestedStates, watchedStates, raises]
  | none =>
    rw [successor_of_quiet hraises] at hmoves ⊢
    revert hsource hmoves
    cases source <;> simp only [onward]
    case running => exact fun _ _ => .begun
    case resuming => exact fun _ _ => .resumed
    case ending => exact fun _ _ => .ended
    case watching | dumping =>
      split
      · exact fun _ hmoves => absurd rfl hmoves
      · split <;> intro _ hmoves
        · first | exact .filled | exact absurd rfl hmoves
        · first | exact .emptied | exact absurd rfl hmoves
    case waitFill | filtersBlocked | idleTooLong | levelTooHigh =>
      split
      · exact fun _ hmoves => absurd rfl hmoves
      · exact fun _ _ => .cleared (by decide)
    all_goals simp [unrequestedStates, watchedStates]

theorem Onward.mem_unrequestedStates {source target : ProcessState} (h : Onward source target) :
    target ∈ unrequestedStates := by
  cases h with
  | failed _ htarget _ => exact List.mem_append_right _ (mem_watched_of_fault htarget)
  | _ => decide

theorem Edge.mem_unrequestedStates {j : WaterJet} {op : Operation} {source target : ProcessState}
    (h : Edge j op source target) : target ∈ unrequestedStates := by
  cases h with
  | second honward => exact honward.mem_unrequestedStates
  | _ => decide

/-- Without a request, a cutter whose process moves goes along an edge. That it
    moves is what tells a granted command from a refused one. -/
theorem Settled.edge_perform {j : WaterJet} (hsettled : j.Settled)
    (hstate : j.state ∈ unrequestedStates) {op : Operation}
    (hop : ∀ raw, op ≠ .requestState raw)
    (hmoves : (j.perform op).value.state ≠ j.state) :
    Edge j op j.state (j.perform op).value.state := by
  cases op with
  | poll pins => exact absurd (by rw [perform_poll, value_poll]; rfl) hmoves
  | drive pins => exact absurd rfl hmoves
  | resume => exact absurd (by rw [perform_resume, value_resume]; rfl) hmoves
  | requestState raw => exact absurd rfl (hop raw)
  | tick panel =>
    rw [perform_tick] at hmoves ⊢
    cases hactive : j.active with
    | false => exact absurd (by rw [tick_of_inactive hactive]) hmoves
    | true =>
      rw [hsettled.state_tick hactive] at hmoves ⊢
      exact .second (onward_successor hstate hmoves)
  | command code =>
    rw [perform_command] at hmoves ⊢
    dsimp only at hmoves ⊢
    have hafter := afterCommand_command j code
    generalize (j.command code).value.1 = after at hafter hmoves ⊢
    cases hafter with
    | switchedOn hoff =>
      have hmenu := state_goto { j with active := true } menu
      rw [hoff]
      exact hmenu.symm ▸ .enable
    | keptOn => exact absurd rfl hmoves
    | switchedOff =>
      rw [state_goto] at hmoves ⊢
      exact .disable hmoves.symm
    | started haccepts =>
      rw [state_goto] at hmoves ⊢
      exact .start haccepts.1 haccepts.2 hmoves.symm
    | ended =>
      rw [state_goto] at hmoves ⊢
      exact .finish hmoves.symm
    | unchanged => exact absurd rfl hmoves

/-- The moves that a run tells of lead from its first state to its last one
    without a gap, and the state before the last of them is the one that the
    process remembers. -/
theorem path_performAll (j : WaterJet) (ops : List Operation) :
    let done := j.performAll ops
    let told := Event.moves done.trace.events
    Path j.state told done.value.state ∧
      done.value.process.previous = (told.getLast?.map Prod.fst).getD j.process.previous := by
  induction ops generalizing j with
  | nil => exact ⟨.nil j.state, rfl⟩
  | cons op ops ih =>
    intro done told
    obtain ⟨hprocess, hmoves⟩ := tellsMove_perform j op
    obtain ⟨hpath, hprevious⟩ := ih (j.perform op).value
    have htold : told = j.process.movesTo (j.perform op).value.state ++
        Event.moves ((j.perform op).value.performAll ops).trace.events := by
      rw [← hmoves, ← Event.moves_append]
      rfl
    refine ⟨htold ▸ (j.process.path_movesTo _).append hpath, ?_⟩
    rw [htold]
    refine hprevious.trans ?_
    rw [hprocess, JobProcess.previous_reach, List.getLast?_append]
    cases (Event.moves ((j.perform op).value.performAll ops).trace.events).getLast? <;> rfl

/-- Without requests a run keeps to the states that are reached without them,
    since every edge from such a state leads to another one. -/
theorem Settled.state_performAll {j : WaterJet} (hsettled : j.Settled)
    (hstate : j.state ∈ unrequestedStates) {ops : List Operation}
    (hunrequested : ∀ raw, .requestState raw ∉ ops) :
    (j.performAll ops).value.state ∈ unrequestedStates := by
  induction ops generalizing j with
  | nil => exact hstate
  | cons op ops ih =>
    have hop (raw : Nat) : op ≠ .requestState raw := fun hrequest =>
      hunrequested raw (hrequest ▸ List.mem_cons_self)
    refine ih (hsettled.perform op) ?_ fun raw hmem =>
      hunrequested raw (List.mem_cons_of_mem op hmem)
    by_cases hmoves : (j.perform op).value.state = j.state
    · rwa [hmoves]
    · exact (hsettled.edge_perform hstate hop hmoves).mem_unrequestedStates

/-- Whatever is done with a new cutter, the moves that it tells of lead from the
    state of the switched off module to the current one, each from where the one
    before ended to another state, and the state that the process remembers is
    that before the last of them. If no state is requested, every operation
    tells only of a move along an edge of the process. -/
theorem moves_follow_edges {ι : Type} [PinAccess ι] {s : JetSettings} {delay : Nat} {pins : ι}
    {new : WaterJet} (hbuild : (build s delay pins).value = .ok new) (ops : List Operation) :
    let done := new.performAll ops
    let told := Event.moves ((build s delay pins).trace ++ done.trace).events
    Path off told done.value.state ∧
      (∀ last, told.getLast? = some last → done.value.process.previous = last.1) ∧
      ((∀ raw, .requestState raw ∉ ops) →
        ∀ before op after, ops = before ++ op :: after →
          let j := (new.performAll before).value
          ∀ move ∈ Event.moves (j.perform op).trace.events, Edge j op move.1 move.2) := by
  intro done told
  obtain ⟨rfl, hevents⟩ := build_ok hbuild
  have htold : told = Event.moves done.trace.events := by
    rw [← List.nil_append (Event.moves done.trace.events)]
    simp [told, hevents]
  obtain ⟨hpath, hprevious⟩ := path_performAll (ofSettings s delay) ops
  refine ⟨htold ▸ hpath, fun last hlast => ?_, fun hunrequested before op after hsplit => ?_⟩
  · rw [htold] at hlast
    rw [hprevious, hlast]
    rfl
  · intro j move hmem
    subst hsplit
    have hsettled : j.Settled := (settled_ofSettings s delay).performAll before
    have hstate : j.state ∈ unrequestedStates :=
      (settled_ofSettings s delay).state_performAll (by decide : off ∈ unrequestedStates)
        fun raw hrequest => hunrequested raw (List.mem_append_left _ hrequest)
    rw [(tellsMove_perform j op).moves, JobProcess.movesTo] at hmem
    split at hmem
    · cases hmem
    · rename_i hmoves
      cases List.mem_singleton.1 hmem
      refine hsettled.edge_perform hstate (fun raw hrequest => ?_) hmoves
      exact hunrequested raw (by simp [hrequest])

/-- A job that fails on a full tank, is resumed and ended. -/
theorem moves_follow_edges_job :
    let ops : List Operation :=
      [.command 1401, .poll (plainPins ["P2.12"]), .command 1403, .tick ({} : StubPanel),
        .poll (plainPins ["P2.12", "P1.29"]), .tick ({} : StubPanel), .poll (plainPins ["P2.12"]),
        .resume, .tick ({} : StubPanel), .command 1404]
    let told := Event.moves ((build plainSettings 20 (plainPins [])).trace ++
      ((ofSettings plainSettings 20).performAll ops).trace).events
    (build plainSettings 20 (plainPins [])).value = .ok (ofSettings plainSettings 20) ∧
      told = [(off, menu), (menu, running), (running, watching), (watching, levelTooHigh),
        (levelTooHigh, resuming), (resuming, ending)] ∧
      (plain ops).process.previous = resuming ∧
      ∀ move ∈ Event.moves ((plain (ops.take 2)).perform (.command 1403)).trace.events,
        Edge (plain (ops.take 2)) (.command 1403) move.1 move.2 := by
  intro ops told
  have hbuild :
      (build plainSettings 20 (plainPins [])).value = .ok (ofSettings plainSettings 20) := rfl
  obtain ⟨-, hprevious, hedges⟩ := moves_follow_edges hbuild ops
  refine ⟨hbuild, by decide, hprevious (resuming, ending) (by decide), ?_⟩
  exact hedges (by simp [ops]) (ops.take 2) (.command 1403) (ops.drop 3) rfl

end WaterJet

end Interlock
