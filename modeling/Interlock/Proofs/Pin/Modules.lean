import Interlock.Proofs.Jet.Suspension
import Interlock.Proofs.Pin.Output
import Interlock.Proofs.Tank.Verdict

namespace Interlock

section

variable {ι π : Type} [PinAccess ι] [Panel π]

theorem Escalator.pins_indicate (e : Escalator) (fault : Bool) (panel : π) :
    (e.indicate fault panel).trace.pins = [] := by
  unfold indicate
  split <;> rfl

theorem Escalator.pins_suspend (e : Escalator) (fault : LevelFault) :
    (e.suspend fault).trace.pins = [] := by
  unfold suspend
  split <;> rfl

theorem Escalator.pins_raise (e : Escalator) (fault : LevelFault) (menu : String) (panel : π) :
    (e.raise fault menu panel).trace.pins = [] := by
  simp only [raise, Traced.trace_bind, Trace.pins_append, pins_suspend, pins_indicate,
    List.nil_append]
  split <;> rfl

theorem Alarm.pins_report (a : Alarm) (fault : Option LevelFault) (panel : π) :
    (a.report fault panel).trace.pins = [] := by
  cases fault with
  | none => simp [report, Escalator.allClear, Escalator.pins_indicate]
  | some fault => simp [report, Escalator.pins_raise]

theorem SampledInput.pins_sample (pins : ι) (i : SampledInput) :
    (i.sample pins).trace.pins = [] := by
  unfold sample
  split <;> rfl

theorem Sensors.pins_poll (pins : ι) (s : Sensors) : (s.poll pins).trace.pins = [] := by
  unfold poll
  cases s.door <;> simp [SampledInput.pins_sample]

end

namespace WaterTank

/-- The outputs, with the levels that the last second asks for. A tank that is
    switched off asks for nothing. -/
def requests (t : WaterTank) : List (OutputPin × Option Bool) :=
  [(t.dumpValve, if t.enabled then t.verdict.dumpValve else none),
    (t.lowPressurePump, if t.enabled then t.verdict.lowPressurePump else none)]

def outputs (t : WaterTank) : List OutputPin :=
  [t.dumpValve, t.lowPressurePump]

/-- Whether an operation drives the outputs. -/
def Operation.Drives : Operation → Prop
  | @Operation.drive _ _ _ => True
  | _ => False

section

variable {ι π : Type} [PinAccess ι] [Panel π] (t : WaterTank)

/-- Polling reads pins and moves none. -/
theorem leaves_poll (pins : ι) :
    LeavesOutputs t.outputs (t.poll pins).value.outputs (t.poll pins).trace := by
  unfold poll
  split
  · exact ⟨rfl, rfl⟩
  · exact ⟨rfl, by simp [Sensors.pins_poll]⟩

/-- A second decides what the outputs should carry, and leaves it to the next
    drive. -/
theorem leaves_tick (panel : π) :
    LeavesOutputs t.outputs (t.tick panel).value.1.outputs (t.tick panel).trace := by
  unfold tick
  split
  · exact ⟨rfl, rfl⟩
  · exact ⟨rfl, by simp [Alarm.pins_report]⟩

theorem leaves_setEnabled (enabled : Bool) :
    LeavesOutputs t.outputs (t.setEnabled enabled).value.outputs (t.setEnabled enabled).trace := by
  unfold setEnabled
  split <;> exact ⟨rfl, rfl⟩

/-- No command code reaches the outputs directly. -/
theorem leaves_command (code : Nat) :
    LeavesOutputs t.outputs (t.command code).value.1.outputs (t.command code).trace := by
  have hnone (after : WaterTank) : LeavesOutputs after.outputs after.outputs {} := ⟨rfl, rfl⟩
  unfold command
  split_ifs
  · exact (t.leaves_setEnabled false).trans (hnone _)
  · exact (t.leaves_setEnabled true).trans (hnone _)
  · exact hnone t

/-- All that a tank does besides driving leaves its outputs alone. -/
theorem leaves_perform {op : Operation} (hother : ¬op.Drives) :
    LeavesOutputs t.outputs (t.perform op).value.outputs (t.perform op).trace := by
  cases op with
  | poll pins => exact t.leaves_poll pins
  | tick panel =>
    rw [perform_tick]
    exact t.leaves_tick panel
  | drive pins => exact absurd trivial hother
  | command code =>
    rw [perform_command]
    exact t.leaves_command code
  | resume =>
    rw [perform_resume]
    exact ⟨rfl, rfl⟩

/-- A tank that is switched on drives what it requests, and another one requests
    nothing. -/
theorem drive_eq (b : PinBank) :
    (t.drive b).value.1.outputs = (OutputPin.driveAll b t.requests).value.1 ∧
      (t.drive b).value.2 = (OutputPin.driveAll b t.requests).value.2 ∧
      (t.drive b).trace = (OutputPin.driveAll b t.requests).trace := by
  unfold drive requests
  cases t.enabled with
  | false => exact ⟨rfl, rfl, rfl⟩
  | true => exact ⟨rfl, rfl, by simp [OutputPin.driveAll]⟩

end

/-- Building a tank drives no pin, so its outputs begin without a note. -/
theorem pins_build (s : TankSettings) (delay : Nat) (b : PinBank) :
    (build s delay b).trace.pins = [] := by
  unfold build
  split
  · rfl
  · dsimp only
    split <;> rfl

/-- The tank as a module with outputs, which drives them in its main loop only. -/
def outputDriver : OutputDriver WaterTank { op : Operation // ¬op.Drives } where
  requests := requests
  Built t b trace := ∃ s delay, (build s delay b).value = .ok t ∧ trace = (build s delay b).trace
  use t op := t.perform op
  drive t b := t.drive b
  built_unwritten := by
    rintro t b trace ⟨s, delay, hbuild, _⟩ request hmem
    rw [eq_of_build hbuild] at hmem
    simp only [requests, List.mem_cons, List.not_mem_nil, or_false] at hmem
    rcases hmem with rfl | rfl <;> rfl
  built_pins := by
    rintro t b trace ⟨s, delay, _, rfl⟩
    exact pins_build s delay b
  leaves_use t op := t.leaves_perform op.2
  drive_outputs t b := (t.drive_eq b).1
  drive_board t b := (t.drive_eq b).2.1
  drive_pins t b := by rw [(t.drive_eq b).2.2]
  drive_records t b := by
    rw [(t.drive_eq b).2.2]
    exact List.Subset.refl _

end WaterTank

namespace WaterJet

/-- The outputs, with the levels that the process asks for. -/
def requests (j : WaterJet) : List (OutputPin × Option Bool) :=
  [(j.dumpValve, some j.context.outputs.dumpValve),
    (j.lowPressurePump, some j.context.outputs.lowPressurePump),
    (j.highPressurePump, some j.context.outputs.highPressurePump)]

def outputs (j : WaterJet) : List OutputPin :=
  [j.dumpValve, j.lowPressurePump, j.highPressurePump]

section

variable {ι π : Type} [PinAccess ι] [Panel π] (j : WaterJet)

theorem leaves_absorbSuspend :
    LeavesOutputs j.outputs j.absorbSuspend.value.outputs j.absorbSuspend.trace := by
  unfold absorbSuspend
  split <;> exact ⟨rfl, rfl⟩

/-- Moving on sets what the outputs should carry, and leaves it to the next
    drive. -/
theorem leaves_goto (target : ProcessState) :
    LeavesOutputs j.outputs (j.goto target).value.outputs (j.goto target).trace := by
  have hmoved : (j.moved target).outputs = j.outputs := by
    unfold moved preparedFor
    split <;> rfl
  have habsorb := (j.moved target).leaves_absorbSuspend
  rw [value_goto]
  refine ⟨habsorb.same.trans hmoved, ?_⟩
  simp only [goto, Traced.trace_bind, Trace.pins_append, Traced.trace_log, Traced.trace_emit,
    List.nil_append]
  exact (leaves_absorbSuspend _).unwritten

theorem leaves_setActive (active : Bool) :
    LeavesOutputs j.outputs (j.setActive active).value.outputs (j.setActive active).trace := by
  unfold setActive
  split <;> exact ⟨rfl, rfl⟩

theorem leaves_enable : LeavesOutputs j.outputs j.enable.value.outputs j.enable.trace := by
  constructor
  · rw [value_enable]
    dsimp only
    split
    · exact (leaves_goto { j with active := true } .menu).same
    · rfl
  · simp only [enable, Traced.trace_bind, Trace.pins_append, (j.leaves_setActive true).unwritten,
      List.nil_append]
    split
    · simp [(leaves_goto _ .menu).unwritten]
    · rfl

theorem leaves_disable : LeavesOutputs j.outputs j.disable.value.outputs j.disable.trace := by
  constructor
  · rw [value_disable]
    exact (leaves_goto { j with active := false, context := j.context.stopWork } .off).same
  · simp only [disable, Traced.trace_bind, Trace.pins_append, (j.leaves_setActive false).unwritten,
      (leaves_goto _ .off).unwritten, List.append_nil]

theorem leaves_startJob : LeavesOutputs j.outputs j.startJob.value.1.outputs j.startJob.trace := by
  have hstart := j.leaves_goto .running
  unfold startJob
  split
  · exact ⟨rfl, rfl⟩
  · split
    · exact ⟨rfl, rfl⟩
    · exact ⟨hstart.same, by simp [hstart.unwritten]⟩

theorem leaves_command (code : Nat) :
    LeavesOutputs j.outputs (j.command code).value.1.outputs (j.command code).trace := by
  have hnone (after : WaterJet) : LeavesOutputs after.outputs after.outputs {} := ⟨rfl, rfl⟩
  unfold command
  split_ifs
  · exact hnone j
  · exact j.leaves_enable.trans (hnone _)
  · exact j.leaves_disable.trans (hnone _)
  · exact j.leaves_startJob.trans (hnone _)
  · exact (j.leaves_goto .ending).trans (hnone _)
  · exact hnone j

theorem leaves_resume :
    LeavesOutputs j.outputs j.resume.value.1.outputs j.resume.trace := by
  unfold resume
  dsimp only
  split <;> exact ⟨rfl, rfl⟩

theorem leaves_poll (pins : ι) :
    LeavesOutputs j.outputs (j.poll pins).value.outputs (j.poll pins).trace := by
  unfold poll
  split
  · exact ⟨rfl, rfl⟩
  · exact ⟨rfl, by simp [Sensors.pins_poll]⟩

/-- Raising a fault leaves the outputs to the process. -/
theorem leaves_escalate (panel : π) :
    LeavesOutputs j.outputs (j.escalate panel).value.1.outputs (j.escalate panel).trace := by
  unfold escalate
  dsimp only
  split
  · exact ⟨rfl, by simp [Alarm.pins_report]⟩
  · exact ⟨rfl, rfl⟩

/-- A second of the process decides what the outputs should carry. Each of its
    parts leaves the outputs alone, and so do the parts together. -/
theorem leaves_tick (panel : π) :
    LeavesOutputs j.outputs (j.tick panel).value.1.outputs (j.tick panel).trace := by
  cases hactive : j.active with
  | false =>
    rw [tick_of_inactive hactive]
    exact ⟨rfl, rfl⟩
  | true =>
    have habsorb := j.advanced.leaves_absorbSuspend
    have hescalate := j.advanced.absorbSuspend.value.leaves_escalate panel
    have hevaluate : j.evaluate.trace.pins = [] := by
      unfold evaluate
      split <;> rfl
    have htrace : (j.tick panel).trace.pins =
        j.evaluate.trace.pins ++ ([] ++ ([] ++ (j.advanced.absorbSuspend.trace.pins ++
          ((j.advanced.absorbSuspend.value.escalate panel).trace.pins ++ [])))) := by
      unfold tick
      rw [if_neg (by simp [hactive])]
      rfl
    constructor
    · rw [value_tick hactive]
      exact hescalate.same.trans habsorb.same
    · rw [htrace, hevaluate, habsorb.unwritten, hescalate.unwritten]
      rfl

/-- All that a cutter does besides driving leaves its outputs alone. -/
theorem leaves_perform {op : Operation} (hother : ¬op.Drives) :
    LeavesOutputs j.outputs (j.perform op).value.outputs (j.perform op).trace := by
  cases op with
  | poll pins => exact j.leaves_poll pins
  | tick panel =>
    rw [perform_tick]
    exact j.leaves_tick panel
  | drive pins => exact absurd trivial hother
  | command code =>
    rw [perform_command]
    exact j.leaves_command code
  | requestState raw =>
    have hgoto := j.leaves_goto (.ofRaw raw)
    refine ⟨hgoto.same, ?_⟩
    simp only [perform_requestState, requestState, Traced.trace_bind, Trace.pins_append,
      Traced.trace_log, List.nil_append]
    exact hgoto.unwritten
  | resume =>
    rw [perform_resume]
    exact j.leaves_resume

theorem drive_eq (b : PinBank) :
    (j.drive b).value.1.outputs = (OutputPin.driveAll b j.requests).value.1 ∧
      (j.drive b).value.2 = (OutputPin.driveAll b j.requests).value.2 ∧
      (j.drive b).trace =
        (Traced.send j.context.outbox).trace ++ (OutputPin.driveAll b j.requests).trace := by
  refine ⟨rfl, rfl, ?_⟩
  simp [drive, requests, OutputPin.driveAll]

end

/-- Building a cutter drives no pin either. -/
theorem pins_build (s : JetSettings) (delay : Nat) (b : PinBank) :
    (build s delay b).trace.pins = [] := by
  unfold build
  split
  · rfl
  · dsimp only
    split <;> rfl

/-- The cutter as a module with outputs. Its drive also sends the commands that
    wait, which is nothing to the pins. -/
def outputDriver : OutputDriver WaterJet { op : Operation // ¬op.Drives } where
  requests := requests
  Built j b trace := ∃ s delay, (build s delay b).value = .ok j ∧ trace = (build s delay b).trace
  use j op := j.perform op
  drive j b := j.drive b
  built_unwritten := by
    rintro j b trace ⟨s, delay, hbuild, _⟩ request hmem
    rw [(build_ok hbuild).1] at hmem
    simp only [requests, List.mem_cons, List.not_mem_nil, or_false] at hmem
    rcases hmem with rfl | rfl | rfl <;> rfl
  built_pins := by
    rintro j b trace ⟨s, delay, _, rfl⟩
    exact pins_build s delay b
  leaves_use j op := j.leaves_perform op.2
  drive_outputs j b := (j.drive_eq b).1
  drive_board j b := (j.drive_eq b).2.1
  drive_pins j b := by
    rw [(j.drive_eq b).2.2]
    rfl
  drive_records j b := by
    rw [(j.drive_eq b).2.2]
    exact List.subset_append_right _ _

end WaterJet

/-- Take any run of a tank and any run of a cutter, each with distinct outputs
    that nobody else moves, on boards where any write may be refused. After the
    next drive every output with a requested level carries it, or was refused in
    that drive; and the levels written to each pin so far alternate. -/
theorem outputs_converge {t : WaterTank} {b : PinBank} {past : Trace}
    (ht : WaterTank.outputDriver.Reached t b past) {j : WaterJet} {b' : PinBank} {past' : Trace}
    (hj : WaterJet.outputDriver.Reached j b' past') :
    WaterTank.outputDriver.Converges t b past ∧ WaterJet.outputDriver.Converges j b' past' :=
  ⟨ht.converges, hj.converges⟩

/-- A board for a tank, with the high float wet. -/
def wetBoard : PinBank :=
  (PinBank.ofNames ["P1.28", "P1.29"] ["P2.5", "P2.7"]).setLevel "P1.29" true

/-- A tank that asks for its dump valve to open. -/
def wetTank : WaterTank :=
  ((WaterTank.ofSettings WaterTank.plainSettings 20).performAll
    [.poll wetBoard, .tick ({} : StubPanel)]).value

/-- A cutter that asks for its pumps. -/
def runningJet : WaterJet :=
  WaterJet.plain [.requestState 5]

/-- The dump valve of the tank and the low-pressure pump of the cutter are
    refused at first, and are on in the first drive after they are mended. -/
theorem outputs_converge_mended :
    let tank := (wetTank.drive (wetBoard.refuse "P2.5" false true)).value
    let jet := (runningJet.drive ((WaterJet.plainPins []).refuse "P2.7" false true)).value
    let mendedTank := tank.2.refuse "P2.5" false false
    let mendedJet := jet.2.refuse "P2.7" false false
    tank.2.level? "P2.5" = some false ∧ jet.2.level? "P2.7" = some false ∧
      (∃ past, WaterTank.outputDriver.Reached tank.1 mendedTank past ∧
        (tank.1.drive mendedTank).value.2.level? "P2.5" = some true) ∧
      ∃ past, WaterJet.outputDriver.Reached jet.1 mendedJet past ∧
        (jet.1.drive mendedJet).value.2.level? "P2.7" = some true := by
  intro tank jet mendedTank mendedJet
  have htankBuilt : WaterTank.outputDriver.Reached (WaterTank.ofSettings WaterTank.plainSettings 20)
      wetBoard _ := .built ⟨WaterTank.plainSettings, 20, rfl, rfl⟩ (by decide)
  have htankUsed := (htankBuilt.used ⟨.poll wetBoard, id⟩).used ⟨.tick ({} : StubPanel), id⟩
  have htank := ((htankUsed.refusing "P2.5" false true).driven).refusing "P2.5" false false
  have hjetBuilt : WaterJet.outputDriver.Reached (WaterJet.ofSettings WaterJet.plainSettings 20)
      (WaterJet.plainPins []) _ := .built ⟨WaterJet.plainSettings, 20, rfl, rfl⟩ (by decide)
  have hjetUsed := hjetBuilt.used ⟨.requestState 5, id⟩
  have hjet := ((hjetUsed.refusing "P2.7" false true).driven).refusing "P2.7" false false
  obtain ⟨htankConverges, hjetConverges⟩ := outputs_converge htank hjet
  have htankOn : (tank.1.drive mendedTank).value.2.level? "P2.5" = some true :=
    (htankConverges.reaches tank.1.dumpValve true (by decide)).resolve_right
      fun hrefused => nomatch hrefused.2.1
  have hjetOn : (jet.1.drive mendedJet).value.2.level? "P2.7" = some true :=
    (hjetConverges.reaches jet.1.lowPressurePump true (by decide)).resolve_right
      fun hrefused => nomatch hrefused.2.1
  exact ⟨rfl, rfl, ⟨_, htank, htankOn⟩, ⟨_, hjet, hjetOn⟩⟩

end Interlock
