import Interlock.Module.WaterTank
import Interlock.Proofs.Alarm.Report
import Mathlib.Tactic.SplitIfs

namespace Interlock

namespace WaterTank

variable {ι π : Type} [PinAccess ι] [Panel π] (t : WaterTank)

/-- The fault that a second of an enabled tank reports. -/
def fault? (t : WaterTank) : Option LevelFault :=
  if t.enabled then (t.guard.evaluate t.sensors.floats).2.primaryFault else none

/-- A tank is not paused when it is built. -/
theorem isPaused_build {s : TankSettings} {delay : Nat} {pins : ι} {t : WaterTank}
    (hbuild : (build s delay pins).value = .ok t) : t.isPaused = false := by
  unfold build at hbuild
  split at hbuild
  · cases hbuild
  · dsimp only at hbuild
    split at hbuild <;> cases hbuild
    rfl

/-- A second that finds a fault pauses the tank, and no second ends a pause. -/
theorem isPaused_tick (panel : π) :
    (t.tick panel).value.1.isPaused = (t.fault?.isSome || t.isPaused) := by
  unfold tick fault?
  cases t.enabled with
  | false => rfl
  | true => exact Alarm.paused_report _ _ panel

/-- The suspend command is sent in the second that begins a pause, and not again
    while it lasts. -/
theorem sent_tick (panel : π) :
    (t.tick panel).trace.sent =
      if t.fault?.isSome && !t.isPaused then [suspendCommand] else [] := by
  unfold tick fault?
  cases t.enabled with
  | false => rfl
  | true => simp [Traced.log, Alarm.sent_report, isPaused]

theorem isPaused_poll (pins : ι) : (t.poll pins).value.isPaused = t.isPaused := by
  unfold poll
  split <;> rfl

theorem sent_poll (pins : ι) : (t.poll pins).trace.sent = [] := by
  unfold poll
  split <;> simp

theorem isPaused_drive (pins : ι) : (t.drive pins).value.1.isPaused = t.isPaused := by
  unfold drive
  split <;> rfl

theorem sent_drive (pins : ι) : (t.drive pins).trace.sent = [] := by
  unfold drive
  split <;> simp

theorem isPaused_command (code : Nat) : (t.command code).value.1.isPaused = t.isPaused := by
  have hset (enabled : Bool) : (t.setEnabled enabled).value.isPaused = t.isPaused := by
    unfold setEnabled
    split <;> rfl
  unfold command
  split_ifs
  · exact hset false
  · exact hset true
  · rfl

/-- No command code has another one sent. -/
theorem sent_command (code : Nat) : (t.command code).trace.sent = [] := by
  have hset (enabled : Bool) : (t.setEnabled enabled).trace.sent = [] := by
    unfold setEnabled
    split <;> rfl
  unfold command
  split_ifs
  · simp [hset]
  · simp [hset]
  · rfl

end WaterTank

end Interlock
