import Interlock.Module.WaterJet
import Interlock.Pin.Bank

namespace Interlock

namespace WaterJet

/-- What the surroundings may do with a cutter. Pins and panel are whatever they
    are at that moment. -/
inductive Operation : Type 1 where
  | poll {ι : Type} [PinAccess ι] (pins : ι)
  | tick {π : Type} [Panel π] (panel : π)
  | drive {ι : Type} [PinAccess ι] (pins : ι)
  | command (code : Nat)
  | requestState (raw : Nat)
  | resume

def perform (j : WaterJet) : Operation → Traced WaterJet
  | @Operation.poll _ _ pins => j.poll pins
  | @Operation.tick _ _ panel => do
    let (j, _) ← j.tick panel
    return j
  | @Operation.drive _ _ pins => do
    let (j, _) ← j.drive pins
    return j
  | .command code => do
    let (j, _) ← j.command code
    return j
  | .requestState raw => j.requestState raw
  | .resume => do
    let (j, _) ← j.resume
    return j

section

variable {ι π : Type} [PinAccess ι] [Panel π] (j : WaterJet)

@[simp] theorem perform_poll (pins : ι) : j.perform (.poll pins) = j.poll pins := rfl

@[simp] theorem perform_tick (panel : π) :
    j.perform (.tick panel) = ⟨(j.tick panel).value.1, (j.tick panel).trace⟩ := by
  rw [← (j.tick panel).trace.append_empty]
  rfl

@[simp] theorem perform_drive (pins : ι) :
    j.perform (.drive pins) = ⟨(j.drive pins).value.1, (j.drive pins).trace⟩ := by
  rw [← (j.drive pins).trace.append_empty]
  rfl

@[simp] theorem perform_command (code : Nat) :
    j.perform (.command code) = ⟨(j.command code).value.1, (j.command code).trace⟩ := by
  rw [← (j.command code).trace.append_empty]
  rfl

@[simp] theorem perform_requestState (raw : Nat) :
    j.perform (.requestState raw) = j.requestState raw := rfl

@[simp] theorem perform_resume :
    j.perform .resume = ⟨j.resume.value.1, j.resume.trace⟩ := by
  rw [← j.resume.trace.append_empty]
  rfl

end

def performAll (j : WaterJet) : List Operation → Traced WaterJet
  | [] => pure j
  | op :: ops => do
    let j ← j.perform op
    j.performAll ops

theorem value_performAll (j : WaterJet) (ops : List Operation) :
    (j.performAll ops).value = ops.foldl (fun j op => (j.perform op).value) j := by
  induction ops generalizing j with
  | nil => rfl
  | cons op ops ih => exact ih (j.perform op).value

theorem performAll_append (j : WaterJet) (first second : List Operation) :
    j.performAll (first ++ second) = j.performAll first >>= fun j => j.performAll second := by
  induction first generalizing j with
  | nil => simp [performAll, Bind.bind]
  | cons op ops ih => simp [performAll, ih, Bind.bind, Trace.append_assoc]

theorem value_performAll_append (j : WaterJet) (first second : List Operation) :
    (j.performAll (first ++ second)).value =
      ((j.performAll first).value.performAll second).value := by
  rw [performAll_append, Traced.value_bind]

/-- A cutter with all that it did to the outside since it was built. -/
inductive Reached : WaterJet → Trace → Prop where
  | build {ι : Type} [PinAccess ι] {s : JetSettings} {delay : Nat} {pins : ι} {j : WaterJet} :
      (build s delay pins).value = .ok j → Reached j (WaterJet.build s delay pins).trace
  | perform {j : WaterJet} {past : Trace} (op : Operation) :
      Reached j past → Reached (j.perform op).value (past ++ (j.perform op).trace)

/-- A reached cutter stays one through every history, with all that it did. -/
theorem Reached.performAll {j : WaterJet} {past : Trace} (hreached : Reached j past)
    (ops : List Operation) :
    Reached (j.performAll ops).value (past ++ (j.performAll ops).trace) := by
  induction ops generalizing j past with
  | nil => simpa [WaterJet.performAll] using hreached
  | cons op ops ih =>
    have h := ih (hreached.perform op)
    rwa [Trace.append_assoc] at h

/-- A build that succeeds gives the cutter of the settings, and reports no
    events. -/
theorem build_ok {ι : Type} [PinAccess ι] {s : JetSettings} {delay : Nat} {pins : ι} {j : WaterJet}
    (hbuild : (build s delay pins).value = .ok j) :
    j = ofSettings s delay ∧ (build s delay pins).trace.events = [] := by
  unfold build at hbuild ⊢
  split at hbuild
  · simp at hbuild
  · rename_i henable
    cases hfailure : Requirement.failure? owner (requirements s pins) with
    | some cause => simp [hfailure] at hbuild
    | none =>
      simp only [hfailure, Except.ok.injEq] at hbuild ⊢
      simp [hbuild, henable]

/-- What holds of every cutter that is built, and is kept by every operation,
    holds throughout. Nothing is known of the pins that it was built with. -/
theorem Reached.invariant {P : WaterJet → Prop} (hbuilt : ∀ s delay, P (ofSettings s delay))
    (hperform : ∀ j op, P j → P (j.perform op).value) {j : WaterJet} {past : Trace}
    (hreached : Reached j past) : P j := by
  induction hreached with
  | build hbuild =>
    rw [(build_ok hbuild).1]
    exact hbuilt _ _
  | perform op _ ih => exact hperform _ op ih

/-- Settings with the default pins. -/
def plainSettings : JetSettings where
  enable := true
  lowWaterMenu := "/sd/menu/low"
  highWaterMenu := "/sd/menu/high"
  filtersBlockedMenu := "/sd/menu/filters"

/-- A board with the default pins, of which the given ones are high. -/
def plainPins (high : List String) : PinBank :=
  high.foldl (fun pins name => pins.setLevel name true)
    (.ofNames ["P2.12", "P1.28", "P1.29"] ["P2.5", "P2.7", "P1.22"])

/-- A cutter with the default pins after a number of operations. -/
def plain (ops : List Operation) : WaterJet :=
  ((ofSettings plainSettings 20).performAll ops).value

theorem reached_plain (ops : List Operation) :
    Reached (plain ops)
      ((WaterJet.build plainSettings 20 (plainPins [])).trace ++
        ((ofSettings plainSettings 20).performAll ops).trace) :=
  have hbuild : (WaterJet.build plainSettings 20 (plainPins [])).value =
      .ok (ofSettings plainSettings 20) := rfl
  (Reached.build hbuild).performAll ops

/-- The same cutter with a tank that is given up after two dry seconds. -/
def hastySettings : JetSettings :=
  { plainSettings with tooLow := 1 }

/-- That cutter after a number of operations. -/
def hasty (ops : List Operation) : WaterJet :=
  ((ofSettings hastySettings 20).performAll ops).value

theorem reached_hasty (ops : List Operation) :
    Reached (hasty ops)
      ((WaterJet.build hastySettings 20 (plainPins [])).trace ++
        ((ofSettings hastySettings 20).performAll ops).trace) :=
  have hbuild : (WaterJet.build hastySettings 20 (plainPins [])).value =
      .ok (ofSettings hastySettings 20) := rfl
  (Reached.build hbuild).performAll ops

end WaterJet

end Interlock
