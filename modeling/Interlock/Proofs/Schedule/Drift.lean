import Interlock.Schedule
import Mathlib.Tactic.Ring

namespace Interlock

namespace Schedule

/-- Deadlines are passed one after the other until the next one is still to
    come. -/
inductive Passes (now : Nat) : Schedule → Nat → Schedule → Prop where
  | ahead {s : Schedule} (ahead : now < s.next) : Passes now s 0 s
  | pass {s s' : Schedule} {count : Nat} (due : s.next ≤ now)
    (later : Passes now { s with next := s.next + s.period } count s') : Passes now s (count + 1) s'

/-- The number of deadlines from the next one up to a moment. -/
def due (s : Schedule) (now : Nat) : Nat :=
  if now < s.next then 0 else (now - s.next) / s.period + 1

theorem due_eq_zero_iff {s : Schedule} {now : Nat} : s.due now = 0 ↔ now < s.next := by
  unfold due
  split <;> simp_all

/-- One deadline less is due once the next one is passed. -/
theorem due_pass {s : Schedule} {now : Nat} (hperiod : 0 < s.period) (hdue : s.next ≤ now) :
    s.due now = due { s with next := s.next + s.period } now + 1 := by
  have hsub : now - (s.next + s.period) = now - s.next - s.period := Nat.sub_add_eq ..
  rw [due, if_neg (Nat.not_lt.2 hdue), due]
  dsimp only
  split
  · rename_i hlast
    rw [Nat.div_eq_of_lt (by omega)]
  · rename_i hmore
    rw [hsub, ← Nat.div_eq_sub_div hperiod (by omega)]

/-- A schedule with a period catches up with every moment, by passing what is
    due. Each deadline that is passed brings the next one nearer to the moment,
    so the passing comes to an end. -/
theorem passes_due {s : Schedule} (hperiod : 0 < s.period) (now : Nat) :
    Passes now s (s.due now) { s with next := s.next + s.due now * s.period } := by
  generalize hcount : s.due now = count
  induction count generalizing s with
  | zero =>
    rw [Nat.zero_mul, Nat.add_zero]
    exact .ahead (due_eq_zero_iff.1 hcount)
  | succ count ih =>
    have hdue : s.next ≤ now := by
      rw [← Nat.not_lt, ← due_eq_zero_iff, hcount]
      exact Nat.succ_ne_zero count
    have hlater := ih (s := { s with next := s.next + s.period }) hperiod
      (Nat.succ.inj ((due_pass hperiod hdue).symm.trans hcount))
    have hnext : s.next + (count + 1) * s.period = s.next + s.period + count * s.period := by
      rw [Nat.succ_mul]
      omega
    rw [hnext]
    exact .pass hdue hlater

/-- Passing deadlines one after the other is what catching up computes, and the
    count goes on from where it was. -/
theorem Passes.passFrom_eq {s s' : Schedule} {now count : Nat} (hpasses : Passes now s count s')
    (hperiod : 0 < s.period) (fired : UInt32) :
    s.passFrom now fired = (s', fired + UInt32.ofNat count) := by
  induction hpasses generalizing fired with
  | ahead hahead =>
    rw [passFrom, if_pos (.inr hahead)]
    exact congrArg (Prod.mk _) (UInt32.add_zero fired).symm
  | @pass s s' count hdue _ ih =>
    have hbehind : ¬(s.period = 0 ∨ now < s.next) := by omega
    have hcount : fired + 1 + UInt32.ofNat count = fired + UInt32.ofNat (count + 1) := by
      rw [UInt32.ofNat_add, UInt32.add_assoc, UInt32.add_comm 1]
      rfl
    rw [passFrom, if_neg hbehind, ih hperiod, hcount]

/-- Catching up in one step: the next deadline moves on by as many periods as
    were due. -/
theorem advance_eq {s : Schedule} (hperiod : 0 < s.period) (now : Nat) :
    s.advance now =
      ({ s with next := s.next + s.due now * s.period }, UInt32.ofNat (s.due now)) := by
  rw [advance, (passes_due hperiod now).passFrom_eq hperiod, UInt32.zero_add]

/-- The whole periods from the start up to a moment. -/
def periods (period start moment : Nat) : Nat :=
  (moment - start) / period

/-- The schedule whose next deadline is the first one behind a moment. -/
def upTo (period start moment : Nat) : Schedule :=
  ⟨period, start + period * (1 + periods period start moment)⟩

/-- A new schedule is the one whose next deadline is the first one behind its
    start. -/
theorem every_eq_upTo (period start : Nat) : every period start = upTo period start start := by
  simp [every, upTo, periods]

/-- What is due are the periods that have gone by since the latest moment
    before. A moment that is not later than that adds nothing. -/
theorem periods_max {period start latest : Nat} (hperiod : 0 < period) (hstart : start ≤ latest)
    (now : Nat) :
    periods period start (max latest now) =
      periods period start latest + (upTo period start latest).due now := by
  have hlatest : latest - start < period * (1 + periods period start latest) := by
    rw [Nat.add_comm]
    exact Nat.lt_mul_div_succ _ hperiod
  unfold due
  split
  · rename_i hahead
    have hnow : now - start < period * (1 + periods period start latest) := by
      dsimp only [upTo] at hahead
      omega
    rw [Nat.add_zero]
    rcases Nat.le_total now latest with hold | hnew
    · rw [Nat.max_eq_left hold]
    · rw [Nat.max_eq_right hnew]
      refine Nat.le_antisymm ?_ (Nat.div_le_div_right (by omega))
      rw [periods, ← Nat.lt_succ_iff, Nat.div_lt_iff_lt_mul hperiod, Nat.mul_comm,
        Nat.succ_eq_one_add]
      exact hnow
  · rename_i hdue
    dsimp only [upTo] at hdue ⊢
    have hsplit : now - start = now - (start + period * (1 + periods period start latest)) +
        period * (1 + periods period start latest) := by omega
    rw [Nat.max_eq_right (by omega), periods, hsplit, Nat.add_mul_div_left _ _ hperiod]
    omega

/-- Catching up with a moment leads to the schedule of the latest moment so far. -/
theorem advance_upTo {period start latest : Nat} (hperiod : 0 < period) (hstart : start ≤ latest)
    (now : Nat) :
    (upTo period start latest).advance now =
      (upTo period start (max latest now), UInt32.ofNat ((upTo period start latest).due now)) := by
  have hnext : start + period * (1 + periods period start latest) +
      (upTo period start latest).due now * period =
        start + period * (1 + periods period start (max latest now)) := by
    rw [periods_max hperiod hstart]
    ring
  rw [advance_eq hperiod]
  exact congrArg (fun next => (Schedule.mk period next, _)) hnext

/-- A schedule catches up with one moment after the other. The sum of what fired
    is a number without a bound. -/
def advanceAll (s : Schedule) : List Nat → Schedule × Nat
  | [] => (s, 0)
  | now :: later =>
    let (s, fired) := s.advance now
    let (s, total) := s.advanceAll later
    (s, fired.toNat + total)

/-- At no moment have `2 ^ 32` or more periods gone by since the latest moment
    before. A longer delay would not fit the count of what fired. -/
def KeepsUp (period start : Nat) : Nat → List Nat → Prop
  | _, [] => True
  | latest, now :: later =>
    periods period start (max latest now) < periods period start latest + 2 ^ 32 ∧
      KeepsUp period start (max latest now) later

/-- Whatever the order of the moments, the schedule depends on the latest one
    only, and the sum of what fired on the periods up to there. The induction is
    on the moments, and the number of periods so far carries it. -/
theorem advanceAll_upTo {period start latest : Nat} (hperiod : 0 < period) (hstart : start ≤ latest)
    {moments : List Nat} (hkeeps : KeepsUp period start latest moments) :
    ((upTo period start latest).advanceAll moments).1 =
        upTo period start (moments.foldl max latest) ∧
      periods period start latest + ((upTo period start latest).advanceAll moments).2 =
        periods period start (moments.foldl max latest) := by
  induction moments generalizing latest with
  | nil => exact ⟨rfl, rfl⟩
  | cons now later ih =>
    obtain ⟨hbehind, hlater⟩ := hkeeps
    obtain ⟨hnext, htotal⟩ := ih (Nat.le_trans hstart (Nat.le_max_left latest now)) hlater
    rw [periods_max hperiod hstart] at hbehind htotal
    have hfired : (UInt32.ofNat ((upTo period start latest).due now)).toNat =
        (upTo period start latest).due now :=
      UInt32.toNat_ofNat_of_lt (Nat.lt_of_add_lt_add_left hbehind)
    rw [advanceAll, advance_upTo hperiod hstart, List.foldl_cons]
    dsimp only
    rw [hfired]
    exact ⟨hnext, by omega⟩

/-- A schedule with a period is asked to catch up at moments in any order, and
    is never `2 ^ 32` or more periods behind. Its next deadline is the first one
    behind the latest of the moments, or behind the start, and it fired once for
    every whole period from the start up to there. At whatever moment it is
    asked next, it catches up by passing the deadlines one after the other. So
    it does not matter at which moments it was asked before the latest one. -/
theorem deadlines_drift_free {period start : Nat} (hperiod : 0 < period) {moments : List Nat}
    (hkeeps : KeepsUp period start start moments) :
    let latest := moments.foldl max start
    let fired := (latest - start) / period
    let run := (every period start).advanceAll moments
    run.1.next = start + period * (1 + fired) ∧ run.2 = fired ∧
      (∀ now, ∃ count, Passes now run.1 count (run.1.advance now).1 ∧
        (run.1.advance now).2 = UInt32.ofNat count) ∧
      (∀ now, run.1.remaining now = start + period * (1 + fired) - now) ∧
      ∀ others, KeepsUp period start start others → others.foldl max start = latest →
        (every period start).advanceAll others = run := by
  intro latest fired run
  have hrun {asked : List Nat} (hkeeps : KeepsUp period start start asked) :
      (every period start).advanceAll asked =
        (upTo period start (asked.foldl max start),
          periods period start (asked.foldl max start)) := by
    obtain ⟨hnext, htotal⟩ := advanceAll_upTo hperiod (Nat.le_refl start) hkeeps
    rw [every_eq_upTo]
    refine Prod.ext hnext ?_
    simpa [periods] using htotal
  have hhere : run = (upTo period start latest, fired) := hrun hkeeps
  rw [hhere]
  refine ⟨rfl, rfl, fun now => ?_, fun now => rfl, fun others hothers hlatest => ?_⟩
  · have hpasses := passes_due (s := upTo period start latest) hperiod now
    rw [advance_eq hperiod]
    exact ⟨_, hpasses, rfl⟩
  · rw [hrun hothers, hlatest]
    rfl

/-- Asked three and a half periods after the start and then once more for an
    earlier moment. -/
theorem deadlines_drift_free_late :
    (0 < 100 ∧ KeepsUp 100 5 5 [5, 355, 120]) ∧
      ((every 100 5).advanceAll [5, 355, 120]).1.next = 405 ∧
      ((every 100 5).advanceAll [5, 355, 120]).2 = 3 := by
  have hkeeps : KeepsUp 100 5 5 [5, 355, 120] := by simp [KeepsUp, periods]
  obtain ⟨hnext, hfired, -⟩ := deadlines_drift_free (by decide) hkeeps
  exact ⟨⟨by decide, hkeeps⟩, hnext, hfired⟩

end Schedule

end Interlock
