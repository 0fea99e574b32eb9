import Interlock.Level.Guard
import Mathlib.Data.List.Induction

namespace Interlock

namespace Counter

/-- The counter waits for no request, runs exactly when `n` seconds are being
    timed, and then shows them as far as a counter counts. -/
structure Times (c : Counter) (n : Nat) : Prop where
  no_start : c.startRequested = false
  no_stop : c.stopRequested = false
  running_iff : c.running = true ↔ 0 < n
  elapsed_eq : 0 < n → c.elapsed = min n greatest

theorem times_zero : Times {} 0 where
  no_start := rfl
  no_stop := rfl
  running_iff := by simp
  elapsed_eq := by simp

/-- Asking for a counter adds a second to what it times, from zero if it stood
    still. Nothing holds it and no rival starts, as two counters that exclude
    each other are not asked for in one second. -/
theorem Times.ensureRunning_tick {c : Counter} {n : Nat} (htimes : c.Times n) :
    (c.ensureRunning.tick false false).Times (n + 1) ∧
      (c.ensureRunning.tick false false).elapsed = min (n + 1) greatest := by
  obtain ⟨hstart, hstop, hrunning, helapsed⟩ := htimes
  by_cases hpos : 0 < n
  · have hrun : c.running = true := hrunning.2 hpos
    have hnext : min (min n greatest + 1) greatest = min (n + 1) greatest := by omega
    have htick : c.ensureRunning.tick false false = { c with elapsed := min (n + 1) greatest } := by
      simp [ensureRunning, tick, settle, count, hrun, hstart, hstop, helapsed hpos, hnext]
    rw [htick]
    exact ⟨⟨hstart, hstop, by simp [hrun], fun _ => rfl⟩, rfl⟩
  · have hrun : c.running = false := by simpa [hpos] using hrunning
    have hzero : n = 0 := by omega
    have htick :
        c.ensureRunning.tick false false = { elapsed := min 1 greatest, running := true } := by
      simp [ensureRunning, requestStart, tick, settle, count, hrun]
    rw [htick, hzero]
    exact ⟨⟨rfl, rfl, by simp, fun _ => rfl⟩, rfl⟩

/-- Asking for a counter leaves no request only if the counter runs. -/
theorem running_of_ensureRunning {c : Counter} (hnone : c.ensureRunning.startRequested = false) :
    c.running = true := by
  cases hrun : c.running with
  | true => rfl
  | false => simp [ensureRunning, requestStart, hrun] at hnone

/-- A counter that is not asked for stands still once its rival starts, and
    keeps its count. -/
theorem Times.tick_stopped {c : Counter} {n : Nat} (htimes : c.Times n) {rivalStarts : Bool}
    (hstops : rivalStarts = false → n = 0) :
    (c.tick false rivalStarts).Times 0 ∧ (c.tick false rivalStarts).elapsed = c.elapsed := by
  obtain ⟨hstart, hstop, hrunning, _⟩ := htimes
  cases rivalStarts with
  | true =>
    have htick : c.tick false true = { elapsed := c.elapsed } := by
      simp [tick, settle, count, hstart]
    rw [htick]
    exact ⟨⟨rfl, rfl, by simp, by simp⟩, rfl⟩
  | false =>
    have hrun : c.running = false := by simpa [hstops rfl] using hrunning
    have htick : c.tick false false = c := by simp [tick, settle, count, hstart, hstop, hrun]
    rw [htick]
    exact ⟨⟨hstart, hstop, by simp [hrun], by simp⟩, rfl⟩

end Counter

namespace LevelGuard

/-- What the module of a tank does with its guard. -/
inductive Use where
  | evaluate (floats : Floats)
  | resetTimers

/-- The guard after a use. -/
def use (g : LevelGuard) : Use → LevelGuard
  | .evaluate floats => (g.evaluate floats).1
  | .resetTimers => g.resetTimers

/-- A new guard after a number of uses. -/
def afterUses (limits : LevelLimits) (uses : List Use) : LevelGuard :=
  uses.foldl use { limits }

/-- The readings of the evaluations since the last reset. -/
def sinceReset (uses : List Use) : List Floats :=
  uses.foldl (fun readings u =>
    match u with
    | .evaluate floats => readings ++ [floats]
    | .resetTimers => []) []

/-- How many of the last readings in a row have the middle float at the given
    level. -/
def runLength (middle : Bool) (readings : List Floats) : Nat :=
  (readings.reverse.takeWhile (·.middle == middle)).length

/-- The length of the last run as far as a counter counts. -/
def runTime (middle : Bool) (readings : List Floats) : Nat :=
  min (runLength middle readings) Counter.greatest

/-- Some dry run among the readings, up to one of them, went beyond the last
    limit. -/
def GivenUp (limits : LevelLimits) (readings : List Floats) : Prop :=
  ∃ i < readings.length, limits.tooLow < runTime false (readings.take (i + 1))

/-- A reading adds to the last run of its own kind, and ends that of the other
    kind. -/
theorem runLength_snoc (middle : Bool) (readings : List Floats) (floats : Floats) :
    runLength middle (readings ++ [floats]) =
      if floats.middle = middle then runLength middle readings + 1 else 0 := by
  by_cases h : floats.middle = middle <;> simp [runLength, h]

/-- A tank is given up by the reading that makes its dry run too long, or was
    before. -/
theorem givenUp_snoc (limits : LevelLimits) (readings : List Floats) (floats : Floats) :
    GivenUp limits (readings ++ [floats]) ↔
      GivenUp limits readings ∨ limits.tooLow < runTime false (readings ++ [floats]) := by
  have htake (i : Nat) (hi : i < readings.length) :
      (readings ++ [floats]).take (i + 1) = readings.take (i + 1) :=
    List.take_append_of_le_length hi
  constructor
  · rintro ⟨i, hi, hlong⟩
    rw [List.length_append, List.length_singleton] at hi
    by_cases hlast : i = readings.length
    · subst hlast
      right
      rwa [List.take_of_length_le (by simp)] at hlong
    · have hearlier : i < readings.length := by omega
      exact Or.inl ⟨i, hearlier, by rwa [htake i hearlier] at hlong⟩
  · rintro (⟨i, hi, hlong⟩ | hlong)
    · exact ⟨i, by simp; omega, by rwa [htake i hi]⟩
    · exact ⟨readings.length, by simp, by rwa [List.take_of_length_le (by simp)]⟩

/-- Behind a dry reading there is no wet run. -/
theorem runLength_true_eq_zero {readings : List Floats} (hdry : 0 < runLength false readings) :
    runLength true readings = 0 := by
  induction readings using List.reverseRecOn with
  | nil => simp [runLength]
  | append_singleton readings floats _ =>
    rw [runLength_snoc] at hdry ⊢
    cases hmiddle : floats.middle with
    | false => simp
    | true => simp [hmiddle] at hdry

/-- Behind a wet reading there is no dry run. -/
theorem runLength_false_eq_zero {readings : List Floats} (hwet : 0 < runLength true readings) :
    runLength false readings = 0 := by
  rcases Nat.eq_zero_or_pos (runLength false readings) with hzero | hdry
  · exact hzero
  · have hnone := runLength_true_eq_zero hdry
    omega

/-- While the tank is in use, each counter times the last run of its own kind.
    The count of an older dry run may stand in the fill counter, but it is not
    beyond the limit. -/
structure InUse (g : LevelGuard) (readings : List Floats) : Prop where
  fill : g.fill.Times (runLength false readings)
  dump : g.dump.Times (runLength true readings)
  fill_le : g.fill.elapsed ≤ g.limits.tooLow

/-- Once the tank is given up the fill counter runs on, since nothing is asked
    of the dump counter any more. -/
structure Abandoned (g : LevelGuard) : Prop where
  running : g.fill.running = true
  no_start : g.fill.startRequested = false
  no_stop : g.fill.stopRequested = false
  no_rival : g.dump.startRequested = false
  lt_fill : g.limits.tooLow < g.fill.elapsed
  lt_greatest : g.limits.tooLow < Counter.greatest

/-- The guard knows of its readings what the next evaluation needs. -/
def Tracks (g : LevelGuard) (readings : List Floats) : Prop :=
  (¬ GivenUp g.limits readings ∧ g.InUse readings) ∨ (GivenUp g.limits readings ∧ g.Abandoned)

/-- A guard whose counters are at the beginning tracks no readings. -/
theorem tracks_nil {g : LevelGuard} (hfill : g.fill = {}) (hdump : g.dump = {}) : g.Tracks [] := by
  refine Or.inl ⟨by simp [GivenUp], ?_, ?_, by simp [hfill]⟩
  · rw [hfill]
    exact Counter.times_zero
  · rw [hdump]
    exact Counter.times_zero

/-- The guard counts the tank as given up exactly if its readings say so. In use
    the fill counter is within the limit, and an abandoned one is beyond it. -/
theorem Tracks.isTooLow_iff {g : LevelGuard} {readings : List Floats}
    (htracks : g.Tracks readings) :
    g.isTooLow = true ↔ GivenUp g.limits readings := by
  rcases htracks with ⟨hnot, hinUse⟩ | ⟨hgiven, habandoned⟩
  · have hle := hinUse.fill_le
    simp [isTooLow, hnot, hle]
  · simp [isTooLow, hgiven, habandoned.lt_fill]

@[simp] theorem limits_advance (g : LevelGuard) (floats : Floats) :
    (g.advance floats).limits = g.limits := by
  simp only [advance, tick]
  cases g.phase floats <;> rfl

theorem fill_advance (g : LevelGuard) (floats : Floats) :
    (g.advance floats).fill =
      (g.request (g.phase floats)).fill.tick false
        (g.request (g.phase floats)).dump.startRequested :=
  rfl

theorem dump_advance (g : LevelGuard) (floats : Floats) :
    (g.advance floats).dump =
      (g.request (g.phase floats)).dump.tick false
        (g.request (g.phase floats)).fill.startRequested :=
  rfl

/-- In use, the middle float alone decides on the phase. -/
theorem InUse.phase_eq {g : LevelGuard} {readings : List Floats} (hinUse : g.InUse readings)
    (floats : Floats) : g.phase floats = if floats.middle then .dumping else .filling := by
  have hle := hinUse.fill_le
  have hlow : g.isTooLow = false := by simp [isTooLow, hle]
  simp [phase, hlow]

/-- A dry second in use: filling has taken as long as the dry run that ends now.
    That is not yet to be in use, since the run may have gone beyond the limit. -/
theorem InUse.advance_dry {g : LevelGuard} {readings : List Floats} (hinUse : g.InUse readings)
    {floats : Floats} (hdry : floats.middle = false) :
    (g.advance floats).fill.Times (runLength false (readings ++ [floats])) ∧
      (g.advance floats).dump.Times (runLength true (readings ++ [floats])) ∧
      (g.advance floats).fill.elapsed = runTime false (readings ++ [floats]) := by
  have hphase : g.phase floats = .filling := by simp [hinUse.phase_eq, hdry]
  obtain ⟨htimes, helapsed⟩ := hinUse.fill.ensureRunning_tick
  have hfill : (g.advance floats).fill = g.fill.ensureRunning.tick false false := by
    simp [fill_advance, hphase, request, hinUse.dump.no_start]
  have hstops (hnone : g.fill.ensureRunning.startRequested = false) : runLength true readings = 0 :=
    runLength_true_eq_zero (hinUse.fill.running_iff.1 (Counter.running_of_ensureRunning hnone))
  have hdump := hinUse.dump.tick_stopped hstops
  have hdumpEq :
      (g.advance floats).dump = g.dump.tick false g.fill.ensureRunning.startRequested := by
    simp [dump_advance, hphase, request]
  rw [hfill, hdumpEq]
  refine ⟨?_, ?_, ?_⟩
  · simpa [runLength_snoc, hdry] using htimes
  · simpa [runLength_snoc, hdry] using hdump.1
  · simpa [runTime, runLength_snoc, hdry] using helapsed

/-- A wet second in use: draining has taken as long as the wet run that ends
    now, and the time of the last filling stands. -/
theorem InUse.advance_wet {g : LevelGuard} {readings : List Floats} (hinUse : g.InUse readings)
    {floats : Floats} (hwet : floats.middle = true) :
    (g.advance floats).InUse (readings ++ [floats]) ∧
      (g.advance floats).dump.elapsed = runTime true (readings ++ [floats]) := by
  have hphase : g.phase floats = .dumping := by simp [hinUse.phase_eq, hwet]
  obtain ⟨htimes, helapsed⟩ := hinUse.dump.ensureRunning_tick
  have hdump : (g.advance floats).dump = g.dump.ensureRunning.tick false false := by
    simp [dump_advance, hphase, request, hinUse.fill.no_start]
  have hstops (hnone : g.dump.ensureRunning.startRequested = false) :
      runLength false readings = 0 :=
    runLength_false_eq_zero (hinUse.dump.running_iff.1 (Counter.running_of_ensureRunning hnone))
  have hfill := hinUse.fill.tick_stopped hstops
  have hfillEq :
      (g.advance floats).fill = g.fill.tick false g.dump.ensureRunning.startRequested := by
    simp [fill_advance, hphase, request]
  refine ⟨⟨?_, ?_, ?_⟩, ?_⟩
  · simpa [hfillEq, runLength_snoc, hwet] using hfill.1
  · simpa [hdump, runLength_snoc, hwet] using htimes
  · simpa [hfillEq, hfill.2] using hinUse.fill_le
  · simpa [hdump, runTime, runLength_snoc, hwet] using helapsed

/-- A tank that was given up stays given up, whatever its readings are: nothing
    is asked of the dump counter any more, whose start alone could stop the
    filling. -/
theorem Abandoned.advance {g : LevelGuard} (habandoned : g.Abandoned) (floats : Floats) :
    (g.advance floats).Abandoned := by
  obtain ⟨hrunning, hstart, hstop, hrival, hlong, hfits⟩ := habandoned
  have hphase : g.phase floats = .tooLow := by simp [phase, isTooLow, hlong]
  have hfill : (g.advance floats).fill =
      { g.fill with elapsed := min (g.fill.elapsed + 1) Counter.greatest } := by
    simp [fill_advance, hphase, request, Counter.tick, Counter.settle, Counter.count, hrunning,
      hstart, hstop, hrival]
  have hdump : (g.advance floats).dump.startRequested = false := by
    simp only [dump_advance, hphase, request, Counter.tick, Counter.settle, Counter.count, hrival,
      hstart]
    split_ifs <;> simp [hrival]
  refine ⟨?_, ?_, ?_, hdump, ?_, ?_⟩
  · simpa [hfill] using hrunning
  · simpa [hfill] using hstart
  · simpa [hfill] using hstop
  · rw [hfill, limits_advance]
    show g.limits.tooLow < min (g.fill.elapsed + 1) Counter.greatest
    omega
  · simpa using hfits

/-- The step of the invariant: an evaluation keeps track of the reading that it
    took. A dry second in use is the one that may give the tank up. -/
theorem Tracks.advance {g : LevelGuard} {readings : List Floats} (htracks : g.Tracks readings)
    (floats : Floats) : (g.advance floats).Tracks (readings ++ [floats]) := by
  unfold Tracks
  rw [limits_advance, givenUp_snoc]
  rcases htracks with ⟨hnot, hinUse⟩ | ⟨hgiven, habandoned⟩
  · cases hmiddle : floats.middle with
    | false =>
      obtain ⟨hfill, hdump, helapsed⟩ := hinUse.advance_dry hmiddle
      by_cases hlong : g.limits.tooLow < runTime false (readings ++ [floats])
      · -- This second is the one that goes beyond the limit: the fill counter runs by now.
        have hrun : 0 < runLength false (readings ++ [floats]) := by
          simp [runLength_snoc, hmiddle]
        refine Or.inr ⟨Or.inr hlong, ?_, hfill.no_start, hfill.no_stop, hdump.no_start, ?_, ?_⟩
        · exact hfill.running_iff.2 hrun
        · simpa [helapsed] using hlong
        · rw [limits_advance]
          unfold runTime at hlong
          omega
      · refine Or.inl ⟨by simp [hnot, hlong], hfill, hdump, ?_⟩
        rw [helapsed, limits_advance]
        omega
    | true =>
      have hshort : runTime false (readings ++ [floats]) = 0 := by
        simp [runTime, runLength_snoc, hmiddle]
      exact Or.inl ⟨by simp [hnot, hshort], (hinUse.advance_wet hmiddle).1⟩
  · exact Or.inr ⟨Or.inl hgiven, habandoned.advance floats⟩

@[simp] theorem limits_afterUses (limits : LevelLimits) (uses : List Use) :
    (afterUses limits uses).limits = limits := by
  induction uses using List.reverseRecOn with
  | nil => rfl
  | append_singleton uses u ih =>
    rw [afterUses, List.foldl_append]
    cases u with
    | evaluate floats => exact (limits_advance _ floats).trans ih
    | resetTimers => exact ih

/-- Every guard tracks the readings that it took since its last reset, in
    whatever order evaluations and resets came. -/
theorem tracks_afterUses (limits : LevelLimits) (uses : List Use) :
    (afterUses limits uses).Tracks (sinceReset uses) := by
  induction uses using List.reverseRecOn with
  | nil => exact tracks_nil rfl rfl
  | append_singleton uses u ih =>
    rw [afterUses, sinceReset, List.foldl_append, List.foldl_append]
    cases u with
    | evaluate floats => exact ih.advance floats
    | resetTimers => exact tracks_nil rfl rfl

/-- The fill time that an evaluation compares is that of the dry run which ends
    with it. -/
theorem Tracks.fill_elapsed {g : LevelGuard} {readings : List Floats} (htracks : g.Tracks readings)
    (floats : Floats) (hfilling : g.phase floats = .filling) :
    (g.advance floats).fill.elapsed = runTime false (readings ++ [floats]) := by
  rcases htracks with ⟨_, hinUse⟩ | ⟨_, habandoned⟩
  · have hdry : floats.middle = false := by simpa [hinUse.phase_eq] using hfilling
    exact (hinUse.advance_dry hdry).2.2
  · simp [phase, isTooLow, habandoned.lt_fill] at hfilling

/-- The dump time that an evaluation compares is that of the wet run which ends
    with it. -/
theorem Tracks.dump_elapsed {g : LevelGuard} {readings : List Floats} (htracks : g.Tracks readings)
    (floats : Floats) (hdumping : g.phase floats = .dumping) :
    (g.advance floats).dump.elapsed = runTime true (readings ++ [floats]) := by
  rcases htracks with ⟨_, hinUse⟩ | ⟨_, habandoned⟩
  · have hwet : floats.middle = true := by simpa [hinUse.phase_eq] using hdumping
    exact (hinUse.advance_wet hwet).2
  · simp [phase, isTooLow, habandoned.lt_fill] at hdumping

theorem faults_evaluate (g : LevelGuard) (floats : Floats) :
    (g.evaluate floats).2.faults =
      { lowWater := g.phase floats == .filling &&
          g.limits.fillCycle < (g.advance floats).fill.elapsed
        filtersBlocked := g.phase floats == .dumping &&
          g.limits.filterCleaning < (g.advance floats).dump.elapsed
        tankIdleTooLong := g.phase floats == .tooLow
        levelTooHigh := floats.high } := by
  rw [← limits_advance g floats]
  rfl

/-- Every evaluation, after any evaluations and resets of a new guard, finds
    what the readings since the last reset say. Of the runs that end with a
    reading, an earlier dry one beyond the last limit gives the tank up; the run
    that ends with the evaluation itself decides on low water and on blocked
    filters. The counters of the guard do not occur in what is found. -/
theorem evaluate_by_history (limits : LevelLimits) (uses : List Use) (floats : Floats) :
    let earlier := sinceReset uses
    let readings := earlier ++ [floats]
    let givenUp := ∃ i < earlier.length, limits.tooLow < runTime false (readings.take (i + 1))
    let found := ((afterUses limits uses).evaluate floats).2
    (found.phase = .tooLow ↔ givenUp) ∧
      (found.phase = .filling ↔ ¬ givenUp ∧ floats.middle = false) ∧
      (found.phase = .dumping ↔ ¬ givenUp ∧ floats.middle = true) ∧
      (found.faults.has .lowWater ↔
        found.phase = .filling ∧ limits.fillCycle < runTime false readings) ∧
      (found.faults.has .filtersBlocked ↔
        found.phase = .dumping ∧ limits.filterCleaning < runTime true readings) ∧
      (found.faults.has .tankIdleTooLong ↔ found.phase = .tooLow) ∧
      (found.faults.has .levelTooHigh ↔ floats.high = true) ∧
      found.faults.unnamed = 0 ∧
      found.dumpValve = some (decide (floats.high = true ∨ found.phase = .dumping)) ∧
      found.lowPressurePump = if found.phase = .tooLow then some false else none := by
  intro earlier readings givenUp found
  have htracks : (afterUses limits uses).Tracks earlier := tracks_afterUses limits uses
  have hphase : found.phase = (afterUses limits uses).phase floats := rfl
  have hgiven : (afterUses limits uses).isTooLow = true ↔ givenUp := by
    rw [htracks.isTooLow_iff, limits_afterUses]
    apply exists_congr
    intro i
    refine and_congr_right fun hi => ?_
    rw [List.take_append_of_le_length hi]
  have hfaults : found.faults = _ := faults_evaluate (afterUses limits uses) floats
  rw [limits_afterUses, ← hphase] at hfaults
  have hfill := htracks.fill_elapsed floats
  have hdump := htracks.dump_elapsed floats
  rw [← hphase] at hfill hdump
  have hphaseEq : found.phase =
      if givenUp then .tooLow else if floats.middle then .dumping else .filling := by
    rw [hphase, phase]
    simp only [hgiven]
  have hdumpValve : found.dumpValve = some (floats.high || found.phase == .dumping) := rfl
  have hlowPressurePump :
      found.lowPressurePump = if found.phase == .tooLow then some false else none := rfl
  refine ⟨?_, ?_, ?_, ?_, ?_, ?_, ?_, ?_, ?_, ?_⟩
  · rw [hphaseEq]
    split_ifs <;> simp [*]
  · rw [hphaseEq]
    split_ifs <;> simp [*]
  · rw [hphaseEq]
    split_ifs <;> simp [*]
  · simp only [FaultSet.has, hfaults, Bool.and_eq_true, beq_iff_eq, decide_eq_true_eq]
    exact and_congr_right fun hfilling => by rw [hfill hfilling]
  · simp only [FaultSet.has, hfaults, Bool.and_eq_true, beq_iff_eq, decide_eq_true_eq]
    exact and_congr_right fun hdumping => by rw [hdump hdumping]
  · simp [FaultSet.has, hfaults]
  · simp [FaultSet.has, hfaults]
  · simp [hfaults]
  · rw [hdumpValve]
    simp [Bool.decide_or, beq_eq_decide]
  · rw [hlowPressurePump]
    simp

end LevelGuard

end Interlock
