import Interlock.Proofs.Level.History

namespace Interlock

namespace LevelGuard

/-- An evaluation finds the tank idle exactly if it was given up before it. -/
theorem tankIdleTooLong_evaluate (g : LevelGuard) (floats : Floats) :
    (g.evaluate floats).2.faults.has .tankIdleTooLong = g.isTooLow := by
  rw [faults_evaluate, FaultSet.has, phase]
  cases g.isTooLow <;> cases floats.middle <;> rfl

theorem phase_eq_tooLow_iff (g : LevelGuard) (floats : Floats) :
    g.phase floats = .tooLow ↔ g.isTooLow = true := by
  rw [phase]
  cases g.isTooLow <;> cases floats.middle <;> decide

/-- Over a wet middle float the tank is found draining exactly if it was not
    given up. -/
theorem phase_eq_dumping_iff (g : LevelGuard) {floats : Floats} (hwet : floats.middle = true) :
    g.phase floats = .dumping ↔ g.isTooLow = false := by
  rw [phase, hwet]
  cases g.isTooLow <;> decide

/-- Filling is not timed while the middle float is wet, whether or not the tank
    was given up. -/
theorem lowWater_evaluate_of_wet (g : LevelGuard) {floats : Floats} (hwet : floats.middle = true) :
    (g.evaluate floats).2.faults.has .lowWater = false := by
  rw [faults_evaluate, FaultSet.has, phase, hwet]
  cases g.isTooLow <;> rfl

instance (limits : LevelLimits) (readings : List Floats) : Decidable (GivenUp limits readings) :=
  inferInstanceAs (Decidable (∃ i < readings.length, _))

/-- The guard counts a tank as given up exactly if the readings since the last
    reset say so. -/
theorem isTooLow_afterUses_iff (limits : LevelLimits) (uses : List Use) :
    (afterUses limits uses).isTooLow = true ↔ GivenUp limits (sinceReset uses) := by
  rw [(tracks_afterUses limits uses).isTooLow_iff, limits_afterUses]

/-- A tank that was given up stays so under later readings. -/
theorem GivenUp.append {limits : LevelLimits} {readings : List Floats}
    (hgiven : GivenUp limits readings) (later : List Floats) :
    GivenUp limits (readings ++ later) := by
  induction later using List.reverseRecOn with
  | nil => rwa [List.append_nil]
  | append_singleton later floats ih =>
    rw [← List.append_assoc, givenUp_snoc]
    exact Or.inl ih

/-- Evaluations add their readings to those since the last reset. -/
theorem sinceReset_append_evaluate (uses : List Use) (later : List Floats) :
    sinceReset (uses ++ later.map .evaluate) = sinceReset uses ++ later := by
  induction later using List.reverseRecOn with
  | nil => simp
  | append_singleton later floats ih =>
    rw [List.map_append, ← List.append_assoc, sinceReset, List.foldl_append, ← sinceReset, ih]
    simp

/-- A wet reading after any evaluations and resets of a new guard. Low water is
    never found: it goes with the first wet reading. The tank is found draining
    and not idle exactly if no dry run since the last reset went beyond the last
    limit. After such a run the tank is found idle for too long by every
    evaluation up to the next reset, whatever its floats read. -/
theorem dry_faults_clear_iff (limits : LevelLimits) (uses : List Use) {floats : Floats}
    (hwet : floats.middle = true) :
    let found := ((afterUses limits uses).evaluate floats).2
    found.faults.has .lowWater = false ∧
      ((found.faults.has .lowWater = false ∧ found.faults.has .tankIdleTooLong = false ∧
          found.phase = .dumping) ↔
        ¬GivenUp limits (sinceReset uses)) ∧
      (GivenUp limits (sinceReset uses) → ∀ (later : List Floats) (last : Floats),
        let again := ((afterUses limits (uses ++ later.map .evaluate)).evaluate last).2
        again.faults.has .tankIdleTooLong = true ∧ again.phase = .tooLow) := by
  intro found
  have hlow : found.faults.has .lowWater = false := lowWater_evaluate_of_wet _ hwet
  have hidle : found.faults.has .tankIdleTooLong = (afterUses limits uses).isTooLow :=
    tankIdleTooLong_evaluate _ floats
  have hdumping : found.phase = .dumping ↔ (afterUses limits uses).isTooLow = false :=
    phase_eq_dumping_iff _ hwet
  refine ⟨hlow, ?_, fun hgiven later last => ?_⟩
  · rw [← isTooLow_afterUses_iff, Bool.not_eq_true, hidle, hdumping]
    exact ⟨fun hclear => hclear.2.1, fun hnot => ⟨hlow, hnot, hnot⟩⟩
  · have hstill : (afterUses limits (uses ++ later.map .evaluate)).isTooLow = true := by
      rw [isTooLow_afterUses_iff, sinceReset_append_evaluate]
      exact hgiven.append later
    exact ⟨(tankIdleTooLong_evaluate _ last).trans hstill, (phase_eq_tooLow_iff _ last).2 hstill⟩

/-- A tank that was dry for three seconds, with a last limit of two, is found
    idle by a wet reading. -/
theorem idle_tank_found_wet :
    ¬∀ (limits : LevelLimits) (uses : List Use) (floats : Floats), floats.middle = true →
      let found := ((afterUses limits uses).evaluate floats).2
      found.faults.has .lowWater = false ∧ found.faults.has .tankIdleTooLong = false ∧
        found.phase = .dumping := by
  intro hclears
  have hwet := hclears ⟨20, 40, 2⟩ [.evaluate {}, .evaluate {}, .evaluate {}] { middle := true } rfl
  exact absurd hwet (by decide)

/-- A tank that ran low and is wet in time, and one that was given up and stays
    so for a wet minute. -/
theorem dry_faults_clear_iff_in_time :
    let limits : LevelLimits := ⟨1, 40, 2⟩
    let wet : Floats := { middle := true }
    let low : List Use := [.evaluate {}, .evaluate {}]
    let idle : List Use := [.evaluate {}, .evaluate {}, .evaluate {}]
    (((afterUses limits [.evaluate {}]).evaluate {}).2.faults.has .lowWater = true ∧
      ((afterUses limits low).evaluate wet).2.phase = .dumping) ∧
    ((afterUses limits (idle ++ (List.replicate 60 wet).map .evaluate)).evaluate wet).2.phase =
      .tooLow := by
  intro limits wet low idle
  have hwet : wet.middle = true := rfl
  have hintime := (dry_faults_clear_iff limits low hwet).2.1.2 (by decide)
  have hlate := (dry_faults_clear_iff limits idle hwet).2.2 (by decide)
    (List.replicate 60 wet) wet
  exact ⟨⟨by decide, hintime.2.2⟩, hlate.2⟩

end LevelGuard

end Interlock
