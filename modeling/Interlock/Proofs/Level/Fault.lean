import Interlock.Level.Fault

namespace Interlock

/-- The rank of a fault; the greater is the more severe. -/
def LevelFault.severity : LevelFault → Nat
  | lowWater => 0
  | filtersBlocked => 1
  | tankIdleTooLong => 2
  | levelTooHigh => 3

namespace FaultSet

/-- A set lacks a most severe fault exactly if it has none of the named faults;
    its other bits do not count. -/
theorem mostSevere_eq_none_iff (s : FaultSet) :
    s.mostSevere = none ↔ ∀ fault, s.has fault = false := by
  simp only [mostSevere, List.find?_eq_none, Bool.not_eq_true]
  constructor
  · intro hnone fault
    exact hnone fault (by cases fault <;> decide)
  · intro hnone fault _
    exact hnone fault

/-- The fault that is picked is in the set. -/
theorem has_of_mostSevere {s : FaultSet} {fault : LevelFault}
    (hworst : s.mostSevere = some fault) : s.has fault = true :=
  List.find?_some hworst

/-- No fault of the set outranks the one that is picked, as they are tried in
    the order of their severity. -/
theorem severity_le_of_mostSevere {s : FaultSet} {fault other : LevelFault}
    (hworst : s.mostSevere = some fault) (hother : s.has other = true) :
    other.severity ≤ fault.severity := by
  have hordered : LevelFault.bySeverity.Pairwise (fun a b => b.severity ≤ a.severity) := by decide
  have hlisted : other ∈ LevelFault.bySeverity := by cases other <;> decide
  -- The faults before the one picked are not in the set, and those after it rank no higher.
  obtain ⟨_, before, after, hsplit, habsent⟩ := List.find?_eq_some_iff_append.1 hworst
  rw [hsplit] at hordered hlisted
  rcases List.mem_append.1 hlisted with hbefore | hafter
  · have hnot := habsent other hbefore
    simp [hother] at hnot
  · rcases List.mem_cons.1 hafter with rfl | hafter
    · exact Nat.le_refl _
    · have htail := (List.pairwise_append.1 hordered).2.1
      exact (List.pairwise_cons.1 htail).1 other hafter

/-- A set whose bits all name faults lacks a most severe one exactly if it is
    empty. -/
theorem mostSevere_eq_none_iff_mask {s : FaultSet} (hunnamed : s.unnamed = 0) :
    s.mostSevere = none ↔ s.mask = 0 := by
  rw [mostSevere_eq_none_iff]
  constructor
  · intro hnone
    have hlow : s.lowWater = false := hnone .lowWater
    have hblocked : s.filtersBlocked = false := hnone .filtersBlocked
    have hidle : s.tankIdleTooLong = false := hnone .tankIdleTooLong
    have hhigh : s.levelTooHigh = false := hnone .levelTooHigh
    simp [mask, hlow, hblocked, hidle, hhigh, hunnamed]
  · intro hmask fault
    have hbits : s.lowWater.toNat = 0 ∧ s.filtersBlocked.toNat = 0 ∧ s.tankIdleTooLong.toNat = 0 ∧
        s.levelTooHigh.toNat = 0 := by
      unfold mask at hmask
      omega
    simp only [Bool.toNat_eq_zero] at hbits
    cases fault <;> simp [has, hbits]

/-- A set whose bits all name faults has a most severe one unless it is empty. -/
theorem exists_mostSevere {s : FaultSet} (hunnamed : s.unnamed = 0) (hmask : s.mask ≠ 0) :
    ∃ fault, s.mostSevere = some fault :=
  Option.ne_none_iff_exists'.1 (mt (mostSevere_eq_none_iff_mask hunnamed).1 hmask)

end FaultSet

end Interlock
