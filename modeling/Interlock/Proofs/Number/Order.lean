import Interlock.Number.Single
import Interlock.Proofs.Number.Nearest

namespace Interlock.Number

/-- The magnitude of a value, infinity being the greatest. -/
def magnitudeRat (x : Option Dyadic) : WithTop ℚ :=
  x.elim ⊤ fun d => (d.toRat : WithTop ℚ)

/-- Comparing magnitudes compares them as numbers, with infinity above all of
    them. -/
theorem magnitudeLe_iff (x y : Option Dyadic) :
    Single.magnitudeLe x y = true ↔ magnitudeRat x ≤ magnitudeRat y := by
  cases x <;> cases y <;> simp [Single.magnitudeLe, magnitudeRat, Dyadic.le_iff]

theorem magnitudeRat_nonneg (x : Option Dyadic) : 0 ≤ magnitudeRat x := by
  cases x with
  | none => exact le_top
  | some d => exact WithTop.coe_nonneg.2 d.toRat_nonneg

/-- Rounding keeps the order of numbers, also of those that it takes to
    infinity: what is beyond the limit of the format stays there when it grows. -/
theorem Format.Rounds.mono {f : Format} (hdigits : 0 < f.digits) {r s : ℚ} {x x' : Option Dyadic}
    (hx : f.Rounds r x) (hx' : f.Rounds s x') (hle : r ≤ s) : magnitudeRat x ≤ magnitudeRat x' := by
  cases hx' with
  | beyond => exact le_top
  | within hz hbelow =>
    cases hx with
    | within hy _ => exact WithTop.coe_le_coe.2 (hy.mono hdigits hz hle)
    | beyond hy hbound => exact absurd (hbound.trans (hy.mono hdigits hz hle)) hbelow.not_ge

namespace Single

/-- Both zeros have the magnitude zero. -/
theorem magnitudeRat_of_isZero {x : Single} (h : x.isZero = true) :
    magnitudeRat x.magnitude = 0 := by
  obtain ⟨negative, magnitude⟩ := x
  cases magnitude with
  | none => simp [isZero] at h
  | some d =>
    have hmantissa : d.mantissa = 0 := eq_of_beq h
    simp [magnitudeRat, Dyadic.toRat, hmantissa]

/-- A value is at most a count if it is negative or its magnitude is at most
    that of the count. -/
theorem le_ofNat_iff (x : Single) (n : Nat) :
    x.le (ofNat n) = true ↔
      x.negative = true ∨ magnitudeRat x.magnitude ≤ magnitudeRat (Format.single.round n 1) := by
  unfold le
  split_ifs with hzero hnegative
  · have hx := magnitudeRat_of_isZero (Bool.and_eq_true _ _ ▸ hzero).1
    simp [hx, magnitudeRat_nonneg]
  all_goals simp_all [ofNat, magnitudeLe_iff]

/-- A count is rounded to the nearest value of the format. -/
theorem rounds_ofNat (n : Nat) : Format.single.Rounds n (Format.single.round n 1) := by
  have hround := (Format.round_eq_iff (f := .single) (by decide) n one_pos _).1 rfl
  rwa [Nat.cast_one, div_one] at hround

/-- A value that a count reaches is reached by every greater count. -/
theorem le_ofNat_mono {x : Single} {m n : Nat} (h : m ≤ n) (hm : x.le (ofNat m) = true) :
    x.le (ofNat n) = true := by
  rw [le_ofNat_iff] at hm ⊢
  have hrounded := (rounds_ofNat m).mono (by decide) (rounds_ofNat n) (Nat.cast_le.2 h)
  exact hm.imp_right fun hle => hle.trans hrounded

end Single

end Interlock.Number
