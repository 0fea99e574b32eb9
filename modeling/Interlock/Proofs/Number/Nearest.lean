import Interlock.Number.Rounding
import Mathlib.Algebra.Order.Field.Rat
import Mathlib.Data.Int.Log
import Mathlib.Data.Rat.Floor
import Mathlib.Tactic.Linarith
import Mathlib.Tactic.Ring
import Mathlib.Tactic.SplitIfs

namespace Interlock.Number

namespace Dyadic

/-- The number that a dyadic stands for. -/
def toRat (x : Dyadic) : ℚ :=
  x.mantissa * 2 ^ x.exponent

theorem toRat_nonneg (x : Dyadic) : 0 ≤ x.toRat :=
  mul_nonneg x.mantissa.cast_nonneg (zpow_nonneg zero_le_two _)

/-- A dyadic is a multiple of every power of two that does not exceed its last
    digit. -/
theorem toRat_eq_mul (x : Dyadic) {common : Int} (h : common ≤ x.exponent) :
    x.toRat = (x.mantissa * Nat.pow 2 (x.exponent - common).toNat : Nat) * 2 ^ common := by
  have hexponent : x.exponent = ((x.exponent - common).toNat : Int) + common := by omega
  calc x.toRat = x.mantissa * 2 ^ (((x.exponent - common).toNat : Int) + common) := by
        rw [toRat, ← hexponent]
    _ = x.mantissa * (2 ^ (x.exponent - common).toNat * 2 ^ common) := by
        rw [zpow_add₀ two_ne_zero, zpow_natCast]
    _ = _ := by
        rw [Nat.pow_eq, Nat.cast_mul, Nat.cast_pow, Nat.cast_ofNat, mul_assoc]

/-- Comparing two dyadics compares the numbers that they stand for, brought to
    the smaller of the two exponents. -/
theorem le_iff (x y : Dyadic) : x.le y = true ↔ x.toRat ≤ y.toRat := by
  rw [x.toRat_eq_mul (min_le_left _ y.exponent), y.toRat_eq_mul (min_le_right x.exponent _),
    mul_le_mul_iff_left₀ (zpow_pos two_pos _), Nat.cast_le]
  simp [le]

/-- How great a number is can be read off the leading digit of the mantissa. -/
theorem two_pow_le_toRat_iff (x : Dyadic) (limit : Nat) :
    2 ^ limit ≤ x.toRat ↔
      x.mantissa ≠ 0 ∧ (limit : Int) ≤ (x.mantissa.log2 : Int) + x.exponent := by
  obtain hzero | hpositive := x.mantissa.eq_zero_or_pos
  · simp [toRat, hzero]
  · have hscaled : 2 ^ limit ≤ x.toRat ↔ (2 : ℚ) ^ ((limit : Int) - x.exponent) ≤ x.mantissa := by
      rw [toRat, zpow_sub₀ two_ne_zero, zpow_natCast, div_le_iff₀ (zpow_pos two_pos _)]
    have hlog := Int.zpow_le_iff_le_log (R := ℚ) (b := 2) Nat.one_lt_two
      (x := (limit : Int) - x.exponent) (Nat.cast_pos.2 hpositive)
    rw [Int.log_natCast, ← Nat.log2_eq_log_two] at hlog
    rw [hscaled, ← Nat.cast_ofNat (R := ℚ), hlog, sub_le_iff_le_add]
    simp [hpositive.ne']

end Dyadic

/-- The numbers that a format writes, were its exponents not bounded above. The
    mantissa has all its digits unless the last digit is already the least one,
    so that every number is written in one way only. -/
structure Format.Writes (f : Format) (y : Dyadic) : Prop where
  mantissa_lt : y.mantissa < 2 ^ f.digits
  least_le : f.least ≤ y.exponent
  full : y.exponent = f.least ∨ 2 ^ (f.digits - 1) ≤ y.mantissa

/-- The nearest to a number of those that a format writes. Of two that are
    equally near it is the one with an even mantissa. -/
structure Format.IsNearest (f : Format) (r : ℚ) (y : Dyadic) : Prop where
  writes : f.Writes y
  nearest : ∀ z, f.Writes z → |r - y.toRat| ≤ |r - z.toRat|
  even : ∀ z, f.Writes z → |r - y.toRat| = |r - z.toRat| → z = y ∨ y.mantissa % 2 = 0

/-- Rounding a number into a format: to the nearest one that the format writes,
    which is `none` from the limit of the format on. -/
inductive Format.Rounds (f : Format) (r : ℚ) : Option Dyadic → Prop where
  | within {y : Dyadic} (nearest : f.IsNearest r y) (bound : y.toRat < 2 ^ f.limit) :
      f.Rounds r (some y)
  | beyond {y : Dyadic} (nearest : f.IsNearest r y) (bound : 2 ^ f.limit ≤ y.toRat) :
      f.Rounds r none

namespace Format

variable {f : Format} {r s : ℚ} {y z : Dyadic}

/-- Half of the mantissas of a format are full. -/
theorem two_pow_digits (hdigits : 0 < f.digits) : 2 ^ f.digits = 2 * 2 ^ (f.digits - 1) := by
  rw [← Nat.pow_succ', Nat.succ_eq_add_one, Nat.sub_add_cancel hdigits]

/-- A mantissa that fits the format stays below the full mantissas of every
    greater exponent. -/
theorem toRat_lt_of_exponent_lt (hdigits : 0 < f.digits) (hmantissa : y.mantissa < 2 ^ f.digits)
    {e : Int} (hexponent : y.exponent < e) : y.toRat < 2 ^ (f.digits - 1) * 2 ^ e := by
  have hpower : (2 : ℚ) ^ y.exponent ≤ 2 ^ (e - 1) :=
    zpow_le_zpow_right₀ one_le_two (by omega)
  have hcast : (y.mantissa : ℚ) < 2 ^ f.digits := by exact_mod_cast hmantissa
  have hsplit : (2 : ℚ) ^ f.digits = 2 * 2 ^ (f.digits - 1) := by
    exact_mod_cast two_pow_digits hdigits
  calc y.toRat < 2 ^ f.digits * 2 ^ y.exponent :=
        mul_lt_mul_of_pos_right hcast (zpow_pos two_pos _)
    _ ≤ 2 ^ f.digits * 2 ^ (e - 1) :=
        mul_le_mul_of_nonneg_left hpower (pow_nonneg zero_le_two _)
    _ = 2 ^ (f.digits - 1) * 2 ^ e := by
        rw [hsplit, zpow_sub_one₀ two_ne_zero]
        ring

/-- Above the least exponent the mantissa of a number is full. -/
theorem Writes.le_toRat (hz : f.Writes z) (hleast : f.least < z.exponent) :
    2 ^ (f.digits - 1) * 2 ^ z.exponent ≤ z.toRat := by
  have hfull : 2 ^ (f.digits - 1) ≤ z.mantissa := hz.full.resolve_left hleast.ne'
  have hcast : (2 : ℚ) ^ (f.digits - 1) ≤ z.mantissa := by exact_mod_cast hfull
  exact mul_le_mul_of_nonneg_right hcast (zpow_nonneg zero_le_two _)

/-- The exponents of the numbers that a format writes come in the order of the
    numbers: below the least exponent there is nothing, and above it the
    mantissas are full. -/
theorem Writes.lt_of_exponent_lt (hdigits : 0 < f.digits) (hy : f.Writes y) (hz : f.Writes z)
    (hexponent : y.exponent < z.exponent) : y.toRat < z.toRat :=
  (toRat_lt_of_exponent_lt hdigits hy.mantissa_lt hexponent).trans_le
    (hz.le_toRat (hy.least_le.trans_lt hexponent))

/-- Every number is written in one way only: another exponent would make another
    number, and with the same exponent the mantissas agree. -/
theorem Writes.eq_of_toRat_eq (hdigits : 0 < f.digits) (hy : f.Writes y) (hz : f.Writes z)
    (heq : y.toRat = z.toRat) : y = z := by
  obtain hless | hsame | hgreater := lt_trichotomy y.exponent z.exponent
  · exact absurd heq (hy.lt_of_exponent_lt hdigits hz hless).ne
  · have hmantissa : (y.mantissa : ℚ) = z.mantissa := by
      rw [Dyadic.toRat, Dyadic.toRat, hsame] at heq
      exact mul_right_cancel₀ (zpow_pos two_pos _).ne' heq
    obtain ⟨_, _⟩ := y
    obtain ⟨_, _⟩ := z
    exact congrArg₂ Dyadic.mk (Nat.cast_injective hmantissa) hsame
  · exact absurd heq.symm (hz.lt_of_exponent_lt hdigits hy hgreater).ne

/-- Between two numbers with even mantissas the format writes another one: that
    with the mantissa after the smaller one, which is odd and so does not belong
    to the greater one. There is room for it because the greatest mantissa is
    odd. -/
theorem Writes.exists_between (hdigits : 0 < f.digits) (hy : f.Writes y) (hz : f.Writes z)
    (heven : y.mantissa % 2 = 0) (heven' : z.mantissa % 2 = 0) (hless : y.toRat < z.toRat) :
    ∃ m, f.Writes m ∧ y.toRat < m.toRat ∧ m.toRat < z.toRat := by
  have hbetween : f.Writes ⟨y.mantissa + 1, y.exponent⟩ := by
    have htwice := two_pow_digits hdigits
    have hroom := hy.mantissa_lt
    refine ⟨?_, hy.least_le, hy.full.imp_right Nat.le_succ_of_le⟩
    show y.mantissa + 1 < 2 ^ f.digits
    omega
  have hnext : Dyadic.toRat ⟨y.mantissa + 1, y.exponent⟩ = y.toRat + 2 ^ y.exponent := by
    rw [Dyadic.toRat, Dyadic.toRat, Nat.cast_succ, add_one_mul]
  have hpower : (0 : ℚ) < 2 ^ y.exponent := zpow_pos two_pos _
  refine ⟨_, hbetween, by rw [hnext]; linarith, lt_of_le_of_ne ?_ fun heq => ?_⟩
  · have hexponent : y.exponent ≤ z.exponent := by
      by_contra hlower
      exact absurd hless (hz.lt_of_exponent_lt hdigits hy (not_le.1 hlower)).le.not_gt
    -- Both are multiples of the last digit of the smaller one.
    rw [hnext, z.toRat_eq_mul hexponent]
    rw [z.toRat_eq_mul hexponent, Dyadic.toRat, mul_lt_mul_iff_left₀ hpower, Nat.cast_lt] at hless
    have hcast := Nat.cast_le (α := ℚ).2 (Nat.succ_le_of_lt hless)
    rw [Nat.cast_succ] at hcast
    rw [Dyadic.toRat, ← add_one_mul]
    exact mul_le_mul_of_nonneg_right hcast hpower.le
  · have hodd := hbetween.eq_of_toRat_eq hdigits hz heq
    rw [← hodd] at heven'
    dsimp only at heven'
    omega

/-- Of two numbers that are both nearest neither can be smaller: both mantissas
    are even, and the number between them is nearer. -/
theorem IsNearest.le_of_isNearest (hdigits : 0 < f.digits) (hy : f.IsNearest r y)
    (hz : f.IsNearest r z) : y.toRat ≤ z.toRat := by
  by_contra hgreater
  have hless : z.toRat < y.toRat := not_le.1 hgreater
  have htie : |r - y.toRat| = |r - z.toRat| :=
    le_antisymm (hy.nearest z hz.writes) (hz.nearest y hy.writes)
  have hne : z ≠ y := fun heq => hless.ne (congrArg Dyadic.toRat heq)
  have heven : y.mantissa % 2 = 0 := (hy.even z hz.writes htie).resolve_left hne
  have heven' : z.mantissa % 2 = 0 := (hz.even y hy.writes htie.symm).resolve_left hne.symm
  obtain ⟨m, hm, hlow, hhigh⟩ :=
    hz.writes.exists_between hdigits hy.writes heven' heven hless
  have hlower := hz.nearest m hm
  have hupper := hy.nearest m hm
  rcases abs_cases (r - m.toRat) with ⟨hm, _⟩ | ⟨hm, _⟩ <;>
    rcases abs_cases (r - y.toRat) with ⟨hr, _⟩ | ⟨hr, _⟩ <;>
    rcases abs_cases (r - z.toRat) with ⟨hs, _⟩ | ⟨hs, _⟩ <;> linarith

/-- There is one nearest number only. -/
theorem IsNearest.unique (hdigits : 0 < f.digits) (hy : f.IsNearest r y) (hz : f.IsNearest r z) :
    y = z :=
  hy.writes.eq_of_toRat_eq hdigits hz.writes
    (le_antisymm (hy.le_of_isNearest hdigits hz) (hz.le_of_isNearest hdigits hy))

/-- The nearest number to a greater one is no smaller. Were it smaller, the two
    numbers would lie on the wrong sides of the middle. -/
theorem IsNearest.mono (hdigits : 0 < f.digits) (hy : f.IsNearest r y) (hz : f.IsNearest s z)
    (hle : r ≤ s) : y.toRat ≤ z.toRat := by
  obtain rfl | hless := hle.eq_or_lt
  · exact hy.le_of_isNearest hdigits hz
  · by_contra hgreater
    have hlower := hy.nearest z hz.writes
    have hupper := hz.nearest y hy.writes
    rcases abs_cases (r - y.toRat) with ⟨hry, _⟩ | ⟨hry, _⟩ <;>
      rcases abs_cases (r - z.toRat) with ⟨hrz, _⟩ | ⟨hrz, _⟩ <;>
      rcases abs_cases (s - y.toRat) with ⟨hsy, _⟩ | ⟨hsy, _⟩ <;>
      rcases abs_cases (s - z.toRat) with ⟨hsz, _⟩ | ⟨hsz, _⟩ <;> linarith

/-- A number that the format writes is its own rounding. -/
theorem Writes.isNearest (hdigits : 0 < f.digits) (hy : f.Writes y) : f.IsNearest y.toRat y where
  writes := hy
  nearest z _ := by
    rw [sub_self, abs_zero]
    exact abs_nonneg _
  even z hz htie := by
    rw [sub_self, abs_zero, eq_comm, abs_eq_zero, sub_eq_zero] at htie
    exact .inl (hz.eq_of_toRat_eq hdigits hy htie.symm)

/-- Rounding has one outcome, since the nearest number decides on which side of
    the limit it is. -/
theorem Rounds.unique (hdigits : 0 < f.digits) {x x' : Option Dyadic} (hx : f.Rounds r x)
    (hx' : f.Rounds r x') : x = x' := by
  cases hx with
  | within hy hbound =>
    cases hx' with
    | within hz _ => rw [hy.unique hdigits hz]
    | beyond hz hbound' =>
      rw [hy.unique hdigits hz] at hbound
      exact absurd hbound' hbound.not_ge
  | beyond hy hbound =>
    cases hx' with
    | within hz hbound' =>
      rw [hy.unique hdigits hz] at hbound
      exact absurd hbound hbound'.not_ge
    | beyond hz _ => rfl

end Format

/-- A quotient is rounded up if the remainder is more than half of the divisor,
    and at just a half if the whole quotient is odd. -/
theorem roundQuotient_eq (num den : Nat) :
    roundQuotient num den =
      if den < 2 * (num % den) ∨ 2 * (num % den) = den ∧ num / den % 2 = 1 then num / den + 1
      else num / den := by
  simp [roundQuotient]

/-- A quotient is at most a half away from the whole number that it is rounded
    to, and just a half only if that number is even. -/
theorem roundQuotient_near (num : Nat) {den : Nat} (hden : 0 < den) :
    |(num / den : ℚ) - roundQuotient num den| ≤ 1 / 2 ∧
      (|(num / den : ℚ) - roundQuotient num den| = 1 / 2 → roundQuotient num den % 2 = 0) := by
  have hpositive : (0 : ℚ) < den := Nat.cast_pos.2 hden
  have hrest : num % den < den := Nat.mod_lt num hden
  have hvalue : (num / den : ℚ) = (num / den : Nat) + (num % den : Nat) / (den : ℚ) := by
    rw [eq_comm, ← eq_sub_iff_add_eq', div_eq_iff hpositive.ne', sub_mul,
      div_mul_cancel₀ _ hpositive.ne', eq_sub_iff_add_eq]
    exact_mod_cast (Nat.mod_add_div' num den)
  have hnonneg : (0 : ℚ) ≤ (num % den : Nat) / (den : ℚ) := by positivity
  have hless : ((num % den : Nat) : ℚ) / den < 1 := by
    rw [div_lt_one hpositive]
    exact_mod_cast hrest
  rw [hvalue, roundQuotient_eq]
  split_ifs with hup
  · have hhalf : (1 : ℚ) / 2 ≤ (num % den : Nat) / (den : ℚ) := by
      rw [div_le_div_iff₀ two_pos hpositive]
      exact_mod_cast (by omega : 1 * den ≤ num % den * 2)
    push_cast
    rw [add_sub_add_left_eq_sub, abs_of_nonpos (by linarith)]
    refine ⟨by linarith, fun htie => ?_⟩
    have hequal : ((num % den : Nat) : ℚ) / den = 1 / 2 := by linarith
    rw [div_eq_div_iff hpositive.ne' two_ne_zero] at hequal
    have hcross : num % den * 2 = 1 * den := by exact_mod_cast hequal
    omega
  · have hhalf : ((num % den : Nat) : ℚ) / den ≤ 1 / 2 := by
      rw [div_le_div_iff₀ hpositive two_pos]
      exact_mod_cast (by omega : num % den * 2 ≤ 1 * den)
    rw [add_sub_cancel_left, abs_of_nonneg hnonneg]
    refine ⟨hhalf, fun hequal => ?_⟩
    rw [div_eq_div_iff hpositive.ne' two_ne_zero] at hequal
    have hcross : num % den * 2 = 1 * den := by exact_mod_cast hequal
    omega

/-- Scaling keeps the divisor positive, as it only multiplies by powers of two. -/
theorem scaleDown_pos {num den : Nat} (hden : 0 < den) (e : Int) : 0 < (scaleDown num den e).2 := by
  unfold scaleDown
  split_ifs
  · exact hden
  · exact Nat.mul_pos hden (Nat.two_pow_pos _)

/-- Scaling divides the quotient by a power of two: it multiplies the divisor,
    or for a negative exponent the dividend. -/
theorem scaleDown_div (num den : Nat) (e : Int) :
    ((scaleDown num den e).1 / (scaleDown num den e).2 : ℚ) = num / den / 2 ^ e := by
  unfold scaleDown
  split_ifs with hnegative
  · obtain ⟨k, rfl⟩ : ∃ k : Nat, e = -k := ⟨(-e).toNat, by omega⟩
    simp only [neg_neg, Int.toNat_natCast, Nat.pow_eq, Nat.cast_mul, Nat.cast_pow, Nat.cast_ofNat,
      zpow_neg, zpow_natCast, div_inv_eq_mul]
    ring
  · obtain ⟨k, rfl⟩ : ∃ k : Nat, e = k := ⟨e.toNat, by omega⟩
    simp only [Int.toNat_natCast, Nat.pow_eq, Nat.cast_mul, Nat.cast_pow, Nat.cast_ofNat,
      zpow_natCast, div_mul_eq_div_div]

/-- The length of a number in binary digits says between which powers of two it
    lies. -/
theorem two_pow_log2 {n : Nat} (hn : n ≠ 0) :
    (2 : ℚ) ^ (n.log2 : Int) ≤ n ∧ (n : ℚ) < 2 ^ ((n.log2 : Int) + 1) := by
  constructor
  · rw [zpow_natCast]
    exact_mod_cast Nat.log2_self_le hn
  · rw [← Nat.cast_succ, zpow_natCast]
    exact_mod_cast Nat.lt_log2_self

/-- The guess from the lengths of the two numbers is right or one too great, and
    one comparison tells which. -/
theorem two_pow_floorLog2 {num den : Nat} (hnum : num ≠ 0) (hden : 0 < den) :
    (2 : ℚ) ^ floorLog2 num den ≤ num / den ∧ (num / den : ℚ) < 2 ^ (floorLog2 num den + 1) := by
  have hpositive : (0 : ℚ) < den := Nat.cast_pos.2 hden
  obtain ⟨hlow, hhigh⟩ := two_pow_log2 hnum
  obtain ⟨hlow', hhigh'⟩ := two_pow_log2 hden.ne'
  set guess : Int := (num.log2 : Int) - den.log2 with hguess
  have hbelow : (2 : ℚ) ^ (guess - 1) ≤ num / den := by
    rw [le_div_iff₀ hpositive]
    calc (2 : ℚ) ^ (guess - 1) * den ≤ 2 ^ (guess - 1) * 2 ^ ((den.log2 : Int) + 1) :=
          mul_le_mul_of_nonneg_left hhigh'.le (zpow_nonneg zero_le_two _)
      _ = 2 ^ (num.log2 : Int) := by
          rw [← zpow_add₀ two_ne_zero]
          congr 1
          omega
      _ ≤ num := hlow
  have habove : (num / den : ℚ) < 2 ^ (guess + 1) := by
    rw [div_lt_iff₀ hpositive]
    calc (num : ℚ) < 2 ^ ((num.log2 : Int) + 1) := hhigh
      _ = 2 ^ (guess + 1) * 2 ^ (den.log2 : Int) := by
          rw [← zpow_add₀ two_ne_zero]
          congr 1
          omega
      _ ≤ 2 ^ (guess + 1) * den :=
          mul_le_mul_of_nonneg_left hlow' (zpow_nonneg zero_le_two _)
  have hreached : (scaleDown num den guess).1 < (scaleDown num den guess).2 ↔
      (num / den : ℚ) < 2 ^ guess := by
    have hscaled : (0 : ℚ) < (scaleDown num den guess).2 :=
      Nat.cast_pos.2 (scaleDown_pos hden guess)
    rw [← Nat.cast_lt (α := ℚ), ← div_lt_one hscaled, scaleDown_div,
      div_lt_one (zpow_pos two_pos _)]
  have hlog : floorLog2 num den =
      if (scaleDown num den guess).1 < (scaleDown num den guess).2 then guess - 1 else guess := rfl
  rw [hlog]
  split_ifs with hless
  · rw [sub_add_cancel]
    exact ⟨hbelow, hreached.1 hless⟩
  · exact ⟨not_lt.1 (mt hreached.2 hless), habove⟩

/-- A mantissa that has grown by a digit is halved. -/
def Dyadic.carry (digits mantissa : Nat) (exponent : Int) : Dyadic :=
  if mantissa == Nat.pow 2 digits then ⟨mantissa / 2, exponent + 1⟩ else ⟨mantissa, exponent⟩

/-- The mantissa that is halved is even, so the number stays the same. -/
theorem Dyadic.toRat_carry {digits : Nat} (hdigits : 0 < digits) (q : Nat) (e : Int) :
    (carry digits q e).toRat = q * 2 ^ e := by
  unfold carry
  split_ifs with hcarry
  · have heven : q / 2 * 2 = q := by
      rw [eq_of_beq hcarry, Nat.pow_eq]
      exact Nat.div_mul_cancel (dvd_pow_self 2 hdigits.ne')
    rw [Dyadic.toRat, zpow_add₀ two_ne_zero, zpow_one]
    calc ((q / 2 : Nat) : ℚ) * (2 ^ e * 2) = ((q / 2 * 2 : Nat) : ℚ) * 2 ^ e := by
          push_cast
          ring
      _ = q * 2 ^ e := by rw [heven]
  · rfl

/-- Different whole numbers cannot both be within a half of a number. -/
theorem half_le_of_ne {x : ℚ} {q k : Nat} (hnear : |x - q| ≤ 1 / 2) (hne : k ≠ q) :
    1 / 2 ≤ |x - k| := by
  have hapart : (1 : ℚ) ≤ |(k : ℚ) - q| := by
    have hwhole : (1 : Int) ≤ |(k : Int) - q| := Int.one_le_abs (by omega)
    exact_mod_cast hwhole
  have htriangle : |(k : ℚ) - q| ≤ |(k : ℚ) - x| + |x - q| := abs_sub_le _ _ _
  rw [abs_sub_comm (k : ℚ) x] at htriangle
  linarith

namespace Format

variable {f : Format} {r : ℚ} {z : Dyadic} {e : Int} {q : Nat}

/-- The distances to the points of a grid are measured in its steps. -/
theorem abs_sub_grid (r : ℚ) (e : Int) (k : Nat) :
    |r - k * 2 ^ e| = |r / 2 ^ e - k| * 2 ^ e := by
  have hunit : (0 : ℚ) < 2 ^ e := zpow_pos two_pos _
  rw [← abs_of_pos hunit, ← abs_mul, abs_of_pos hunit, sub_mul, div_mul_cancel₀ _ hunit.ne']

/-- No point of the grid is nearer than the one within half a step. -/
theorem abs_sub_le_grid (hnear : |r / 2 ^ e - q| ≤ 1 / 2) (k : Nat) :
    |r - q * 2 ^ e| ≤ |r - k * 2 ^ e| := by
  rw [abs_sub_grid, abs_sub_grid]
  refine mul_le_mul_of_nonneg_right ?_ (zpow_nonneg zero_le_two _)
  by_cases hsame : k = q
  · rw [hsame]
  · exact hnear.trans (half_le_of_ne hnear hsame)

/-- The whole number next to a quotient is a mantissa, or the number after the
    greatest one. It is full if the quotient is. -/
theorem mantissa_bounds (hbelow : r < 2 ^ f.digits * 2 ^ e)
    (habove : e = f.least ∨ 2 ^ (f.digits - 1) * 2 ^ e ≤ r) (hnear : |r / 2 ^ e - q| ≤ 1 / 2) :
    q ≤ 2 ^ f.digits ∧ (e = f.least ∨ 2 ^ (f.digits - 1) ≤ q) := by
  have hunit : (0 : ℚ) < 2 ^ e := zpow_pos two_pos _
  obtain ⟨hlow, hhigh⟩ := abs_le.1 hnear
  constructor
  · by_contra hgreat
    have hbound : r / 2 ^ e < 2 ^ f.digits := by rwa [div_lt_iff₀ hunit]
    have hcast : (2 : ℚ) ^ f.digits + 1 ≤ q := by exact_mod_cast not_le.1 hgreat
    linarith
  · refine habove.imp_right fun hlarge => ?_
    by_contra hsmall
    have hbound : 2 ^ (f.digits - 1) ≤ r / 2 ^ e := by rwa [le_div_iff₀ hunit]
    have hcast : (q : ℚ) + 1 ≤ 2 ^ (f.digits - 1) := by exact_mod_cast not_le.1 hsmall
    linarith

/-- The format writes such a number, halved if it has grown by a digit. -/
theorem writes_carry (hdigits : 0 < f.digits) (hleast : f.least ≤ e) (hq : q ≤ 2 ^ f.digits)
    (hfull : e = f.least ∨ 2 ^ (f.digits - 1) ≤ q) : f.Writes (Dyadic.carry f.digits q e) := by
  have htwice := two_pow_digits hdigits
  unfold Dyadic.carry
  split_ifs with hcarry
  · have hlast : q = 2 ^ f.digits := eq_of_beq hcarry
    have hhalf : q / 2 = 2 ^ (f.digits - 1) := by omega
    refine ⟨?_, by show f.least ≤ e + 1; omega, .inr hhalf.ge⟩
    show q / 2 < 2 ^ f.digits
    have := Nat.two_pow_pos (f.digits - 1)
    omega
  · have hlast : q ≠ 2 ^ f.digits := ne_of_beq_false (Bool.eq_false_iff.2 hcarry)
    exact ⟨lt_of_le_of_ne hq hlast, hleast, hfull⟩

/-- Halving keeps the mantissa even, as a format has more digits than one. -/
theorem mantissa_carry_even (hdigits : 1 < f.digits) (heven : q % 2 = 0) :
    (Dyadic.carry f.digits q e).mantissa % 2 = 0 := by
  unfold Dyadic.carry
  split_ifs with hcarry
  · have hlast : q = 2 ^ f.digits := eq_of_beq hcarry
    have htwice := two_pow_digits (Nat.zero_lt_of_lt hdigits)
    have hfour : 2 ^ (f.digits - 1) = 2 * 2 ^ (f.digits - 2) := by
      rw [← Nat.pow_succ', Nat.succ_eq_add_one]
      congr 1
      omega
    show q / 2 % 2 = 0
    omega
  · exact heven

/-- A number of the format is on the grid, or smaller than the point of the grid
    below `r` that has the first full mantissa, and so farther from `r`. -/
theorem on_grid_or_farther (hdigits : 0 < f.digits)
    (habove : e = f.least ∨ 2 ^ (f.digits - 1) * 2 ^ e ≤ r) (hnear : |r / 2 ^ e - q| ≤ 1 / 2)
    (hz : f.Writes z) :
    (∃ k : Nat, z.toRat = k * 2 ^ e) ∨ |r - q * 2 ^ e| < |r - z.toRat| := by
  by_cases hexponent : e ≤ z.exponent
  · exact .inl ⟨_, z.toRat_eq_mul hexponent⟩
  · refine .inr ?_
    have hlower : z.exponent < e := not_le.1 hexponent
    have hlarge := habove.resolve_left (hz.least_le.trans_lt hlower).ne'
    have hsmall := toRat_lt_of_exponent_lt hdigits hz.mantissa_lt hlower
    refine (abs_sub_le_grid hnear (2 ^ (f.digits - 1))).trans_lt ?_
    push_cast
    rw [abs_of_nonneg (by linarith), abs_of_nonneg (by linarith)]
    linarith

/-- On the grid of the last digit of the format the nearest point is the whole
    number `q` of steps. Numbers of the format that are not on the grid are too
    small to be as near, because the full mantissa is on it. -/
theorem isNearest_carry (hdigits : 1 < f.digits) (hleast : f.least ≤ e)
    (hbelow : r < 2 ^ f.digits * 2 ^ e) (habove : e = f.least ∨ 2 ^ (f.digits - 1) * 2 ^ e ≤ r)
    (hnear : |r / 2 ^ e - q| ≤ 1 / 2) (heven : |r / 2 ^ e - q| = 1 / 2 → q % 2 = 0) :
    f.IsNearest r (Dyadic.carry f.digits q e) := by
  have hpositive : 0 < f.digits := Nat.zero_lt_of_lt hdigits
  obtain ⟨hq, hfull⟩ := mantissa_bounds hbelow habove hnear
  have hwrites := writes_carry hpositive hleast hq hfull
  refine ⟨hwrites, fun z hz => ?_, fun z hz htie => ?_⟩
  · rw [Dyadic.toRat_carry hpositive]
    obtain ⟨k, hk⟩ | hfar := on_grid_or_farther hpositive habove hnear hz
    · rw [hk]
      exact abs_sub_le_grid hnear k
    · exact hfar.le
  · rw [Dyadic.toRat_carry hpositive] at htie
    obtain ⟨k, hk⟩ | hfar := on_grid_or_farther hpositive habove hnear hz
    · by_cases hsame : k = q
      · refine .inl (hz.eq_of_toRat_eq hpositive hwrites ?_)
        rw [hk, hsame, Dyadic.toRat_carry hpositive]
      · -- Another point is as near only from the middle between the two.
        rw [hk, abs_sub_grid, abs_sub_grid] at htie
        have hequal := mul_right_cancel₀ (zpow_pos two_pos _).ne' htie
        have hhalf := half_le_of_ne hnear hsame
        exact .inr (mantissa_carry_even hdigits (heven (le_antisymm hnear (by rwa [hequal]))))
    · exact absurd htie hfar.ne

/-- Rounding a quotient finds the nearest number that the format writes, unless
    it lies beyond the limit. -/
theorem exists_isNearest_round (hdigits : 1 < f.digits) (num : Nat) {den : Nat} (hden : 0 < den) :
    ∃ y, f.IsNearest (num / den) y ∧
      f.round num den = if 2 ^ f.limit ≤ y.toRat then none else some y := by
  have hpositive : 0 < f.digits := Nat.zero_lt_of_lt hdigits
  obtain rfl | hnum := Nat.eq_zero_or_pos num
  · have hzero : f.Writes ⟨0, f.least⟩ := ⟨Nat.two_pow_pos _, le_rfl, .inl rfl⟩
    have hvalue : Dyadic.toRat ⟨0, f.least⟩ = 0 := by simp [Dyadic.toRat]
    refine ⟨_, by simpa [hvalue] using hzero.isNearest hpositive, ?_⟩
    rw [hvalue, if_neg (not_le.2 (pow_pos two_pos _))]
    rfl
  · set e := max f.least (floorLog2 num den - (f.digits - 1 : Nat)) with he
    set q := roundQuotient (scaleDown num den e).1 (scaleDown num den e).2 with hq
    obtain ⟨hlow, hhigh⟩ := two_pow_floorLog2 hnum.ne' hden
    obtain ⟨hnear, heven⟩ := roundQuotient_near (scaleDown num den e).1 (scaleDown_pos hden e)
    rw [scaleDown_div, ← hq] at hnear heven
    have hbelow : (num / den : ℚ) < 2 ^ f.digits * 2 ^ e := by
      rw [← zpow_natCast, ← zpow_add₀ two_ne_zero]
      exact hhigh.trans_le (zpow_le_zpow_right₀ one_le_two (by omega))
    have habove : e = f.least ∨ (2 : ℚ) ^ (f.digits - 1) * 2 ^ e ≤ num / den := by
      refine or_iff_not_imp_left.2 fun hne => ?_
      rw [← zpow_natCast, ← zpow_add₀ two_ne_zero]
      exact (zpow_le_zpow_right₀ one_le_two (by omega)).trans hlow
    refine ⟨Dyadic.carry f.digits q e,
      isNearest_carry hdigits (le_max_left _ _) hbelow habove hnear heven, ?_⟩
    have hround : f.round num den =
        if ((Dyadic.carry f.digits q e).mantissa ≠ 0 && f.limit ≤
            ((Dyadic.carry f.digits q e).mantissa.log2 : Int) +
              (Dyadic.carry f.digits q e).exponent) = true then none
        else some (Dyadic.carry f.digits q e) := by
      unfold round
      rw [if_neg (by simp [hnum.ne', hden.ne'])]
      rfl
    rw [hround]
    simp only [Bool.and_eq_true, decide_eq_true_eq, Dyadic.two_pow_le_toRat_iff]

/-- Rounding a quotient into a format is rounding the number that it stands for.
    That both have one outcome makes an equivalence of it. -/
theorem round_eq_iff (hdigits : 1 < f.digits) (num : Nat) {den : Nat} (hden : 0 < den)
    (x : Option Dyadic) : f.round num den = x ↔ f.Rounds (num / den) x := by
  obtain ⟨y, hnearest, hround⟩ := exists_isNearest_round hdigits num hden
  have hrounds : f.Rounds (num / den) (f.round num den) := by
    rw [hround]
    split_ifs with hbound
    · exact .beyond hnearest hbound
    · exact .within hnearest (not_le.1 hbound)
  constructor
  · rintro rfl
    exact hrounds
  · exact hrounds.unique (Nat.zero_lt_of_lt hdigits)

end Format

end Interlock.Number
