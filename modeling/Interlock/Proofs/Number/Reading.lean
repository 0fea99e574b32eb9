import Interlock.Number.Single
import Interlock.Proofs.Number.Nearest

namespace Interlock.Number

/-- As many leading digits as a word of 64 bits holds behind the number `start`,
    and the digits that are left out: with the first of these the number would
    not fit any more. -/
structure FillsWord (start : Nat) (digits kept left : List Char) : Prop where
  split : digits = kept ++ left
  fits : Nat.ofDigitChars 10 kept start < 2 ^ 64
  longest : ∀ c ∈ left.head?, 2 ^ 64 ≤ Nat.ofDigitChars 10 (kept ++ [c]) start

/-- The power of ten that an exponent names. -/
inductive NamesPower : Option (Bool × List Char) → Int → Prop where
  | none : NamesPower none 0
  | positive (digits : List Char) :
      NamesPower (some (false, digits)) (Nat.ofDigitChars 10 digits 0)
  | negative (digits : List Char) :
      NamesPower (some (true, digits)) (-(Nat.ofDigitChars 10 digits 0 : Nat))

/-- A numeral as `digits * 10 ^ scale`, with no more digits than fit a word of
    64 bits. A digit of the whole part that is left out counts ten times, and
    one of the fraction that is kept a tenth; a fraction goes on where the whole
    part has stopped, even if digits have been left out there. -/
inductive Scales : Numeral → Nat → Int → Prop where
  | parts {negative : Bool} {whole fraction whole' fraction' left left' : List Char}
      {exponent : Option (Bool × List Char)} {power : Int}
      (kept : FillsWord 0 whole whole' left)
      (kept' : FillsWord (Nat.ofDigitChars 10 whole' 0) fraction fraction' left')
      (names : NamesPower exponent power) :
      Scales ⟨negative, whole, fraction, exponent⟩ (Nat.ofDigitChars 10 (whole' ++ fraction') 0)
        (left.length - fraction'.length + power)

/-- The number that stands for `digits * 10 ^ scale` when it is computed in
    double precision: the digits and the power of ten are rounded, and then
    their product or quotient. If the power is out of range there is no product,
    unless the digits are zero, and the quotient is not rounded. -/
inductive Computes (digits : Nat) : Int → ℚ → Prop where
  | product {power : Nat} {d p y : Dyadic} (nonzero : digits ≠ 0)
      (digits_rounds : Format.double.Rounds digits (some d))
      (power_rounds : Format.double.Rounds (10 ^ power) (some p))
      (rounds : Format.double.Rounds (d.toRat * p.toRat) (some y)) :
      Computes digits power y.toRat
  | quotient {power : Nat} {d p y : Dyadic} (nonzero : digits ≠ 0) (positive : 0 < power)
      (digits_rounds : Format.double.Rounds digits (some d))
      (power_rounds : Format.double.Rounds (10 ^ power) (some p))
      (rounds : Format.double.Rounds (d.toRat / p.toRat) (some y)) :
      Computes digits (-(power : Int)) y.toRat
  | small {power : Nat} (beyond : Format.double.Rounds (10 ^ power) none) :
      Computes digits (-(power : Int)) (digits / 10 ^ power)
  | zero {scale : Int} (zero : digits = 0) : Computes digits scale 0

/-- A whole numeral that a word of 64 bits holds: without a sign any number of
    64 bits, with a sign the negation of a positive number of 63 bits, or of the
    one after them. -/
def Numeral.IsWord (n : Numeral) : Prop :=
  n.fraction = [] ∧ n.exponent = none ∧
    if n.negative then 0 < Nat.ofDigitChars 10 n.whole 0 ∧ Nat.ofDigitChars 10 n.whole 0 ≤ 2 ^ 63
    else Nat.ofDigitChars 10 n.whole 0 < 2 ^ 64

/-- The single-precision value that a numeral is read as. The number that a word
    holds is rounded to the nearest value, and every other numeral is computed
    in double precision before it is. -/
inductive Numeral.Reads (n : Numeral) : Single → Prop where
  | word {x : Single} (isWord : n.IsWord) (sign : x.negative = n.negative)
      (rounds : Format.single.Rounds (Nat.ofDigitChars 10 n.whole 0) x.magnitude) : n.Reads x
  | computed {x : Single} {digits : Nat} {scale : Int} {value : ℚ} (notWord : ¬n.IsWord)
      (sign : x.negative = n.negative) (scales : Scales n digits scale)
      (computes : Computes digits scale value) (rounds : Format.single.Rounds value x.magnitude) :
      n.Reads x

/-- Further digits do not make a number smaller. -/
theorem le_ofDigitChars (start : Nat) (cs : List Char) : start ≤ Nat.ofDigitChars 10 cs start := by
  induction cs generalizing start with
  | nil => exact le_rfl
  | cons c cs ih =>
    rw [Nat.ofDigitChars_cons]
    exact (by omega : start ≤ 10 * start + (c.toNat - '0'.toNat)).trans (ih _)

namespace FillsWord

variable {start : Nat} {digits kept left : List Char}

/-- Some digits fill the word, if only none of them. The induction goes on with
    the number that the first digit makes, as long as that fits. -/
theorem exists_of_lt (hstart : start < 2 ^ 64) (digits : List Char) :
    ∃ kept left, FillsWord start digits kept left := by
  induction digits generalizing start with
  | nil => exact ⟨[], [], rfl, hstart, nofun⟩
  | cons c digits ih =>
    by_cases hfits : 10 * start + (c.toNat - '0'.toNat) < 2 ^ 64
    · obtain ⟨kept, left, rfl, hkept, hlongest⟩ := ih hfits
      exact ⟨c :: kept, left, rfl, hkept, hlongest⟩
    · refine ⟨[], c :: digits, rfl, hstart, fun d hd => ?_⟩
      obtain rfl := Option.some.inj hd
      exact not_lt.1 hfits

/-- Absorbing digits stops at the first one that does not fit, and counts it
    with all that follow. It keeps the digits that fill the word, because a
    longer number does not fit either. -/
theorem absorb_eq (hfills : FillsWord start digits kept left) :
    Single.absorb start digits = (Nat.ofDigitChars 10 kept start, left.length) := by
  obtain ⟨rfl, hfits, hlongest⟩ := hfills
  induction kept generalizing start with
  | nil =>
    cases left with
    | nil => rfl
    | cons c left =>
      have hfull : 2 ^ 64 ≤ 10 * start + (c.toNat - '0'.toNat) := hlongest c rfl
      exact if_neg fun hroom => absurd (Nat.lt_succ_of_le hroom) hfull.not_gt
  | cons c kept ih =>
    have hroom : 10 * start + (c.toNat - '0'.toNat) ≤ Word.greatest64 :=
      Nat.le_of_lt_succ ((le_ofDigitChars _ kept).trans_lt hfits)
    exact (if_pos hroom).trans (ih hfits hlongest)

end FillsWord

theorem NamesPower.exponentValue_eq {n : Numeral} {power : Int}
    (hnames : NamesPower n.exponent power) : n.exponentValue = power := by
  unfold Numeral.exponentValue
  generalize n.exponent = exponent at hnames
  cases hnames <;> rfl

/-- Every exponent names a power, and a missing one names the power zero. -/
theorem exists_namesPower (exponent : Option (Bool × List Char)) :
    ∃ power, NamesPower exponent power := by
  match exponent with
  | none => exact ⟨0, .none⟩
  | some (false, digits) => exact ⟨_, .positive digits⟩
  | some (true, digits) => exact ⟨_, .negative digits⟩

namespace Scales

variable {n : Numeral} {digits : Nat} {scale : Int}

/-- The digits and the scale that a numeral is split into are those that are
    computed from it. -/
theorem significand_eq (hscales : Scales n digits scale) :
    Single.significand n = (digits, scale) := by
  cases hscales with
  | @parts negative whole fraction whole' fraction' left left' exponent power hkept hkept' hnames =>
    have hread : fraction.length - left'.length = fraction'.length := by
      rw [hkept'.split, List.length_append, Nat.add_sub_cancel]
    have hpower : Numeral.exponentValue ⟨negative, whole, fraction, exponent⟩ = power :=
      hnames.exponentValue_eq
    unfold Single.significand
    dsimp only
    rw [hkept.absorb_eq]
    dsimp only
    rw [hkept'.absorb_eq, hpower, hread, Nat.ofDigitChars_append]

/-- The digits of a numeral fit a word of 64 bits, since both parts stop in
    time. -/
theorem digits_lt (hscales : Scales n digits scale) : digits < 2 ^ 64 := by
  cases hscales with
  | parts hkept hkept' hnames =>
    rw [Nat.ofDigitChars_append]
    exact hkept'.fits

end Scales

/-- Every numeral can be split into digits and a scale. -/
theorem exists_scales (n : Numeral) : ∃ digits scale, Scales n digits scale := by
  obtain ⟨negative, whole, fraction, exponent⟩ := n
  obtain ⟨whole', left, hkept⟩ := FillsWord.exists_of_lt (Nat.two_pow_pos 64) whole
  obtain ⟨fraction', left', hkept'⟩ := FillsWord.exists_of_lt hkept.fits fraction
  obtain ⟨power, hnames⟩ := exists_namesPower exponent
  exact ⟨_, _, .parts hkept hkept' hnames⟩

/-- The test for a word holds of the numerals that a word holds. Both ask for a
    whole number without an exponent, within a bound that depends on the sign. -/
theorem Numeral.fitsWord_iff (n : Numeral) : Single.fitsWord n = true ↔ n.IsWord := by
  unfold Single.fitsWord isWhole IsWord
  rw [Bool.and_eq_true, Bool.and_eq_true, List.isEmpty_iff, Option.isNone_iff_eq_none, and_assoc]
  refine and_congr_right fun _ => and_congr_right fun _ => ?_
  split_ifs
  · rw [Bool.and_eq_true, decide_eq_true_iff, decide_eq_true_iff]
    exact Iff.rfl
  · rw [decide_eq_true_iff]
    exact Nat.lt_succ_iff.symm

namespace Format

variable {f : Format} {r : ℚ}

/-- A product in a format is the product of the numbers, rounded once. -/
theorem mul_eq_iff (hdigits : 1 < f.digits) (x y : Dyadic) (z : Option Dyadic) :
    f.mul x y = z ↔ f.Rounds (x.toRat * y.toRat) z := by
  have hvalue : x.toRat * y.toRat =
      (x.mantissa * y.mantissa : Nat) / (1 : Nat) / 2 ^ (-(x.exponent + y.exponent)) := by
    rw [Dyadic.toRat, Dyadic.toRat, zpow_neg, div_inv_eq_mul, zpow_add₀ two_ne_zero]
    push_cast
    ring
  rw [hvalue, ← scaleDown_div]
  exact round_eq_iff hdigits _ (scaleDown_pos one_pos _) z

/-- A quotient in a format is the quotient of the numbers, rounded once. -/
theorem div_eq_iff (hdigits : 1 < f.digits) (x : Dyadic) {y : Dyadic} (hy : 0 < y.mantissa)
    (z : Option Dyadic) : f.div x y = z ↔ f.Rounds (x.toRat / y.toRat) z := by
  have hvalue : x.toRat / y.toRat =
      x.mantissa / y.mantissa / 2 ^ (y.exponent - x.exponent) := by
    have hx : (2 : ℚ) ^ x.exponent ≠ 0 := (zpow_pos two_pos _).ne'
    have hy : (2 : ℚ) ^ y.exponent ≠ 0 := (zpow_pos two_pos _).ne'
    rw [Dyadic.toRat, Dyadic.toRat, zpow_sub₀ two_ne_zero, div_div_eq_mul_div,
      div_mul_eq_mul_div, div_div]
  rw [hvalue, ← scaleDown_div]
  exact round_eq_iff hdigits _ (scaleDown_pos hy _) z

/-- Less than half of the least number that a format writes is rounded to zero,
    which is even. -/
theorem rounds_zero (hdigits : 1 < f.digits) (hr : 0 ≤ r) (hsmall : 2 * r < 2 ^ f.least) :
    f.Rounds r (some ⟨0, f.least⟩) := by
  have hunit : (0 : ℚ) < 2 ^ f.least := zpow_pos two_pos _
  have hhalf : r / 2 ^ f.least < 1 / 2 := by
    rw [div_lt_div_iff₀ hunit two_pos]
    linarith
  have hless : r < 2 ^ f.digits * 2 ^ f.least := by
    have hpower : (1 : ℚ) ≤ 2 ^ f.digits := one_le_pow₀ one_le_two
    have hgrown := mul_le_mul_of_nonneg_right hpower hunit.le
    linarith
  have hdistance : |r / 2 ^ f.least - (0 : Nat)| = r / 2 ^ f.least := by
    rw [Nat.cast_zero, sub_zero, abs_of_nonneg (div_nonneg hr hunit.le)]
  have hcarry : Dyadic.carry f.digits 0 f.least = ⟨0, f.least⟩ := by
    refine if_neg fun hfull => ?_
    exact (Nat.two_pow_pos f.digits).ne (eq_of_beq hfull)
  have hnearest : f.IsNearest r ⟨0, f.least⟩ := by
    rw [← hcarry]
    refine isNearest_carry hdigits le_rfl hless (.inl rfl) ?_ fun _ => rfl
    rw [hdistance]
    exact hhalf.le
  refine .within hnearest ?_
  rw [Dyadic.toRat, Nat.cast_zero, zero_mul]
  exact pow_pos two_pos _

/-- The greatest number below the limit of double precision, and the limit, lie
    between the 308th power of ten and the 309th. -/
theorem power_bounds :
    10 ^ 308 ≤ (2 ^ 53 - 1) * 2 ^ 971 ∧ (2 ^ 53 - 1) * 2 ^ 971 < 2 ^ 52 * 2 ^ 972 ∧
      2 ^ 52 * 2 ^ 972 ≤ 10 ^ 309 := by
  decide +kernel

theorem toRat_double {mantissa exponent : Nat} :
    Dyadic.toRat ⟨mantissa, exponent⟩ = (mantissa * 2 ^ exponent : Nat) := by
  rw [Dyadic.toRat, zpow_natCast, Nat.cast_mul, Nat.cast_pow, Nat.cast_ofNat]

/-- A power of ten is out of the range of double precision exactly from the
    309th on. The greatest number of the format is at least the 308th power, and
    the next one after it is at most the 309th, which settles both sides by the
    order of rounding. -/
theorem rounds_power_none_iff (power : Nat) : double.Rounds (10 ^ power) none ↔ 308 < power := by
  obtain ⟨hlow, hgreatest, hhigh⟩ := power_bounds
  have hten : ((10 ^ power : Nat) : ℚ) = 10 ^ power := by rw [Nat.cast_pow, Nat.cast_ofNat]
  have hlimit : ((2 ^ 52 * 2 ^ 972 : Nat) : ℚ) = 2 ^ double.limit := by
    rw [Nat.cast_mul, Nat.cast_pow, Nat.cast_pow, Nat.cast_ofNat, ← pow_add]
    rfl
  rw [← hten]
  constructor
  · intro hbeyond
    by_contra hpower
    have hwrites : double.Writes ⟨2 ^ 53 - 1, (971 : Nat)⟩ :=
      ⟨by decide, by decide, .inr (by decide)⟩
    have hbelow : 10 ^ power ≤ (2 ^ 53 - 1) * 2 ^ 971 :=
      hlow.trans' (pow_le_pow_right₀ Nat.one_le_ofNat (not_lt.1 hpower))
    cases hbeyond with
    | beyond hy hbound =>
      have hle := hy.mono (by decide) (hwrites.isNearest (by decide))
        ((Nat.cast_le.2 hbelow).trans_eq toRat_double.symm)
      rw [toRat_double] at hle
      exact absurd (Nat.cast_le.1 ((hlimit.trans_le hbound).trans hle)) hgreatest.not_ge
  · intro hpower
    obtain ⟨y, hy, -⟩ := exists_isNearest_round (f := double) (by decide) (10 ^ power) one_pos
    rw [Nat.cast_one, div_one] at hy
    have hwrites : double.Writes ⟨2 ^ 52, (972 : Nat)⟩ := ⟨by decide, by decide, .inr (by decide)⟩
    have hgrown : 10 ^ 309 ≤ 10 ^ power := pow_le_pow_right₀ Nat.one_le_ofNat hpower
    have habove : 2 ^ 52 * 2 ^ 972 ≤ 10 ^ power := hhigh.trans hgrown
    have hle := (hwrites.isNearest (by decide)).mono (by decide) hy (by
      rw [toRat_double]
      exact Nat.cast_le.2 habove)
    rw [toRat_double, hlimit] at hle
    exact .beyond hy hle

theorem rounds_nat_iff (hdigits : 1 < f.digits) (n : Nat) (x : Option Dyadic) :
    f.round n 1 = x ↔ f.Rounds n x := by
  have hround := round_eq_iff hdigits n one_pos x
  rwa [Nat.cast_one, div_one] at hround

end Format

namespace Single

open Format

/-- A double-precision number is rounded to single precision by its magnitude. -/
theorem narrow_magnitude_eq_iff (negative : Bool) (y : Dyadic) (x : Option Dyadic) :
    (narrow negative y).magnitude = x ↔ single.Rounds y.toRat x := by
  have hvalue : y.toRat = y.mantissa / (1 : Nat) / 2 ^ (-y.exponent) := by
    rw [Dyadic.toRat, zpow_neg, div_inv_eq_mul, Nat.cast_one, div_one]
  rw [hvalue, ← scaleDown_div]
  exact round_eq_iff (by decide) _ (scaleDown_pos one_pos _) x

theorem scaled_eq (digits : Nat) (scale : Int) :
    scaled digits scale =
      if digits = 0 ∨ scale < -308 then some ⟨0, 0⟩
      else (double.round digits 1).bind fun d =>
        if scale < 0 then (double.round (10 ^ (-scale).toNat) 1).bind (double.div d)
        else if scale ≤ 308 then (double.round (10 ^ scale.toNat) 1).bind (double.mul d)
        else none := by
  unfold scaled
  simp only [Bool.or_eq_true, beq_iff_eq, decide_eq_true_eq]
  rfl

/-- A power of ten in the range of double precision is rounded to a positive
    number, since one is in the format. -/
theorem mantissa_pos_of_rounds {power : Nat} {p : Dyadic}
    (hp : double.Rounds (10 ^ power) (some p)) : 0 < p.mantissa := by
  have hone : double.Writes ⟨2 ^ 52, -52⟩ := ⟨by decide, by decide, .inr (by decide)⟩
  have hvalue : Dyadic.toRat ⟨2 ^ 52, -52⟩ = 1 := by
    rw [Dyadic.toRat, Nat.cast_pow, Nat.cast_ofNat, ← zpow_natCast, ← zpow_add₀ two_ne_zero]
    rfl
  cases hp with
  | within hnearest _ =>
    have hle := (hone.isNearest (by decide)).mono (by decide) hnearest
      (hvalue.trans_le (one_le_pow₀ (by norm_num)))
    refine Nat.pos_of_ne_zero fun hzero => ?_
    rw [hvalue, Dyadic.toRat, hzero, Nat.cast_zero, zero_mul] at hle
    exact absurd one_pos hle.not_gt

end Single

namespace Computes

open Format Single

variable {digits : Nat} {scale : Int} {value : ℚ}

theorem power_le {power : Nat} {p : Dyadic} (hp : double.Rounds (10 ^ power) (some p)) :
    power ≤ 308 := by
  by_contra hbeyond
  have hnone := (rounds_power_none_iff power).2 (not_le.1 hbeyond)
  cases hp.unique (by decide) hnone

theorem round_power_eq_iff (power : Nat) (x : Option Dyadic) :
    double.round (10 ^ power) 1 = x ↔ double.Rounds (10 ^ power) x := by
  rw [rounds_nat_iff (by decide), Nat.cast_pow, Nat.cast_ofNat]

/-- Single precision rounds a quotient by a power out of range as it rounds zero:
    the digits fit a word, so that the quotient is less than half of the least
    number of the format. -/
theorem rounds_small_iff {power : Nat} (hpower : 308 < power) (hdigits : digits < 2 ^ 64)
    (x : Option Dyadic) : single.Rounds (digits / 10 ^ power) x ↔ single.Rounds 0 x := by
  have hten : (0 : ℚ) < 10 ^ power := by positivity
  have htiny : 2 * (digits / 10 ^ power : ℚ) < 2 ^ single.least := by
    have hwhole : 2 * digits * 2 ^ 149 < 10 ^ power := by
      calc 2 * digits * 2 ^ 149 < 10 ^ 308 := by omega
        _ ≤ 10 ^ power := Nat.pow_le_pow_right (by decide) hpower.le
    have hleast : (2 : ℚ) ^ single.least = 1 / 2 ^ 149 := by
      rw [one_div, ← zpow_natCast, ← zpow_neg]
      rfl
    rw [hleast, ← mul_div_assoc, div_lt_div_iff₀ hten (by positivity), one_mul]
    exact_mod_cast hwhole
  have hsmall : single.Rounds (digits / 10 ^ power) (some ⟨0, single.least⟩) :=
    rounds_zero (by decide) (div_nonneg digits.cast_nonneg hten.le) htiny
  have hzero : single.Rounds 0 (some ⟨0, single.least⟩) :=
    rounds_zero (by decide) le_rfl (by rw [mul_zero]; exact zpow_pos two_pos _)
  constructor
  · intro hx
    rwa [hx.unique (by decide) hsmall]
  · intro hx
    rwa [hx.unique (by decide) hzero]

/-- What is computed is found, or at least a number that is rounded alike. The
    two differ only where the power of a quotient is out of range: the number
    found is then zero, and the quotient is so small that single precision
    rounds it to zero as well. -/
theorem exists_scaled (hcomputes : Computes digits scale value) (hdigits : digits < 2 ^ 64) :
    ∃ y, scaled digits scale = some y ∧
      ∀ x, single.Rounds value x ↔ single.Rounds y.toRat x := by
  have hvalue : Dyadic.toRat ⟨0, 0⟩ = 0 := by simp [Dyadic.toRat]
  cases hcomputes with
  | @product power d p y hne hd hp hy =>
    refine ⟨y, ?_, fun x => Iff.rfl⟩
    have hrange := power_le hp
    rw [scaled_eq, if_neg (by omega), (rounds_nat_iff (by decide) digits _).2 hd,
      Option.bind_some, if_neg (by omega), if_pos (by omega), Int.toNat_natCast,
      (round_power_eq_iff power _).2 hp, Option.bind_some]
    exact (mul_eq_iff (by decide) d p _).2 hy
  | @quotient power d p y hne hpositive hd hp hy =>
    refine ⟨y, ?_, fun x => Iff.rfl⟩
    have hrange := power_le hp
    rw [scaled_eq, if_neg (by omega), (rounds_nat_iff (by decide) digits _).2 hd,
      Option.bind_some, if_pos (by omega), neg_neg, Int.toNat_natCast,
      (round_power_eq_iff power _).2 hp, Option.bind_some]
    exact (div_eq_iff (by decide) d (mantissa_pos_of_rounds hp) _).2 hy
  | @small power hbeyond =>
    have hpower := (rounds_power_none_iff power).1 hbeyond
    refine ⟨⟨0, 0⟩, by rw [scaled_eq, if_pos (.inr (by omega))], fun x => ?_⟩
    rw [hvalue]
    exact rounds_small_iff hpower hdigits x
  | zero hzero =>
    exact ⟨⟨0, 0⟩, by rw [scaled_eq, if_pos (.inl hzero)], fun x => by rw [hvalue]⟩

/-- Whatever is found has been computed, by the steps that found it. -/
theorem exists_of_scaled {y : Dyadic} (hscaled : scaled digits scale = some y) :
    ∃ value, Computes digits scale value := by
  by_cases hzero : digits = 0
  · exact ⟨0, .zero hzero⟩
  rw [scaled_eq] at hscaled
  obtain hnegative | hpositive := lt_or_ge scale 0
  · obtain ⟨power, hpower, rfl⟩ : ∃ power : Nat, 0 < power ∧ scale = -power :=
      ⟨(-scale).toNat, by omega, by omega⟩
    cases hround : double.round (10 ^ power) 1 with
    | none => exact ⟨_, .small ((round_power_eq_iff power _).1 hround)⟩
    | some p =>
      have hp := (round_power_eq_iff power _).1 hround
      have hrange := power_le hp
      rw [if_neg (by omega), Option.bind_eq_some_iff] at hscaled
      obtain ⟨d, hd, hy⟩ := hscaled
      rw [if_pos hnegative, neg_neg, Int.toNat_natCast, hround, Option.bind_some] at hy
      exact ⟨_, .quotient hzero hpower ((rounds_nat_iff (by decide) digits _).1 hd) hp
        ((div_eq_iff (by decide) d (mantissa_pos_of_rounds hp) _).1 hy)⟩
  · obtain ⟨power, rfl⟩ : ∃ power : Nat, scale = power := ⟨scale.toNat, by omega⟩
    rw [if_neg (by omega), Option.bind_eq_some_iff] at hscaled
    obtain ⟨d, hd, hscaled⟩ := hscaled
    rw [if_neg (not_lt.2 hpositive), Option.ite_none_right_eq_some, Int.toNat_natCast,
      Option.bind_eq_some_iff] at hscaled
    obtain ⟨-, p, hp, hy⟩ := hscaled
    exact ⟨_, .product hzero ((rounds_nat_iff (by decide) digits _).1 hd)
      ((round_power_eq_iff power _).1 hp) ((mul_eq_iff (by decide) d p _).1 hy)⟩

end Computes

namespace Numeral

open Single

/-- The reader finds the value that a numeral is read as. -/
theorem Reads.ofNumeral?_eq {n : Numeral} {x : Single} (hreads : n.Reads x) :
    ofNumeral? n = some x := by
  obtain ⟨negative, magnitude⟩ := x
  cases hreads with
  | word hword hsign hrounds =>
    obtain rfl : negative = n.negative := hsign
    obtain rfl := (Format.rounds_nat_iff (by decide) n.magnitude magnitude).2 hrounds
    exact if_pos ((fitsWord_iff n).2 hword)
  | computed hword hsign hscales hcomputes hrounds =>
    obtain rfl : negative = n.negative := hsign
    obtain ⟨y, hscaled, hsame⟩ := hcomputes.exists_scaled hscales.digits_lt
    obtain rfl := (narrow_magnitude_eq_iff n.negative y magnitude).2 ((hsame magnitude).1 hrounds)
    rw [ofNumeral?, if_neg (mt (fitsWord_iff n).1 hword), hscales.significand_eq]
    exact congrArg (Option.map (narrow n.negative)) hscaled

/-- Whatever the reader finds, the numeral is read as some value. That it is the
    same one follows, since the reader finds it too. -/
theorem exists_reads {n : Numeral} {x : Single} (hread : ofNumeral? n = some x) :
    ∃ x', n.Reads x' := by
  by_cases hword : n.IsWord
  · have hrounds := (Format.rounds_nat_iff (f := .single) (by decide) n.magnitude _).1 rfl
    exact ⟨⟨n.negative, _⟩, .word hword rfl hrounds⟩
  · obtain ⟨digits, scale, hscales⟩ := exists_scales n
    rw [ofNumeral?, if_neg (mt (fitsWord_iff n).1 hword), hscales.significand_eq] at hread
    obtain ⟨y, hscaled, -⟩ := Option.map_eq_some_iff.1 hread
    obtain ⟨value, hcomputes⟩ := Computes.exists_of_scaled hscaled
    obtain ⟨y', hscaled', hsame⟩ := hcomputes.exists_scaled hscales.digits_lt
    have hrounds := (narrow_magnitude_eq_iff n.negative y' _).1 rfl
    exact ⟨⟨n.negative, _⟩, .computed hword rfl hscales hcomputes ((hsame _).2 hrounds)⟩

/-- The reader of numerals finds the value that a numeral is read as, and fails
    exactly on those that are not read as any. -/
theorem ofNumeral?_eq_some_iff (n : Numeral) (x : Single) :
    ofNumeral? n = some x ↔ n.Reads x := by
  constructor
  · intro hread
    obtain ⟨x', hreads⟩ := exists_reads hread
    obtain rfl := Option.some.inj (hread.symm.trans hreads.ofNumeral?_eq)
    exact hreads
  · exact Reads.ofNumeral?_eq

end Numeral

end Interlock.Number
