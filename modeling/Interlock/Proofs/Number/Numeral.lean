import Interlock.Number.Numeral
import Interlock.Proofs.Text.Pieces

namespace Interlock.Number.Numeral

open Interlock.Text

/-- Digits, at least one. -/
def IsDigits (cs : List Char) : Prop :=
  cs ≠ [] ∧ ∀ c ∈ cs, isDigit c = true

/-- The digits of a fraction, and its spelling with the point in front. -/
inductive FractionSpells : List Char → List Char → Prop where
  | none : FractionSpells [] []
  | point {digits : List Char} (hdigits : IsDigits digits) : FractionSpells digits ('.' :: digits)

/-- An exponent, and its spelling with the mark and the sign in front. -/
inductive ExponentSpells : Option (Bool × List Char) → List Char → Prop where
  | none : ExponentSpells none []
  | unsigned {mark : Char} {digits : List Char} (hmark : mark = 'e' ∨ mark = 'E')
      (hdigits : IsDigits digits) : ExponentSpells (some (false, digits)) (mark :: digits)
  | plus {mark : Char} {digits : List Char} (hmark : mark = 'e' ∨ mark = 'E')
      (hdigits : IsDigits digits) : ExponentSpells (some (false, digits)) (mark :: '+' :: digits)
  | minus {mark : Char} {digits : List Char} (hmark : mark = 'e' ∨ mark = 'E')
      (hdigits : IsDigits digits) : ExponentSpells (some (true, digits)) (mark :: '-' :: digits)

/-- A numeral and one of its spellings. A numeral is a sign, a whole part
    without a leading zero, a fraction and an exponent, of which only the whole
    part has to be there. -/
inductive Spells : Numeral → List Char → Prop where
  | positive {whole fraction point mark : List Char} {exponent : Option (Bool × List Char)}
      (hwhole : IsDigits whole) (hzero : whole.head? = some '0' → whole = ['0'])
      (hfraction : FractionSpells fraction point) (hexponent : ExponentSpells exponent mark) :
      Spells ⟨false, whole, fraction, exponent⟩ (whole ++ (point ++ mark))
  | negative {whole fraction point mark : List Char} {exponent : Option (Bool × List Char)}
      (hwhole : IsDigits whole) (hzero : whole.head? = some '0' → whole = ['0'])
      (hfraction : FractionSpells fraction point) (hexponent : ExponentSpells exponent mark) :
      Spells ⟨true, whole, fraction, exponent⟩ ('-' :: (whole ++ (point ++ mark)))

theorem isDigit_mark {mark : Char} (hmark : mark = 'e' ∨ mark = 'E') : isDigit mark = false := by
  obtain rfl | rfl := hmark <;> rfl

/-- A sign is not a digit, so digits do not begin with one. -/
theorem IsDigits.exists_cons {cs : List Char} (hdigits : IsDigits cs) :
    ∃ c rest, cs = c :: rest ∧ c ≠ '+' ∧ c ≠ '-' := by
  obtain ⟨hne, hall⟩ := hdigits
  obtain ⟨c, rest, rfl⟩ := List.exists_cons_of_ne_nil hne
  have hdigit : isDigit c = true := hall c List.mem_cons_self
  refine ⟨c, rest, rfl, ?_, ?_⟩
  · rintro rfl
    exact absurd hdigit (by decide)
  · rintro rfl
    exact absurd hdigit (by decide)

theorem IsDigits.not_isEmpty {cs : List Char} (hdigits : IsDigits cs) : cs.isEmpty = false := by
  rw [List.isEmpty_eq_false_iff]
  exact hdigits.1

theorem IsDigits.all {cs : List Char} (hdigits : IsDigits cs) : cs.all isDigit = true :=
  List.all_eq_true.2 hdigits.2

/-- Every spelling of an exponent is read as that exponent. The sign is told
    from the digits by their first character. -/
theorem ExponentSpells.exponent?_eq {exponent : Option (Bool × List Char)} {cs : List Char}
    (hspells : ExponentSpells exponent cs) : exponent? cs = some exponent := by
  have hmarked {mark : Char} (hmark : mark = 'e' ∨ mark = 'E') :
      (mark == 'e' || mark == 'E') = true := by
    obtain rfl | rfl := hmark <;> rfl
  cases hspells with
  | none => rfl
  | unsigned hmark hdigits =>
    obtain ⟨c, rest, rfl, hplus, hminus⟩ := hdigits.exists_cons
    rw [exponent?, if_pos (hmarked hmark), hdigits.not_isEmpty, hdigits.all]
    · rfl
    · exact fun _ heq => hplus (List.cons.inj heq).1
    · exact fun _ heq => hminus (List.cons.inj heq).1
  | plus hmark hdigits | minus hmark hdigits =>
    rw [exponent?, if_pos (hmarked hmark), hdigits.not_isEmpty, hdigits.all]
    rfl

/-- What spells an exponent does not go on with a digit, so the digits before it
    end there. -/
theorem ExponentSpells.not_digit_head? {exponent : Option (Bool × List Char)} {cs : List Char}
    (hspells : ExponentSpells exponent cs) : ∀ c ∈ cs.head?, isDigit c = false := by
  cases hspells with
  | none => nofun
  | unsigned hmark _ | plus hmark _ | minus hmark _ =>
    intro c hc
    obtain rfl := Option.some.inj hc
    exact isDigit_mark hmark

theorem FractionSpells.not_digit_head? {fraction point mark : List Char}
    {exponent : Option (Bool × List Char)} (hfraction : FractionSpells fraction point)
    (hexponent : ExponentSpells exponent mark) :
    ∀ c ∈ (point ++ mark).head?, isDigit c = false := by
  cases hfraction with
  | none => exact hexponent.not_digit_head?
  | point _ =>
    intro c hc
    obtain rfl := Option.some.inj hc
    rfl

/-- What follows the sign is read as its three parts. Each of them ends where
    the next one begins, as none of them begins with a digit but the whole part. -/
theorem unsigned?_eq {negative : Bool} {whole fraction point mark : List Char}
    {exponent : Option (Bool × List Char)} (hwhole : IsDigits whole)
    (hzero : whole.head? = some '0' → whole = ['0']) (hfraction : FractionSpells fraction point)
    (hexponent : ExponentSpells exponent mark) :
    unsigned? negative (whole ++ (point ++ mark)) = some ⟨negative, whole, fraction, exponent⟩ := by
  obtain ⟨hfirst, hrest⟩ := (takeWhile_dropWhile_eq_iff isDigit _).2
    ⟨rfl, hwhole.2, hfraction.not_digit_head? hexponent⟩
  have hlead :
      ¬(whole.isEmpty || (whole.head? == some '0' && decide (whole.length ≠ 1))) = true := by
    rw [hwhole.not_isEmpty, Bool.false_or, Bool.and_eq_true, beq_iff_eq, decide_eq_true_iff]
    rintro ⟨hhead, hlength⟩
    rw [hzero hhead] at hlength
    exact hlength rfl
  rw [unsigned?, hfirst, hrest, if_neg hlead]
  cases hfraction with
  | none =>
    have hread := hexponent.exponent?_eq
    cases hexponent with
    | none => rfl
    | unsigned hmark _ | plus hmark _ | minus hmark _ =>
      obtain rfl | rfl := hmark <;> exact congrArg (Option.map _) hread
  | point hdigits =>
    obtain ⟨hdone, hleft⟩ := (takeWhile_dropWhile_eq_iff isDigit _).2
      ⟨rfl, hdigits.2, hexponent.not_digit_head?⟩
    simp only [List.cons_append, hdone, hleft, hdigits.not_isEmpty, hexponent.exponent?_eq]
    rfl

/-- Each spelling is read as the numeral that it spells. -/
theorem Spells.ofChars?_eq {n : Numeral} {cs : List Char} (hspells : n.Spells cs) :
    ofChars? cs = some n := by
  cases hspells with
  | positive hwhole hzero hfraction hexponent =>
    obtain ⟨c, rest, rfl, -, hminus⟩ := hwhole.exists_cons
    rw [List.cons_append, ofChars?, ← List.cons_append,
      unsigned?_eq hwhole hzero hfraction hexponent]
    intro cs heq
    exact hminus (List.cons.inj heq).1
  | negative hwhole hzero hfraction hexponent => exact unsigned?_eq hwhole hzero hfraction hexponent

end Interlock.Number.Numeral
