import Interlock.Proofs.Text.Blank

namespace Interlock.Text

/-- A text of digits, at least one, is read as its decimal value. -/
theorem digits?_eq_some_iff {digits : List Char} {n : Nat} :
    digits? digits = some n ↔
      digits ≠ [] ∧ (∀ c ∈ digits, isDigit c = true) ∧ n = Nat.ofDigitChars 10 digits 0 := by
  unfold digits?
  rw [Option.ite_none_left_eq_some, Option.some.injEq, Bool.or_eq_true, not_or,
    List.isEmpty_iff, Bool.not_eq_true', Bool.not_eq_false, List.all_eq_true, and_assoc]
  exact and_congr_right fun _ => and_congr_right fun _ => eq_comm

/-- The digits of a number are read as that number. -/
theorem digits?_repr (n : Nat) : digits? (Nat.repr n).toList = some n := by
  rw [Nat.toList_repr]
  refine digits?_eq_some_iff.2 ⟨Nat.toDigits_ne_nil, fun c hc => ?_, ?_⟩
  · exact Nat.isDigit_of_mem_toDigits (by decide) (by decide) hc
  · exact (Nat.ofDigitChars_toDigits (by decide) (by decide)).symm

/-- No digit is a blank. -/
theorem not_blank_of_isDigit {c : Char} (hdigit : isDigit c = true) : isBlank c = false := by
  rw [isDigit, Bool.and_eq_true, decide_eq_true_iff, decide_eq_true_iff] at hdigit
  have hlow : 48 ≤ c.toNat := UInt32.le_iff_toNat_le.1 hdigit.1
  have hhigh : c.toNat ≤ 57 := UInt32.le_iff_toNat_le.1 hdigit.2
  exact not_blank_of_printed (by omega) (by omega)

end Interlock.Text
