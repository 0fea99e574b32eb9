import Interlock.Text.Blank
import Mathlib.Data.List.DropRight

namespace Interlock.Text

/-- What is dropped from the end, as the library has it. -/
theorem dropEndWhile_eq_rdropWhile {α : Type} (test : α → Bool) (cs : List α) :
    dropEndWhile test cs = cs.rdropWhile test := rfl

/-- A text without a blank at either end is trimmed. -/
theorem trimChars_eq_self {cs : List Char} (hfirst : ∀ c ∈ cs.head?, isBlank c = false)
    (hlast : ∀ c ∈ cs.getLast?, isBlank c = false) : trimChars cs = cs := by
  have hdrop : cs.dropWhile isBlank = cs := by
    cases cs with
    | nil => rfl
    | cons c cs => rw [List.dropWhile_cons, hfirst c rfl, if_neg Bool.false_ne_true]
  rw [trimChars, hdrop, dropEndWhile_eq_rdropWhile, List.rdropWhile_eq_self_iff]
  intro hne hblank
  rw [hlast _ (List.getLast?_eq_some_getLast hne)] at hblank
  cases hblank

/-- A trimmed text does not begin with a blank. -/
theorem not_blank_head?_trimChars (cs : List Char) :
    ∀ c ∈ (trimChars cs).head?, isBlank c = false := by
  intro c hc
  have hstart : trimChars cs <+: cs.dropWhile isBlank := List.rdropWhile_prefix isBlank _
  have hstops := List.head?_dropWhile_not isBlank cs
  have hne : trimChars cs ≠ [] := by
    rintro hnone
    rw [hnone] at hc
    cases hc
  rw [List.head?_eq_some_head hne, Option.mem_some] at hc
  rw [List.head?_eq_some_head (hstart.ne_nil hne), ← hstart.head hne, hc] at hstops
  exact hstops

theorem not_blank_getLast?_trimChars (cs : List Char) :
    ∀ c ∈ (trimChars cs).getLast?, isBlank c = false := by
  intro c hc
  have hne : trimChars cs ≠ [] := by
    rintro hnone
    rw [hnone] at hc
    cases hc
  rw [List.getLast?_eq_some_getLast hne, Option.mem_some] at hc
  rw [← Bool.not_eq_true, ← hc]
  exact List.rdropWhile_last_not isBlank _ hne

@[simp] theorem trimChars_trimChars (cs : List Char) : trimChars (trimChars cs) = trimChars cs :=
  trimChars_eq_self (not_blank_head?_trimChars cs) (not_blank_getLast?_trimChars cs)

@[simp] theorem trim_trim (s : String) : trim (trim s) = trim s := by
  simp [trim]

theorem trimChars_of_not_blank {cs : List Char} (hblanks : ∀ c ∈ cs, isBlank c = false) :
    trimChars cs = cs :=
  trimChars_eq_self (fun c hc => hblanks c (List.mem_of_head? hc))
    fun c hc => hblanks c (List.mem_of_getLast? hc)

theorem trim_eq_self {s : String} (hblanks : ∀ c ∈ s.toList, isBlank c = false) : trim s = s := by
  rw [trim, trimChars_of_not_blank hblanks, String.ofList_toList]

theorem dropEndWhile_trimChars (cs : List Char) :
    dropEndWhile isBlank (trimChars cs) = trimChars cs :=
  List.rdropWhile_idempotent isBlank _

/-- A blank at the end is trimmed off. -/
theorem trimChars_concat_blank {c : Char} (hblank : isBlank c = true) (cs : List Char) :
    trimChars (cs ++ [c]) = trimChars cs := by
  rw [trimChars, List.dropWhile_append]
  split
  · rename_i hnone
    rw [List.isEmpty_iff] at hnone
    simp [trimChars, hnone, hblank]
  · exact List.rdropWhile_concat_pos isBlank _ _ hblank

/-- What is dropped from the end does not reach beyond a character that stops
    it. -/
theorem dropEndWhile_append {α : Type} {test : α → Bool} {cs : List α}
    (hstops : ∃ c ∈ cs, test c = false) (before : List α) :
    dropEndWhile test (before ++ cs) = before ++ dropEndWhile test cs := by
  have hkept : (cs.reverse.dropWhile test).isEmpty = false := by
    obtain ⟨c, hc, hstop⟩ := hstops
    rw [Bool.eq_false_iff, ne_eq, List.isEmpty_iff, List.dropWhile_eq_nil_iff]
    intro hall
    rw [hall c (List.mem_reverse.2 hc)] at hstop
    cases hstop
  rw [dropEndWhile, List.reverse_append, List.dropWhile_append, hkept, dropEndWhile]
  simp

/-- The character that stops it is left. -/
theorem exists_mem_dropEndWhile {α : Type} {test : α → Bool} {cs : List α}
    (hstops : ∃ c ∈ cs, test c = false) : ∃ c ∈ dropEndWhile test cs, test c = false := by
  obtain ⟨c, hc, hstop⟩ := hstops
  have hsplit := List.rdropWhile_append_rtakeWhile (p := test) (l := cs)
  rw [← hsplit, List.mem_append] at hc
  rcases hc with hkept | hdropped
  · exact ⟨c, hkept, hstop⟩
  · rw [List.mem_rtakeWhile_imp hdropped] at hstop
    cases hstop

/-- Of a word, a blank and a text with more than blanks, only the end is
    trimmed. -/
theorem trimChars_word {word rest : List Char} (hne : word ≠ [])
    (hword : ∀ c ∈ word, isBlank c = false) (hrest : ∃ c ∈ rest, isBlank c = false) :
    trimChars (word ++ ' ' :: rest) = word ++ ' ' :: dropEndWhile isBlank rest := by
  obtain ⟨c, word, rfl⟩ := List.exists_cons_of_ne_nil hne
  have hdrop : (c :: word ++ ' ' :: rest).dropWhile isBlank = c :: word ++ ' ' :: rest := by
    rw [List.cons_append, List.dropWhile_cons, hword c List.mem_cons_self,
      if_neg Bool.false_ne_true]
  have hsplit : c :: word ++ ' ' :: rest = (c :: word ++ [' ']) ++ rest := by simp
  rw [trimChars, hdrop, hsplit, dropEndWhile_append hrest]
  simp

/-- Lower case changes capital letters only, each to the letter 32 places
    further. -/
theorem toLower_cases (c : Char) :
    c.toLower = c ∨ 65 ≤ c.toNat ∧ c.toNat ≤ 90 ∧ c.toLower.toNat = c.toNat + 32 := by
  unfold Char.toLower
  split
  · rename_i hupper
    have hlow : 65 ≤ c.toNat := UInt32.le_iff_toNat_le.1 hupper.1
    have hhigh : c.toNat ≤ 90 := UInt32.le_iff_toNat_le.1 hupper.2
    refine .inr ⟨hlow, hhigh, ?_⟩
    change (c.val + 32).toNat = c.toNat + 32
    rw [UInt32.toNat_add]
    exact Nat.mod_eq_of_lt (Nat.lt_of_le_of_lt (Nat.add_le_add_right hhigh 32) (by decide))
  · exact .inl rfl

/-- What is no small letter is no other letter in lower case either. -/
theorem eq_of_toLower {c d : Char} (hlower : c.toLower = d) (hd : d.toNat < 97) : c = d := by
  rcases toLower_cases c with hsame | ⟨hlow, _, hcode⟩
  · rwa [hsame] at hlower
  · rw [hlower] at hcode
    omega

theorem not_blank_of_printed {c : Char} (hlow : 33 ≤ c.toNat) (hhigh : c.toNat ≤ 126) :
    isBlank c = false := by
  simp only [isBlank, Bool.or_eq_false_iff, Bool.and_eq_false_iff, decide_eq_false_iff_not,
    beq_eq_false_iff_ne]
  omega

/-- Letters are no blanks, so that their case does not matter. -/
theorem isBlank_toLower (c : Char) : isBlank c.toLower = isBlank c := by
  rcases toLower_cases c with hsame | ⟨hlow, hhigh, hlower⟩
  · rw [hsame]
  · rw [not_blank_of_printed (by omega) (by omega), not_blank_of_printed (by omega) (by omega)]

/-- Texts are the same but for letter case exactly if they are the same in lower
    case. -/
theorem sameFolded_iff {a b : String} : sameFolded a b = true ↔ fold a = fold b := by
  rw [sameFolded, beq_iff_eq, fold, fold, String.ofList_inj]

theorem not_blank_of_fold {s : String} (hfold : ∀ c ∈ (fold s).toList, isBlank c = false) :
    ∀ c ∈ s.toList, isBlank c = false := by
  intro c hc
  rw [← isBlank_toLower]
  exact hfold _ (by simpa [fold] using ⟨c, hc, rfl⟩)

end Interlock.Text
