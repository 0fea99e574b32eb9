import Interlock.Console.Command
import Interlock.Proofs.Text.Blank
import Interlock.Proofs.Text.Pieces

namespace Interlock

open Interlock.Text

/-- A word that asks to resume, in letters of any case. -/
def IsResumeWord (word : String) : Prop :=
  fold word = "resume" ∨ fold word = "m601"

theorem IsResumeWord.no_blank {word : String} (hword : IsResumeWord word) :
    ∀ c ∈ word.toList, isBlank c = false := by
  refine not_blank_of_fold ?_
  rcases hword with hfold | hfold <;> simp [hfold, isBlank]

theorem IsResumeWord.ne_empty {word : String} (hword : IsResumeWord word) : word ≠ "" := by
  rintro rfl
  rcases hword with hfold | hfold <;> exact absurd hfold (by decide)

theorem isResumeLine_iff (line : String) : isResumeLine line = true ↔ IsResumeWord (trim line) := by
  rw [isResumeLine, Bool.or_eq_true, sameFolded_iff, sameFolded_iff]
  rfl

namespace ConsoleCommand

/-- A word that asks to resume is read as that, and not as the code that one of
    them spells. -/
theorem parse_resumeWord {word : String} (hword : IsResumeWord word) : parse word = .resume := by
  have htrim : trim word = word := trim_eq_self hword.no_blank
  have hline : isResumeLine (trim word) = true := by rwa [isResumeLine_iff, htrim, htrim]
  rw [parse]
  dsimp only
  rw [if_pos hline]

/-- Of the words that resume, one is a command code; the other starts with a
    letter that no code starts with. -/
theorem codeOf?_resumeWord {word : String} (hword : IsResumeWord word) {code : Nat}
    (hcode : codeOf? word = some code) : code = 601 := by
  unfold codeOf? at hcode
  split at hcode
  · rename_i c digits hchars
    obtain ⟨hletter, hdigits⟩ := Option.ite_none_right_eq_some.1 hcode
    have hfolded : fold word = String.ofList (c.toLower :: digits.map Char.toLower) := by
      rw [fold, hchars, List.map_cons]
    rcases hword with hresume | hcommand
    · rw [hfolded, ← String.toList_inj, String.toList_ofList] at hresume
      have hother : c.toLower = 'r' := (List.cons.inj hresume).1
      rcases hletter with rfl | rfl <;> exact absurd hother (by decide)
    · rw [hfolded, ← String.toList_inj, String.toList_ofList] at hcommand
      have hnumber : digits.map Char.toLower = ['6', '0', '1'] := (List.cons.inj hcommand).2
      obtain ⟨six, digits, rfl, hsix, hnumber⟩ := List.map_eq_cons_iff.1 hnumber
      obtain ⟨zero, digits, rfl, hzero, hnumber⟩ := List.map_eq_cons_iff.1 hnumber
      obtain ⟨one, digits, rfl, hone, hnumber⟩ := List.map_eq_cons_iff.1 hnumber
      obtain rfl := List.map_eq_nil_iff.1 hnumber
      rw [eq_of_toLower hsix (by decide), eq_of_toLower hzero (by decide),
        eq_of_toLower hone (by decide)] at hdigits
      exact (Option.some.inj hdigits).symm
  · cases hcode

/-- With more than blanks behind it, the word does not resume: it is a line for
    the modules or for none. A single character that is no blank is enough,
    wherever it stands. -/
theorem parse_resumeWord_with {word rest : String} (hword : IsResumeWord word)
    (hrest : ∃ c ∈ rest.toList, isBlank c = false) :
    (∃ line, parse (word ++ " " ++ rest) = .unknown line) ∨
      ∃ rest', parse (word ++ " " ++ rest) = .code 601 rest' := by
  have hne : word.toList ≠ [] := fun hnone => hword.ne_empty (String.toList_eq_nil_iff.1 hnone)
  have htrim {rest : List Char} (hrest : ∃ c ∈ rest, isBlank c = false) :
      trim (String.ofList (word.toList ++ ' ' :: rest)) =
        String.ofList (word.toList ++ ' ' :: dropEndWhile isBlank rest) := by
    rw [trim, String.toList_ofList, trimChars_word hne hword.no_blank hrest]
  have hline : word ++ " " ++ rest = String.ofList (word.toList ++ ' ' :: rest.toList) := by
    rw [← String.toList_inj]
    simp
  have hkept := exists_mem_dropEndWhile hrest
  -- The blank behind the word stays, and a word that resumes has none.
  have hother : ¬isResumeLine (trim (word ++ " " ++ rest)) = true := by
    rw [isResumeLine_iff, hline, htrim hrest, htrim hkept]
    intro hresumes
    have hblank := hresumes.no_blank ' ' (by simp)
    exact absurd hblank (by decide)
  have hcut : cutWord (trim (word ++ " " ++ rest)) =
      (word, String.ofList (trimChars (' ' :: dropEndWhile isBlank rest.toList))) := by
    rw [hline, htrim hrest]
    exact cut_iff.1 ⟨_, String.toList_ofList, hword.no_blank, by simp [isBlank], rfl⟩
  rw [parse]
  dsimp only
  rw [if_neg hother, hcut]
  cases hcode : codeOf? word with
  | none => exact .inl ⟨_, rfl⟩
  | some code =>
    obtain rfl := codeOf?_resumeWord hword hcode
    exact .inr ⟨_, rfl⟩

end ConsoleCommand

end Interlock
