import Interlock.Proofs.Console.Resume
import Interlock.Proofs.Text.Digits

namespace Interlock

open Interlock.Text

namespace ConsoleCommand

/-- A word that is a command code: the letter in either case and digits, of
    which there may be any number as long as their value is that of a code. -/
def IsCode (word : List Char) (number : Nat) : Prop :=
  ∃ letter digits, word = letter :: digits ∧ (letter = 'M' ∨ letter = 'm') ∧ digits ≠ [] ∧
    (∀ c ∈ digits, isDigit c = true) ∧ number = Nat.ofDigitChars 10 digits 0 ∧ number ≤ 65535

/-- A line that is a command code, with what follows the code. -/
inductive IsCodeLine (number : Nat) : List Char → String → Prop where
  | alone {word : List Char} (code : IsCode word number) : IsCodeLine number word ""
  | followed {word : List Char} (code : IsCode word number) {blank : Char}
    (hblank : isBlank blank = true) (more : List Char) :
    IsCodeLine number (word ++ blank :: more) (trim (String.ofList more))

/-- The code of a word, by what the word spells. Leading zeros count for
    nothing, so the bound is one on the value and not on the number of digits. -/
theorem codeOf?_eq_some_iff {word : String} {number : Nat} :
    codeOf? word = some number ↔ IsCode word.toList number := by
  unfold codeOf?
  constructor
  · intro hcode
    split at hcode
    · rename_i letter digits hword
      obtain ⟨hletter, hnumber⟩ := Option.ite_none_right_eq_some.1 hcode
      obtain ⟨hnumber, hbound⟩ := Option.filter_eq_some_iff.1 hnumber
      obtain ⟨hne, hdigits, hvalue⟩ := digits?_eq_some_iff.1 hnumber
      exact ⟨letter, digits, hword, hletter, hne, hdigits, hvalue, of_decide_eq_true hbound⟩
    · cases hcode
  · rintro ⟨letter, digits, hword, hletter, hne, hdigits, hvalue, hbound⟩
    have hnumber : digits? digits = some number := digits?_eq_some_iff.2 ⟨hne, hdigits, hvalue⟩
    rw [hword]
    dsimp only
    rw [if_pos hletter, hnumber]
    exact Option.filter_eq_some_iff.2 ⟨rfl, decide_eq_true hbound⟩

theorem IsCode.no_blank {word : List Char} {number : Nat} (hcode : IsCode word number) :
    ∀ c ∈ word, isBlank c = false := by
  obtain ⟨letter, digits, rfl, hletter, _, hdigits, _⟩ := hcode
  refine List.forall_mem_cons.2 ⟨?_, fun c hc => not_blank_of_isDigit (hdigits c hc)⟩
  rcases hletter with rfl | rfl <;> decide

theorem isCode_repr {number : Nat} (hbound : number ≤ greatestCode) :
    IsCode ('M' :: (Nat.repr number).toList) number := by
  obtain ⟨hne, hdigits, hvalue⟩ := digits?_eq_some_iff.1 (digits?_repr number)
  exact ⟨'M', _, rfl, .inl rfl, hne, hdigits, hvalue, hbound⟩

/-- A line that is cut behind its first word is a code line exactly if the word
    is a code. -/
theorem isCodeLine_iff {line : List Char} {number : Nat} {rest : String} :
    IsCodeLine number line rest ↔
      ∃ word, Cut (String.ofList line) word rest ∧ IsCode word.toList number := by
  constructor
  · rintro (hcode | ⟨hcode, hblank, more⟩)
    · refine ⟨String.ofList line, ⟨[], by simp, ?_, by simp, rfl⟩, by simpa using hcode⟩
      simpa using hcode.no_blank
    · rename_i word blank
      refine ⟨String.ofList word, ⟨blank :: more, by simp, ?_, by simpa using hblank, ?_⟩,
        by simpa using hcode⟩
      · simpa using hcode.no_blank
      · simp [trim, trimChars, hblank]
  · rintro ⟨word, ⟨tail, hline, _, htail, rfl⟩, hcode⟩
    rw [String.toList_ofList] at hline
    subst hline
    cases tail with
    | nil => simpa [trimChars, dropEndWhile] using IsCodeLine.alone hcode
    | cons blank more =>
      have hblank : isBlank blank = true := htail blank rfl
      simpa [trim, trimChars, hblank] using IsCodeLine.followed hcode hblank more

/-- A line is a code line in one way. The first blank ends the code, so neither
    the code nor what follows it could be cut elsewhere. -/
theorem IsCodeLine.unique {line : List Char} {number number' : Nat} {rest rest' : String}
    (hcode : IsCodeLine number line rest) (hcode' : IsCodeLine number' line rest') :
    number = number' ∧ rest = rest' := by
  obtain ⟨word, hcut, hword⟩ := isCodeLine_iff.1 hcode
  obtain ⟨word', hcut', hword'⟩ := isCodeLine_iff.1 hcode'
  obtain ⟨rfl, rfl⟩ := Prod.mk.inj ((cut_iff.1 hcut).symm.trans (cut_iff.1 hcut'))
  rw [← codeOf?_eq_some_iff] at hword hword'
  exact ⟨Option.some.inj (hword.symm.trans hword'), rfl⟩

/-- How a line is read. -/
inductive Reads (line : String) : ConsoleCommand → Prop where
  | resume (resumes : IsResumeWord (trim line)) : Reads line .resume
  | code (other : ¬IsResumeWord (trim line)) {number : Nat} {rest : String}
    (code : IsCodeLine number (trim line).toList rest) : Reads line (.code number rest)
  | unknown (other : ¬IsResumeWord (trim line))
    (no_code : ∀ number rest, ¬IsCodeLine number (trim line).toList rest) :
    Reads line (.unknown (trim line))

/-- Every line is read by the grammar as it is parsed, so the grammar covers all
    lines. -/
theorem reads_parse (line : String) : Reads line (parse line) := by
  have hresume : isResumeLine (trim line) = true ↔ IsResumeWord (trim line) := by
    rw [isResumeLine_iff, trim_trim]
  have hline {number : Nat} {rest : String} :
      IsCodeLine number (trim line).toList rest ↔
        ∃ word, cutWord (trim line) = (word, rest) ∧ codeOf? word = some number := by
    simp only [isCodeLine_iff, String.ofList_toList, cut_iff, codeOf?_eq_some_iff]
  rw [parse]
  dsimp only
  split
  · rename_i hresumes
    exact .resume (hresume.1 hresumes)
  · rename_i hother
    rw [hresume] at hother
    rcases hcut : cutWord (trim line) with ⟨word, rest⟩
    dsimp only
    cases hcode : codeOf? word with
    | some number => exact .code hother (hline.2 ⟨word, hcut, hcode⟩)
    | none =>
      refine .unknown hother fun number rest' hnumber => ?_
      obtain ⟨word', hcut', hcode'⟩ := hline.1 hnumber
      rw [(Prod.mk.inj (hcut.symm.trans hcut')).1, hcode'] at hcode
      cases hcode

/-- A line is read in one way: a code line has one code, and an unknown line
    none. -/
theorem Reads.unique {line : String} {command command' : ConsoleCommand}
    (hreads : Reads line command) (hreads' : Reads line command') : command = command' := by
  cases hreads with
  | resume resumes =>
    cases hreads' with
    | resume => rfl
    | code other | unknown other => exact absurd resumes other
  | code other code =>
    cases hreads' with
    | resume resumes => exact absurd resumes other
    | code _ code' =>
      obtain ⟨rfl, rfl⟩ := code.unique code'
      rfl
    | unknown _ no_code => exact absurd code (no_code _ _)
  | unknown other no_code =>
    cases hreads' with
    | resume resumes => exact absurd resumes other
    | code _ code => exact absurd code (no_code _ _)
    | unknown => rfl

/-- The command of a line is the one that the grammar reads, since it reads
    every line and in one way only. -/
theorem parse_eq_iff {line : String} {command : ConsoleCommand} :
    parse line = command ↔ Reads line command :=
  ⟨fun hparse => hparse ▸ reads_parse line, (reads_parse line).unique⟩

/-- Of a code, a blank and a trimmed text, no more is trimmed than the blank. If
    the text is empty the blank goes as well, which leaves the code alone on its
    line. -/
theorem isCodeLine_trim {number : Nat} (hbound : number ≤ greatestCode) {rest : String}
    (hrest : trim rest = rest) :
    IsCodeLine number (trim ("M" ++ Nat.repr number ++ " " ++ rest)).toList rest := by
  have hcode := isCode_repr hbound
  have hspace : isBlank ' ' = true := rfl
  have hline : ("M" ++ Nat.repr number ++ " " ++ rest).toList =
      'M' :: (Nat.repr number).toList ++ ' ' :: rest.toList := by simp
  have htrimmed : trimChars rest.toList = rest.toList := by
    simpa [trim] using congrArg String.toList hrest
  rw [trim, String.toList_ofList, hline]
  cases hchars : rest.toList with
  | nil =>
    obtain rfl := String.toList_eq_nil_iff.1 hchars
    rw [trimChars_concat_blank hspace, trimChars_of_not_blank hcode.no_blank]
    exact .alone hcode
  | cons c cs =>
    have hfirst : isBlank c = false := by
      refine not_blank_head?_trimChars rest.toList c ?_
      rw [htrimmed, hchars]
      rfl
    rw [trimChars_word (List.cons_ne_nil _ _) hcode.no_blank ⟨c, List.mem_cons_self, hfirst⟩,
      ← hchars, ← htrimmed, dropEndWhile_trimChars, htrimmed]
    simpa [hrest] using IsCodeLine.followed hcode hspace rest.toList

/-- Only one code can be taken for the word to resume, and only without anything
    behind it. A resume word has no blank, so the code is the whole line. -/
theorem IsCodeLine.of_resumeWord {line : String} (hresumes : IsResumeWord line) {number : Nat}
    {rest : String} (hcode : IsCodeLine number line.toList rest) : number = 601 ∧ rest = "" := by
  obtain ⟨word, ⟨tail, hline, _, htail, rfl⟩, hnumber⟩ := isCodeLine_iff.1 hcode
  rw [String.ofList_toList] at hline
  have hnone : tail = [] := by
    cases tail with
    | nil => rfl
    | cons blank more =>
      have hkept := hresumes.no_blank blank (by simp [hline])
      rw [htail blank rfl] at hkept
      cases hkept
  subst hnone
  obtain rfl : line = word := String.toList_inj.1 (by simpa using hline)
  exact ⟨codeOf?_resumeWord hresumes (codeOf?_eq_some_iff.2 hnumber), rfl⟩

theorem parse_trim (line : String) : parse (trim line) = parse line := by
  simp only [parse, trim_trim]

/-- A line is read by the grammar of the console, in which the blanks around it
    do not count. Every code is read back with every trimmed text behind it,
    except that the code of the word to resume resumes if nothing is behind it. -/
theorem parse_console_grammar (line : String) :
    (∀ command, parse line = command ↔ Reads line command) ∧
      (∀ number rest, number ≤ greatestCode → trim rest = rest →
        (parse ("M" ++ Nat.repr number ++ " " ++ rest) = .code number rest ↔
          ¬(number = 601 ∧ rest = ""))) ∧
      parse (trim line) = parse line := by
  refine ⟨fun command => parse_eq_iff, fun number rest hbound hrest => ?_, parse_trim line⟩
  have hcode := isCodeLine_trim hbound hrest
  rw [parse_eq_iff]
  constructor
  · rintro (_ | ⟨hother, _⟩) ⟨rfl, rfl⟩
    exact hother (.inr (by decide))
  · intro hother
    exact .code (fun hresumes => hother (hcode.of_resumeWord hresumes)) hcode

/-- The code of the word to resume is read as a code once something is behind
    it. -/
theorem parse_console_grammar_resumeCode :
    (601 ≤ greatestCode ∧ trim "part.gcode" = "part.gcode") ∧
      parse ("M" ++ Nat.repr 601 ++ " " ++ "part.gcode") = .code 601 "part.gcode" := by
  have hbound : 601 ≤ greatestCode := by decide
  have htrimmed : trim "part.gcode" = "part.gcode" := by decide
  obtain ⟨_, hread, _⟩ := parse_console_grammar ""
  exact ⟨⟨hbound, htrimmed⟩, (hread 601 "part.gcode" hbound htrimmed).2 (by decide)⟩

example : parse "  m0601\t part.gcode " = .code 601 "part.gcode" := by decide

end ConsoleCommand

end Interlock
