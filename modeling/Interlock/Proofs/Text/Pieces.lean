import Interlock.Text.Blank
import Interlock.Text.Lines

namespace Interlock.Text

section

variable {α : Type} [BEq α]

/-- A text falls apart at separators as the library has it. -/
theorem splitAll_eq_splitOn (separator : α) (cs : List α) :
    splitAll separator cs = cs.splitOn separator := by
  induction cs with
  | nil => rfl
  | cons c cs ih =>
    rw [List.splitOn, List.splitOnP_cons_eq_if_modifyHead, splitAll, ih, List.splitOn]
    cases hpieces : cs.splitOnP fun x => x == separator with
    | nil => exact absurd hpieces (List.splitOn_ne_nil separator cs)
    | cons piece pieces => rfl

variable [LawfulBEq α] {separator : α}

theorem splitAll_separator_cons (cs : List α) :
    splitAll separator (separator :: cs) = [] :: splitAll separator cs := by
  rw [splitAll_eq_splitOn, splitAll_eq_splitOn, List.splitOn,
    List.splitOnP_cons_eq_if_modifyHead, if_pos (beq_self_eq_true separator), List.splitOn]

theorem splitAll_cons_of_ne {c : α} (hne : c ≠ separator) (cs : List α) :
    splitAll separator (c :: cs) = (splitAll separator cs).modifyHead (c :: ·) := by
  rw [splitAll_eq_splitOn, splitAll_eq_splitOn, List.splitOn,
    List.splitOnP_cons_eq_if_modifyHead, if_neg (by simpa using hne), List.splitOn]

/-- No piece has a separator in it. A separator begins a new piece, and any
    other character is added to the first of the pieces behind it. -/
theorem not_mem_of_mem_splitAll {cs piece : List α} (hpiece : piece ∈ splitAll separator cs) :
    separator ∉ piece := by
  induction cs generalizing piece with
  | nil =>
    rw [splitAll, List.mem_singleton] at hpiece
    simp [hpiece]
  | cons c cs ih =>
    rw [splitAll] at hpiece
    split at hpiece
    · rename_i hnone
      exact absurd (splitAll_eq_splitOn separator cs ▸ hnone) (List.splitOn_ne_nil separator cs)
    · rename_i first pieces hsplit
      rw [hsplit] at ih
      split at hpiece
      · rcases List.mem_cons.1 hpiece with rfl | hrest
        · exact List.not_mem_nil
        · exact ih hrest
      · rename_i hother
        rcases List.mem_cons.1 hpiece with rfl | hrest
        · have hfirst := ih List.mem_cons_self
          have hne : separator ≠ c := fun hsame => hother (by simp [hsame])
          simpa [hne] using hfirst
        · exact ih (List.mem_cons_of_mem _ hrest)

/-- The pieces are the only texts without separators that make up the whole text
    when they are joined by separators. -/
theorem splitAll_eq_iff {cs : List α} {pieces : List (List α)} :
    splitAll separator cs = pieces ↔
      pieces ≠ [] ∧ (∀ piece ∈ pieces, separator ∉ piece) ∧
        [separator].intercalate pieces = cs := by
  constructor
  · rintro rfl
    refine ⟨?_, fun piece hpiece => not_mem_of_mem_splitAll hpiece, ?_⟩
    · rw [splitAll_eq_splitOn]
      exact List.splitOn_ne_nil separator cs
    · rw [splitAll_eq_splitOn, List.intercalate_splitOn]
  · rintro ⟨hsome, hfree, rfl⟩
    rw [splitAll_eq_splitOn, List.splitOn_intercalate separator hfree hsome]

end

/-- The longest start whose characters pass a test, and what follows it. -/
theorem takeWhile_dropWhile_eq_iff (test : Char → Bool) (cs : List Char) {first rest : List Char} :
    cs.takeWhile test = first ∧ cs.dropWhile test = rest ↔
      cs = first ++ rest ∧ (∀ c ∈ first, test c = true) ∧ ∀ c ∈ rest.head?, test c = false := by
  constructor
  · rintro ⟨rfl, rfl⟩
    refine ⟨List.takeWhile_append_dropWhile.symm, fun c hc => ?_, fun c hc => ?_⟩
    · exact List.all_eq_true.1 List.all_takeWhile c hc
    · have hstops := List.head?_dropWhile_not test cs
      rw [Option.mem_def.1 hc] at hstops
      exact hstops
  · rintro ⟨rfl, hfirst, hrest⟩
    rw [List.takeWhile_append_of_pos hfirst, List.dropWhile_append_of_pos hfirst]
    cases rest with
    | nil => simp
    | cons c rest => simp [hrest c rfl]

/-- The text up to the first blank, if there is one, and what follows without
    blanks around. -/
def Cut (text head rest : String) : Prop :=
  ∃ tail, text.toList = head.toList ++ tail ∧ (∀ c ∈ head.toList, isBlank c = false) ∧
    (∀ c ∈ tail.head?, isBlank c = true) ∧ rest = String.ofList (trimChars tail)

/-- Cutting a text in two finds its word and its rest. There is one such cut
    only, since the word ends at the first blank. -/
theorem cut_iff {text head rest : String} : Cut text head rest ↔ cutWord text = (head, rest) := by
  have hruns (tail : List Char) :
      (text.toList.takeWhile fun c => !isBlank c) = head.toList ∧
          (text.toList.dropWhile fun c => !isBlank c) = tail ↔
        text.toList = head.toList ++ tail ∧ (∀ c ∈ head.toList, isBlank c = false) ∧
          ∀ c ∈ tail.head?, isBlank c = true := by
    simpa using takeWhile_dropWhile_eq_iff (fun c => !isBlank c) text.toList
  rw [cutWord, Prod.mk.injEq]
  constructor
  · rintro ⟨tail, htext, hhead, htail, rfl⟩
    obtain ⟨hfirst, hrest⟩ := (hruns tail).2 ⟨htext, hhead, htail⟩
    rw [hfirst, hrest, String.ofList_toList]
    exact ⟨rfl, rfl⟩
  · rintro ⟨rfl, rfl⟩
    obtain ⟨htext, hhead, htail⟩ := (hruns _).1 ⟨String.toList_ofList.symm, rfl⟩
    exact ⟨_, htext, hhead, htail, rfl⟩

/-- The first of the words in a text, and what follows it. -/
def FirstWord (text word rest : List Char) : Prop :=
  ∃ lead, text = lead ++ (word ++ rest) ∧ (∀ c ∈ lead, isBlank c = true) ∧ word ≠ [] ∧
    (∀ c ∈ word, isBlank c = false) ∧ ∀ c ∈ rest.head?, isBlank c = true

/-- A word that has begun goes on up to the next blank, and the words behind
    that follow. -/
theorem wordsFrom_cons {c : Char} (word cs : List Char) :
    wordsFrom (c :: word) cs =
      ((c :: word).reverse ++ cs.takeWhile fun c => !isBlank c) ::
        wordsFrom [] (cs.dropWhile fun c => !isBlank c) := by
  induction cs generalizing c word with
  | nil => simp [wordsFrom]
  | cons d cs ih =>
    cases hblank : isBlank d with
    | true => simp [wordsFrom, hblank]
    | false =>
      rw [wordsFrom, if_neg (by simp [hblank]), ih]
      simp [hblank]

/-- Blanks before the first word do not matter. -/
theorem wordsFrom_blanks {lead : List Char} (hlead : ∀ c ∈ lead, isBlank c = true)
    (cs : List Char) : wordsFrom [] (lead ++ cs) = wordsFrom [] cs := by
  induction lead with
  | nil => rfl
  | cons c lead ih =>
    rw [List.cons_append, wordsFrom, if_pos (hlead c List.mem_cons_self)]
    exact ih fun d hd => hlead d (List.mem_cons_of_mem _ hd)

/-- The words of a text are its first word and those of what follows it. -/
theorem FirstWord.wordsFrom_eq {text word rest : List Char} (hword : FirstWord text word rest) :
    wordsFrom [] text = word :: wordsFrom [] rest := by
  obtain ⟨lead, rfl, hlead, hsome, hfull, hrest⟩ := hword
  obtain ⟨c, word, rfl⟩ := List.exists_cons_of_ne_nil hsome
  obtain ⟨hc, hfull⟩ := List.forall_mem_cons.1 hfull
  obtain ⟨hfirst, hafter⟩ :=
    (takeWhile_dropWhile_eq_iff (fun c => !isBlank c) (word ++ rest)).2
      ⟨rfl, by simpa using hfull, by simpa using hrest⟩
  rw [wordsFrom_blanks hlead, List.cons_append, wordsFrom, if_neg (by simp [hc]), wordsFrom_cons,
    hfirst, hafter]
  rfl

/-- A text with words has a first one. -/
theorem exists_firstWord {text : List Char} (hsome : wordsFrom [] text ≠ []) :
    ∃ word rest, FirstWord text word rest := by
  obtain ⟨htext, hlead, hstops⟩ := (takeWhile_dropWhile_eq_iff isBlank text).1 ⟨rfl, rfl⟩
  cases hrest : text.dropWhile isBlank with
  | nil =>
    rw [hrest] at htext
    rw [htext, wordsFrom_blanks hlead] at hsome
    exact absurd rfl hsome
  | cons c cs =>
    rw [hrest] at htext hstops
    have hc : isBlank c = false := hstops c rfl
    obtain ⟨hword, hfull, hends⟩ :=
      (takeWhile_dropWhile_eq_iff (fun c => !isBlank c) (c :: cs)).1 ⟨rfl, rfl⟩
    exact ⟨_, _, _, hword ▸ htext, hlead, by simp [hc], by simpa using hfull, by simpa using hends⟩

/-- The first two words of a text. -/
theorem words_eq_iff {text first second : String} :
    (∃ more, words text = first :: second :: more) ↔
      ∃ rest more, FirstWord text.toList first.toList rest ∧
        FirstWord rest second.toList more := by
  constructor
  · rintro ⟨more, hwords⟩
    obtain ⟨one, tail, hone, rfl, htail⟩ := List.map_eq_cons_iff.1 hwords
    obtain ⟨two, tail, htwo, rfl, _⟩ := List.map_eq_cons_iff.1 htail
    obtain ⟨word, rest, hfirst⟩ := exists_firstWord (by rw [hone]; exact List.cons_ne_nil _ _)
    obtain ⟨rfl, rfl⟩ := List.cons.inj (hfirst.wordsFrom_eq.symm.trans hone)
    obtain ⟨word, more, hsecond⟩ := exists_firstWord (by rw [htwo]; exact List.cons_ne_nil _ _)
    obtain ⟨rfl, rfl⟩ := List.cons.inj (hsecond.wordsFrom_eq.symm.trans htwo)
    exact ⟨rest, more, by simpa using hfirst, by simpa using hsecond⟩
  · rintro ⟨rest, more, hfirst, hsecond⟩
    rw [words, hfirst.wordsFrom_eq, hsecond.wordsFrom_eq]
    exact ⟨(wordsFrom [] more).map String.ofList, by simp⟩

end Interlock.Text
