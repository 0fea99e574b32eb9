import Interlock.Proofs.Menu.Definition
import Interlock.Proofs.Text.Blank

namespace Interlock.Menu

open Interlock.Text Interlock.Number

/-- A number is written as a numeral. -/
theorem isNumeral_repr (n : Nat) : IsNumeral (Nat.repr n) n :=
  ⟨_, .inl rfl, digits?_eq_some_iff.1 (digits?_repr n)⟩

/-- A numeral stands for one number. -/
theorem IsNumeral.unique {text : String} {n m : Nat} (hn : IsNumeral text n)
    (hm : IsNumeral text m) : n = m :=
  Option.some.inj ((ofText?_eq_some_iff.2 ⟨hn, Nat.le_max_left n m⟩).symm.trans
    (ofText?_eq_some_iff.2 ⟨hm, Nat.le_max_right n m⟩))

/-- The numeral of a number is read if the number is not too great. -/
theorem ofText?_repr (greatest n : Nat) :
    Word.ofText? greatest (Nat.repr n) = if n ≤ greatest then some n else none := by
  split
  · rename_i hfits
    exact ofText?_eq_some_iff.2 ⟨isNumeral_repr n, hfits⟩
  · rename_i hgreat
    rw [Option.eq_none_iff_forall_ne_some]
    intro m hread
    obtain ⟨hnumeral, hfits⟩ := ofText?_eq_some_iff.1 hread
    exact hgreat (((isNumeral_repr n).unique hnumeral).symm ▸ hfits)

/-- A word and what follows behind a blank are told apart, if what follows is
    trimmed already. -/
theorem cut_append {word rest : String} (hword : ∀ c ∈ word.toList, isBlank c = false)
    (hrest : trimChars rest.toList = rest.toList) : Cut (word ++ " " ++ rest) word rest := by
  refine ⟨' ' :: rest.toList, by simp, hword, by simp [isBlank], ?_⟩
  have hblank : trimChars (' ' :: rest.toList) = trimChars rest.toList := rfl
  rw [hblank, hrest, String.ofList_toList]

/-- Text that ends in a numeral is trimmed. -/
theorem trimChars_append_repr {start : List Char} (hstart : ∀ c ∈ start.head?, isBlank c = false)
    (n : Nat) : trimChars (start ++ (Nat.repr n).toList) = start ++ (Nat.repr n).toList := by
  obtain ⟨hne, hnumeral, _⟩ := digits?_eq_some_iff.1 (digits?_repr n)
  have hdigits : ∀ c ∈ (Nat.repr n).toList, isBlank c = false := fun c hc =>
    not_blank_of_isDigit (hnumeral c hc)
  apply trimChars_eq_self
  · intro c hc
    cases start with
    | nil => exact hdigits c (List.mem_of_head? hc)
    | cons d start => exact hstart c hc
  · intro c hc
    rw [List.getLast?_append_of_ne_nil _ hne] at hc
    exact hdigits c (List.mem_of_getLast? hc)

/-- The action of a line that asks for a state. A number greater than any 32-bit
    word is not read, and the line has no action; other numbers above the
    greatest of a state stand for that one. -/
theorem action?_state (n : Nat) :
    action? ("state " ++ Nat.repr n) =
      if n ≤ Word.greatest32 then some (.setState (min n greatestRaw)) else none := by
  have htrimmed : trimChars (Nat.repr n).toList = (Nat.repr n).toList :=
    @trimChars_append_repr [] nofun n
  have hword : "state " = "state" ++ " " := by decide
  have hcut : cutWord ("state " ++ Nat.repr n) = ("state", Nat.repr n) := by
    rw [hword]
    exact cut_iff.1 (cut_append (by simp [isBlank]) htrimmed)
  have hkind : fold "state" = "state" := by decide
  simp only [action?, hcut, hkind, ofText?_repr]
  split <;> rfl

/-- Of the lines of a definition one reads as the given text, and no other one
    names an action. -/
def OnlyActs (bytes : List UInt8) (text : String) : Prop :=
  ∃ before raw after, splitAll 10 bytes = before ++ raw :: after ∧
    (dropOneEnd 13 raw).length ≤ 128 ∧ textOf raw = text ∧
    NoEntry (fun name => name = "action" ∨ name = "file-select") before ∧
    NoEntry (fun name => name = "action" ∨ name = "file-select") after

/-- A definition of one line has no other line that could name an action. -/
theorem onlyActs_of_line {bytes : List UInt8} {text : String} (hfree : 10 ∉ bytes)
    (hlength : (dropOneEnd 13 bytes).length ≤ 128) (htext : textOf bytes = text) :
    OnlyActs bytes text := by
  have hlines : splitAll 10 bytes = [] ++ bytes :: [] := by
    rw [splitAll_eq_iff]
    simp [hfree]
  exact ⟨[], bytes, [], hlines, hlength, htext, fun _ hmem => absurd hmem List.not_mem_nil,
    fun _ hmem => absurd hmem List.not_mem_nil⟩

/-- A definition has the action of its only line that names one. -/
theorem OnlyActs.action_eq {bytes : List UInt8} {n : Nat}
    (hacts : OnlyActs bytes ("action state " ++ Nat.repr n)) (language : String) :
    (Line.ofBytes language bytes).action =
      if n ≤ Word.greatest32 then some (.setState (min n greatestRaw)) else none := by
  obtain ⟨before, raw, after, hlines, hlength, htext, _, hafter⟩ := hacts
  have htrimmed : trimChars ("state " ++ Nat.repr n).toList = ("state " ++ Nat.repr n).toList := by
    rw [String.toList_append]
    exact trimChars_append_repr (by simp [isBlank]) n
  have hcut : Cut (textOf raw) "action" ("state " ++ Nat.repr n) := by
    have hword : "action state " = "action" ++ " " ++ "state " := by decide
    rw [htext, hword, String.append_assoc]
    exact cut_append (by simp [isBlank]) htrimmed
  have hfirst : (textOf raw).toList.head? = some 'a' := by
    rw [htext, String.toList_append]
    simp
  have hentry : Entry raw "action" ("state " ++ Nat.repr n) := by
    refine ⟨hlength, ?_, by simp [hfirst], hcut⟩
    rintro hnone
    rw [hnone] at hfirst
    cases hfirst
  have hlast := LastEntry.some hlines hentry (.inl rfl) hafter
  rw [ofBytes_eq_lineFrom, (setBy_action language).lineFrom_eq hlast, Option.elim_some, if_pos rfl,
    action?_state]

end Interlock.Menu
