import Interlock.Proofs.Menu.Move
import Mathlib.Algebra.Group.Int.Defs
import Mathlib.Algebra.Group.Nat.Defs

namespace Interlock.Menu

open Interlock.Number

namespace Navigator

section

variable (n : Navigator)

theorem line_enter (dir : String) : (n.enter dir).line = 0 := by
  unfold enter
  split <;> rfl

theorem line_showMenu (dir : String) : (n.showMenu dir).line = 0 := by
  rw [showMenu, line_enter]

/-- Going up leaves the cursor on the way up, whether a directory or another
    screen follows. -/
theorem line_goUp : n.goUp.value.1.line = 0 := by
  unfold goUp
  split
  · split
    · dsimp only
      rw [line_enter]
    · dsimp only
      rw [line_enter]
  · split
    · rfl
    · dsimp only
      rw [line_enter]

/-- An action puts the cursor on the way up or leaves it where it is. -/
theorem line_perform (action : Action) :
    (n.perform action).value.1.line = 0 ∨ (n.perform action).value.1.line = n.line := by
  unfold perform
  split
  · left
    dsimp only
    rw [line_enter]
  · exact .inl rfl
  · exact .inl rfl
  · left
    dsimp only
    rw [line_enter]
  · exact .inr rfl

/-- Taking an entry of the card always brings another directory on display. -/
theorem line_takeEntry (returnMenu : String) (entry : CardEntry) :
    (n.takeEntry returnMenu entry).value.1.line = 0 := by
  unfold takeEntry
  dsimp only
  split
  · dsimp only
    rw [line_enter]
  · dsimp only
    rw [line_enter]

/-- What stands in a line puts the cursor on the way up or leaves it where it
    is. -/
theorem line_follow (item : Option Item) :
    (n.follow item).value.1.line = 0 ∨ (n.follow item).value.1.line = n.line := by
  unfold follow
  split
  · rename_i line
    split
    · cases line.action with
      | none => exact .inr rfl
      | some action => exact n.line_perform action
    · exact .inr rfl
  · split
    · exact .inr rfl
    · exact .inl (n.line_takeEntry _ _)
  · exact .inr rfl

/-- A click takes the cursor to its place, and on to the way up where another
    directory or screen comes on display. Whether there is a line at the place
    does not matter. -/
theorem line_click (place : Nat) (card : Card) (flags : MachineFlags) :
    (n.click place card flags).value.1.line = 0 ∨
      (n.click place card flags).value.1.line = place := by
  cases place with
  | zero => exact .inl (line_goUp { n with line := 0 })
  | succ place =>
    have hfollows := n.click_follows card flags place
    cases hitems : n.items card flags with
    | error cause =>
      rw [hitems] at hfollows
      rw [hfollows.1]
      exact .inr rfl
    | ok items =>
      rw [hitems] at hfollows
      rw [hfollows.1]
      exact line_follow _ _

/-- The way up is always a line, so a directory has a last one. -/
theorem lineCount_pos {n : Navigator} {card : Card} {flags : MachineFlags} {count : Nat}
    (hcount : (n.lineCount card flags).value = .ok count) : 0 < count := by
  rw [value_lineCount] at hcount
  cases hitems : n.items card flags with
  | error cause =>
    rw [hitems] at hcount
    cases hcount
  | ok items =>
    rw [hitems] at hcount
    cases hcount
    exact Nat.succ_pos _

/-- What a scroll does, by the number of lines of the directory. It fails where
    the lines cannot be counted, and then leaves the navigator as it is. -/
theorem value_scroll_eq (delta : Int) (card : Card) (flags : MachineFlags) :
    (n.scroll delta card flags).value =
      match (n.lineCount card flags).value with
      | .error cause => (n, .error cause)
      | .ok count =>
        let line := (min (scrollTarget n.line delta) (count - 1 : Nat)).toNat
        ({ n with line }, .ok line) := by
  unfold scroll
  rw [Traced.value_bind]
  cases (n.lineCount card flags).value <;> rfl

end

theorem scrollTarget_le (line : Nat) (delta : Int) : scrollTarget line delta ≤ Word.greatest64 := by
  unfold scrollTarget Word.greatest64
  rw [Int.bmod_def]
  omega

/-- A move keeps the cursor a number of 64 bits. Clicks take it to such a
    number, and scrolls to a line of a directory. -/
theorem line_move {n : Navigator} (hline : n.line ≤ Word.greatest64) {m : Move} (hm : m.OnWord) :
    (n.move m).line ≤ Word.greatest64 := by
  have hfirst {line : Nat} (hzero : line = 0) : line ≤ Word.greatest64 := by
    rw [hzero]
    exact Nat.zero_le _
  cases m with
  | openRoot => exact hfirst (n.line_showMenu n.root)
  | called call =>
    cases call with
    | showMenu dir => exact hfirst (n.line_showMenu dir)
    | faultIndicator on => exact hline
  | scroll delta card flags =>
    rw [move, value_scroll_eq]
    cases (n.lineCount card flags).value with
    | error cause => exact hline
    | ok count =>
      have htarget := scrollTarget_le n.line delta
      dsimp only
      omega
  | click place card flags =>
    rcases n.line_click place card flags with hzero | hplace
    · exact hfirst hzero
    · rw [move, hplace]
      exact hm

/-- In every history the cursor is a number of 64 bits. -/
theorem Reached.line_le {root language : String} {n : Navigator}
    (hn : Reached root language n) : n.line ≤ Word.greatest64 := by
  induction hn with
  | start => exact Nat.zero_le _
  | moved _ hm ih => exact line_move ih hm
  | @entered n _ dir =>
    rw [n.line_enter dir]
    exact Nat.zero_le _

/-- A number of 64 bits as a signed one. From the middle of the 64-bit numbers
    on it is negative. -/
def signed (line : Nat) : Int :=
  Int.bmod line (Word.greatest64 + 1)

/-- The sum of a cursor and a distance is not a signed number of 64 bits. -/
def Overflows (line : Nat) (delta : Int) : Prop :=
  signed line + delta < -2 ^ 63 ∨ 2 ^ 63 ≤ signed line + delta

section

variable {line : Nat} {delta : Int} (hline : line ≤ Word.greatest64)
  (hdelta : -2 ^ 31 ≤ delta ∧ delta < 2 ^ 31)

include hline

theorem signed_eq : signed line = if line < 2 ^ 63 then (line : Int) else line - 2 ^ 64 := by
  unfold Word.greatest64 at hline
  unfold signed Word.greatest64
  rw [Int.bmod_def]
  omega

include hdelta

/-- The sum leaves the signed numbers exactly where it crosses the middle of the
    64-bit numbers. -/
theorem overflows_iff :
    Overflows line delta ↔ ¬(line < 2 ^ 63 ↔ (line : Int) + delta < 2 ^ 63) := by
  unfold Overflows
  rw [signed_eq hline]
  unfold Word.greatest64 at hline
  omega

/-- What the wrapped sum is as a number. From the middle of the 64-bit numbers
    on it counts as negative. -/
theorem scrollTarget_eq :
    scrollTarget line delta =
      if line + delta < 2 ^ 63 then line + delta else line + delta - 2 ^ 64 := by
  have hsum : scrollTarget line delta = Int.bmod (signed line + delta) (Word.greatest64 + 1) := rfl
  rw [hsum, signed_eq hline, Int.bmod_def]
  unfold Word.greatest64 at hline ⊢
  omega

/-- Where a scroll of a directory with a number of lines takes the cursor,
    against the line that far away. Clamping a sum that counts as negative leads
    to the first line in place of the last one. -/
theorem scrolled_eq_iff {count : Nat} (hcount : 0 < count) :
    ((min (scrollTarget line delta) (count - 1 : Nat)).toNat : Int) =
        max 0 (min ((count : Int) - 1) (line + delta)) ↔
      line + delta < 2 ^ 63 ∨ count = 1 ∨ (count : Int) - 1 ≤ line + delta - 2 ^ 64 := by
  rw [scrollTarget_eq hline hdelta]
  unfold Word.greatest64 at hline
  omega

end

/-- Whatever was done before, a scroll fails without moving the cursor if the
    directory cannot be listed, and else takes it to a line of the directory.
    That is the line the given distance away, or the first or the last one where
    there is none, exactly unless the sum comes to the middle of the 64-bit
    numbers; from there on, only if there is no line but the first, or if the
    sum runs past all 64-bit numbers and still as far as the last line. The sum
    overflows exactly where it crosses the middle, to either side. -/
theorem scroll_clamps_iff {root language : String} {n : Navigator}
    (hn : Reached root language n) {delta : Int} (hdelta : -2 ^ 31 ≤ delta ∧ delta < 2 ^ 31)
    (card : Card) (flags : MachineFlags) :
    let scrolled := (n.scroll delta card flags).value
    match (n.lineCount card flags).value with
    | .error cause => scrolled = (n, .error cause)
    | .ok count =>
      ∃ line < count, scrolled = ({ n with line }, .ok line) ∧
        ((line : Int) = max 0 (min ((count : Int) - 1) (n.line + delta)) ↔
          n.line + delta < 2 ^ 63 ∨ count = 1 ∨ (count : Int) - 1 ≤ n.line + delta - 2 ^ 64) ∧
        (Overflows n.line delta ↔ ¬(n.line < 2 ^ 63 ↔ n.line + delta < 2 ^ 63)) := by
  intro scrolled
  have hline : n.line ≤ Word.greatest64 := hn.line_le
  have hscrolled : scrolled = _ := n.value_scroll_eq delta card flags
  cases hcount : (n.lineCount card flags).value with
  | error cause => rw [hscrolled, hcount]
  | ok count =>
    have hpositive := lineCount_pos hcount
    rw [hscrolled, hcount]
    refine ⟨_, ?_, rfl, scrolled_eq_iff hline hdelta hpositive, overflows_iff hline hdelta⟩
    omega

/-- A card on which every directory holds one definition, which cannot be read
    and gives a blank line. -/
def blankCard : Card where
  list _ := .ok [⟨"1.txt", false, 0⟩]
  read _ := .error .menuFile

/-- The root menu on display, with the cursor on a line. -/
def rootMenu (line : Nat) : Navigator :=
  { root := "/sd/menu", language := "en", path := "/sd/menu", line, screen := .menu }

theorem value_lineCount_blank (line : Nat) :
    ((rootMenu line).lineCount blankCard {}).value = .ok 2 := by
  rw [value_lineCount]
  rfl

/-- A click on a blank line, or below the last one, does nothing but take the
    cursor there. -/
theorem reached_rootMenu (place : Nat) (hplace : place + 1 ≤ Word.greatest64) :
    Reached "/sd/menu" "en" (rootMenu (place + 1)) := by
  have hfollows := (rootMenu 0).click_follows blankCard {} place
  have hitems : (rootMenu 0).items blankCard {} = .ok [.line {}] := rfl
  rw [hitems] at hfollows
  have hclicked : (rootMenu 0).move (.click (place + 1) blankCard {}) = rootMenu (place + 1) :=
    calc (rootMenu 0).move (.click (place + 1) blankCard {})
        = ((rootMenu (place + 1)).follow [Item.line {}][place]?).value.1 := by
          rw [move, hfollows.1]
          rfl
      _ = rootMenu (place + 1) := by cases place <;> rfl
  have hopened : Reached "/sd/menu" "en" ((ofRoot "/sd/menu" "en").move .openRoot) :=
    .moved .start trivial
  rw [← hclicked]
  exact .moved hopened hplace

/-- From line 7, where there is none, three lines up lead to the last line. -/
theorem scroll_clamps_blank :
    Reached "/sd/menu" "en" (rootMenu 7) ∧ (-2 ^ 31 ≤ (-3 : Int) ∧ (-3 : Int) < 2 ^ 31) ∧
      ((rootMenu 7).lineCount blankCard {}).value = .ok 2 ∧
      ((rootMenu 7).scroll (-3) blankCard {}).value = (rootMenu 1, .ok 1) := by
  have hn : Reached "/sd/menu" "en" (rootMenu 7) := reached_rootMenu 6 (by decide)
  have hdelta : -2 ^ 31 ≤ (-3 : Int) ∧ (-3 : Int) < 2 ^ 31 := by decide
  have hscroll := scroll_clamps_iff hn hdelta blankCard {}
  rw [value_lineCount_blank] at hscroll
  obtain ⟨line, -, hscrolled, hclamped, -⟩ := hscroll
  have hline : (line : Int) = 1 := hclamped.2 (.inl (by decide))
  obtain rfl : line = 1 := by exact_mod_cast hline
  exact ⟨hn, hdelta, value_lineCount_blank 7, hscrolled⟩

/-- From the middle of the 64-bit numbers, no lines down lead to the first line,
    where the last one is nearest. -/
theorem scroll_from_middle :
    Reached "/sd/menu" "en" (rootMenu (2 ^ 63)) ∧
      ((rootMenu (2 ^ 63)).lineCount blankCard {}).value = .ok 2 ∧
      ((rootMenu (2 ^ 63)).scroll 0 blankCard {}).value = (rootMenu 0, .ok 0) ∧
      max 0 (min ((2 : Int) - 1) ((rootMenu (2 ^ 63)).line + 0)) = 1 := by
  have hn : Reached "/sd/menu" "en" (rootMenu (2 ^ 63)) :=
    reached_rootMenu (2 ^ 63 - 1) (by decide)
  have htarget : scrollTarget (2 ^ 63) 0 = -2 ^ 63 := by decide
  have hscrolled : ((rootMenu (2 ^ 63)).scroll 0 blankCard {}).value = (rootMenu 0, .ok 0) := by
    rw [value_scroll_eq, value_lineCount_blank]
    dsimp only [rootMenu]
    rw [htarget]
    rfl
  exact ⟨hn, value_lineCount_blank _, hscrolled, by decide⟩

end Navigator

end Interlock.Menu
