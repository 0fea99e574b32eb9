import Interlock.Menu.Definition
import Interlock.Proofs.Text.Digits
import Interlock.Proofs.Text.Pieces
import Mathlib.Tactic.SplitIfs

namespace Interlock.Menu

open Interlock.Text Interlock.Number

/-- A text goes on after a start with what is left of it. -/
theorem textAfter?_eq_some_iff {start text after : String} :
    textAfter? start text = some after ↔ text = start ++ after := by
  unfold textAfter?
  rw [Option.ite_none_right_eq_some, List.isPrefixOf_iff_prefix, Option.some.injEq]
  constructor
  · rintro ⟨⟨tail, htail⟩, rfl⟩
    rw [← String.toList_inj, String.toList_append, String.toList_ofList, ← htail, List.drop_left]
  · rintro rfl
    rw [String.toList_append, List.drop_left, String.ofList_toList]
    exact ⟨List.prefix_append _ _, rfl⟩

theorem textAfter?_eq_none_iff {start text : String} :
    textAfter? start text = none ↔ ∀ after, text ≠ start ++ after := by
  rw [Option.eq_none_iff_forall_ne_some]
  exact forall_congr' fun after => not_congr textAfter?_eq_some_iff

theorem ne_of_head?_ne {a b : String} (hne : a.toList.head? ≠ b.toList.head?) : a ≠ b :=
  fun hsame => hne (hsame ▸ rfl)

namespace Condition

/-- A condition is named with or without `-is` at the end. -/
def IsNamed (c : Condition) (text : String) : Prop :=
  text = c.name ∨ text = c.name ++ "-is"

/-- A condition is found by its name and by no other, as names are distinct. -/
theorem ofName?_eq_some_iff {text : String} {c : Condition} :
    ofName? text = some c ↔ c.name = text := by
  constructor
  · intro hfound
    simpa using List.find?_some hfound
  · rintro rfl
    cases c <;> rfl

/-- Without one ending `-is` a text is the name of a condition exactly if it
    names the condition with or without it. No name ends in `-is` itself. -/
theorem stripIs_eq_name_iff {text : String} {c : Condition} :
    stripIs text = c.name ↔ c.IsNamed text := by
  constructor
  · unfold stripIs
    dsimp only
    split
    · rename_i hends
      intro hname
      right
      rw [← hname, ← String.toList_inj, String.toList_append, String.toList_ofList]
      exact ((List.take_append_drop _ _).symm.trans (congrArg _ (beq_iff_eq.1 hends)))
    · exact .inl
  · rintro (rfl | rfl) <;> cases c <;> rfl

theorem ofDirective?_eq_some_iff {text : String} {c : Condition} :
    ofDirective? text = some c ↔ c.IsNamed text := by
  rw [ofDirective?, ofName?_eq_some_iff, ← stripIs_eq_name_iff, eq_comm]

end Condition

/-- A numeral is made of digits, at least one, and may start with a plus sign. -/
def IsNumeral (text : String) (n : Nat) : Prop :=
  ∃ digits, (text.toList = digits ∨ text.toList = '+' :: digits) ∧ digits ≠ [] ∧
    (∀ c ∈ digits, isDigit c = true) ∧ n = Nat.ofDigitChars 10 digits 0

/-- A word is read from the numerals of the numbers within its bound. -/
theorem ofText?_eq_some_iff {greatest n : Nat} {text : String} :
    Word.ofText? greatest text = some n ↔ IsNumeral text n ∧ n ≤ greatest := by
  unfold Word.ofText?
  rw [Option.filter_eq_some_iff, decide_eq_true_iff]
  refine and_congr_left fun _ => ?_
  constructor
  · intro hread
    split at hread
    · rename_i digits htext
      exact ⟨digits, .inr htext, digits?_eq_some_iff.1 hread⟩
    · exact ⟨text.toList, .inl rfl, digits?_eq_some_iff.1 hread⟩
  · rintro ⟨digits, htext, hdigits⟩
    rcases htext with rfl | htext
    · split
      · rename_i htext
        exact absurd (hdigits.2.1 '+' (htext ▸ List.mem_cons_self)) (by decide)
      · exact digits?_eq_some_iff.2 hdigits
    · rw [htext]
      exact digits?_eq_some_iff.2 hdigits

/-- The text has two words, which are the directories of a file selection. -/
inductive Selects (text : String) : Action → Prop
  | intro {start returnMenu : String} {rest more : List Char}
    (first : FirstWord text.toList start.toList rest)
    (second : FirstWord rest returnMenu.toList more) : Selects text (.fileSelect start returnMenu)

/-- A file is selected by the first two words of a text; more may follow. -/
theorem fileSelect?_eq_some_iff {text : String} {a : Action} :
    fileSelect? text = some a ↔ Selects text a := by
  constructor
  · unfold fileSelect?
    intro hread
    split at hread
    · rename_i start returnMenu more hwords
      obtain ⟨rest, more, hfirst, hsecond⟩ := words_eq_iff.1 ⟨more, hwords⟩
      obtain rfl := Option.some.inj hread
      exact .intro hfirst hsecond
    · contradiction
  · rintro ⟨hfirst, hsecond⟩
    obtain ⟨more, hwords⟩ := words_eq_iff.2 ⟨_, _, hfirst, hsecond⟩
    rw [fileSelect?, hwords]

/-- The text of an action: its kind in letters of any case, and what the kind
    needs. -/
inductive Describes (text : String) : Action → Prop
  | gotoMenu {kind path : String} (cut : Cut text kind path) (kind_eq : fold kind = "goto-menu")
    (path_ne : path ≠ "") : Describes text (.gotoMenu path)
  | runCommand {kind command : String} (cut : Cut text kind command)
    (kind_eq : fold kind = "run-command") (command_ne : command ≠ "") :
    Describes text (.runCommand command)
  | gotoWatch {kind rest : String} (cut : Cut text kind rest)
    (kind_eq : fold kind = "display-watch-screen") : Describes text .gotoWatch
  | fileSelect {kind param : String} {a : Action} (cut : Cut text kind param)
    (kind_eq : fold kind = "file-select") (selects : Selects param a) : Describes text a
  | setState {kind param : String} {n : Nat} (cut : Cut text kind param)
    (kind_eq : fold kind = "state") (numeral : IsNumeral param n) (n_le : n ≤ Word.greatest32) :
    Describes text (.setState (min n greatestRaw))

/-- An action is read from the texts that describe it, and from no others. The
    texts start differently, so that at most one of the readings applies. -/
theorem action?_eq_some_iff {text : String} {a : Action} :
    action? text = some a ↔ Describes text a := by
  constructor
  · unfold action?
    dsimp only
    have hcut : Cut text (cutWord text).1 (cutWord text).2 := cut_iff.2 rfl
    intro hread
    split at hread
    · rename_i hkind
      obtain ⟨hpath, haction⟩ := Option.ite_none_left_eq_some.1 hread
      cases haction
      exact .gotoMenu hcut hkind hpath
    · rename_i hkind
      obtain ⟨hcommand, haction⟩ := Option.ite_none_left_eq_some.1 hread
      cases haction
      exact .runCommand hcut hkind hcommand
    · rename_i hkind
      cases hread
      exact .gotoWatch hcut hkind
    · rename_i hkind
      exact .fileSelect hcut hkind (fileSelect?_eq_some_iff.1 hread)
    · rename_i hkind
      obtain ⟨n, hnumber, rfl⟩ := Option.map_eq_some_iff.1 hread
      obtain ⟨hnumeral, hbound⟩ := ofText?_eq_some_iff.1 hnumber
      exact .setState hcut hkind hnumeral hbound
    · cases hread
  · rintro (⟨hcut, hkind, hpath⟩ | ⟨hcut, hkind, hcommand⟩ | ⟨hcut, hkind⟩ |
      ⟨hcut, hkind, hselects⟩ | ⟨hcut, hkind, hnumeral, hbound⟩) <;>
      simp only [action?, cut_iff.1 hcut, hkind]
    · exact if_neg hpath
    · exact if_neg hcommand
    · exact fileSelect?_eq_some_iff.2 hselects
    · rw [ofText?_eq_some_iff.2 ⟨hnumeral, hbound⟩]
      rfl

/-- The meaning of a directive with a name and the text after it. -/
inductive Means (language name rest : String) : Directive → Prop
  | label (name_eq : name = "label-" ++ language) : Means language name rest (.label rest)
  | onlyIf {condition : String} {c : Condition} (name_eq : name = "only-if-" ++ condition)
    (named : c.IsNamed condition) : Means language name rest (.onlyIf c (flagOf rest))
  | isTitle (name_eq : name = "is-title") : Means language name rest .isTitle
  | notSelectable (name_eq : name = "not-selectable") : Means language name rest .notSelectable
  | action (name_eq : name = "action") : Means language name rest (.action (action? rest))
  | fileSelect (name_eq : name = "file-select") :
    Means language name rest (.action (fileSelect? rest))

/-- A directive is read where a name means it. No name means two directives:
    labels and conditions are told apart from the fixed names by how they start. -/
theorem directive?_eq_some_iff {language name rest : String} {d : Directive} :
    directive? language name rest = some d ↔ Means language name rest d := by
  constructor
  · unfold directive?
    intro hread
    split_ifs at hread with hlabel hother
    · obtain rfl := Option.some.inj hread
      exact .label hlabel
    · split at hread
      · rename_i condition hcondition
        obtain ⟨c, hnamed, rfl⟩ := Option.map_eq_some_iff.1 hread
        exact .onlyIf (textAfter?_eq_some_iff.1 hcondition)
          (Condition.ofDirective?_eq_some_iff.1 hnamed)
      · split at hread <;> cases hread
        · exact .isTitle rfl
        · exact .notSelectable rfl
        · exact .action rfl
        · exact .fileSelect rfl
  · intro hmeans
    cases hmeans with
    | label name_eq => exact if_pos name_eq
    | @onlyIf condition c name_eq named =>
      subst name_eq
      have hother : textAfter? "label-" ("only-if-" ++ condition) = none :=
        textAfter?_eq_none_iff.2 fun after => ne_of_head?_ne (by simp)
      have hcondition : textAfter? "only-if-" ("only-if-" ++ condition) = some condition :=
        textAfter?_eq_some_iff.2 rfl
      unfold directive?
      rw [if_neg (ne_of_head?_ne (by simp)), hother, if_neg (by simp), hcondition]
      exact Option.map_eq_some_iff.2 ⟨c, Condition.ofDirective?_eq_some_iff.2 named, rfl⟩
    | isTitle name_eq | notSelectable name_eq | action name_eq | fileSelect name_eq =>
      subst name_eq
      exact (if_neg (ne_of_head?_ne (by simp))).trans rfl

end Interlock.Menu
