import Interlock.Proofs.Menu.Directive
import Mathlib.Data.List.Induction

namespace Interlock.Menu

open Interlock.Text

/-- The text of a line: without one carriage return at its end, and without
    blanks around. -/
def textOf (raw : List UInt8) : String :=
  trim (Utf8.decodeLossy (dropOneEnd 13 raw))

/-- A line names a directive, and has the given text behind the name. -/
structure Entry (raw : List UInt8) (name rest : String) : Prop where
  length_le : (dropOneEnd 13 raw).length ≤ 128
  text_ne : textOf raw ≠ ""
  no_comment : (textOf raw).toList.head? ≠ some '#'
  cut : Cut (textOf raw) name rest

/-- A line names one directive, as it is cut behind its first word. -/
theorem Entry.unique {raw : List UInt8} {name rest name' rest' : String}
    (hentry : Entry raw name rest)
    (hagain : Entry raw name' rest') : name' = name ∧ rest' = rest :=
  Prod.mk.inj ((cut_iff.1 hagain.cut).symm.trans (cut_iff.1 hentry.cut))

/-- A line says something unless it is too long, blank, or a comment. -/
theorem lineText?_eq_some_iff {raw : List UInt8} {text : String} :
    lineText? (dropOneEnd 13 raw) = some text ↔
      (dropOneEnd 13 raw).length ≤ 128 ∧ textOf raw ≠ "" ∧ (textOf raw).toList.head? ≠ some '#' ∧
        textOf raw = text := by
  unfold lineText?
  dsimp only
  rw [Option.ite_none_left_eq_some, Option.ite_none_left_eq_some, Nat.not_lt, Bool.or_eq_true,
    decide_eq_true_iff, decide_eq_true_iff, not_or, Option.some.injEq, and_assoc]
  rfl

/-- The directive that a line of a definition stands for. -/
def meaning? (language : String) (raw : List UInt8) : Option Directive :=
  lineDirective? language (dropOneEnd 13 raw)

/-- A line stands for a directive exactly if it names one that means it. -/
theorem meaning?_eq_some_iff {language : String} {raw : List UInt8} {d : Directive} :
    meaning? language raw = some d ↔
      ∃ name rest, Entry raw name rest ∧ Means language name rest d := by
  rw [meaning?, lineDirective?, Option.bind_eq_some_iff]
  constructor
  · rintro ⟨text, htext, hmeans⟩
    obtain ⟨hlength, hsome, hcomment, rfl⟩ := lineText?_eq_some_iff.1 htext
    exact ⟨_, _, ⟨hlength, hsome, hcomment, cut_iff.2 rfl⟩, directive?_eq_some_iff.1 hmeans⟩
  · rintro ⟨name, rest, ⟨hlength, hsome, hcomment, hcut⟩, hmeans⟩
    refine ⟨_, lineText?_eq_some_iff.2 ⟨hlength, hsome, hcomment, rfl⟩, ?_⟩
    rw [cut_iff.1 hcut]
    exact directive?_eq_some_iff.2 hmeans

/-- None of the lines has one of some names. -/
def NoEntry (names : String → Prop) (lines : List (List UInt8)) : Prop :=
  ∀ raw ∈ lines, ∀ name rest, Entry raw name rest → ¬names name

/-- The last line with one of some names, if there is such a line. -/
inductive LastEntry (names : String → Prop) (lines : List (List UInt8)) :
    Option (String × String) → Prop
  | none (quiet : NoEntry names lines) : LastEntry names lines none
  | some {before after : List (List UInt8)} {raw : List UInt8} {name rest : String}
    (lines_eq : lines = before ++ raw :: after) (entry : Entry raw name rest) (named : names name)
    (quiet : NoEntry names after) : LastEntry names lines (some (name, rest))

/-- Of any lines there is a last one with one of the names, or none has one. The
    induction is on the lines from the end: the last line is such a one, or it
    may follow those that are. -/
theorem exists_lastEntry (names : String → Prop) (lines : List (List UInt8)) :
    ∃ said, LastEntry names lines said := by
  induction lines using List.reverseRecOn with
  | nil => exact ⟨none, .none fun raw hraw => absurd hraw List.not_mem_nil⟩
  | append_singleton lines raw ih =>
    by_cases hentry : ∃ name rest, Entry raw name rest ∧ names name
    · obtain ⟨name, rest, hentry, hnamed⟩ := hentry
      exact ⟨_, .some rfl hentry hnamed fun raw hraw => absurd hraw List.not_mem_nil⟩
    · have hlater {after : List (List UInt8)} (hquiet : NoEntry names after) :
          NoEntry names (after ++ [raw]) := by
        intro other hother name rest hother' hnamed
        rcases List.mem_append.1 hother with hafter | hlast
        · exact hquiet other hafter name rest hother' hnamed
        · exact hentry ⟨name, rest, List.mem_singleton.1 hlast ▸ hother', hnamed⟩
      obtain ⟨_, hquiet | ⟨rfl, hfound, hnamed, hquiet⟩⟩ := ih
      · exact ⟨_, .none (hlater hquiet)⟩
      · exact ⟨_, .some (List.append_assoc _ _ _) hfound hnamed (hlater hquiet)⟩

/-- There is a last line with a name exactly if there is any. -/
theorem LastEntry.isSome_iff {word : String} {lines : List (List UInt8)}
    {said : Option (String × String)} (hlast : LastEntry (· = word) lines said) :
    said.isSome ↔ ∃ raw ∈ lines, ∃ rest, Entry raw word rest := by
  cases hlast with
  | none hquiet =>
    refine iff_of_false Bool.false_ne_true ?_
    rintro ⟨raw, hraw, rest, hentry⟩
    exact hquiet raw hraw word rest hentry rfl
  | some lines_eq hentry hnamed =>
    exact iff_of_true rfl ⟨_, by simp [lines_eq], _, hnamed ▸ hentry⟩

/-- The menu line that lines of a definition make up. -/
def lineFrom (language : String) (lines : List (List UInt8)) : Line :=
  (lines.filterMap (meaning? language)).foldl Directive.apply {}

theorem ofBytes_eq_lineFrom (language : String) (bytes : List UInt8) :
    Line.ofBytes language bytes = lineFrom language (splitAll 10 bytes) := by
  rw [Line.ofBytes, directives, rawLines, List.filterMap_map]
  rfl

/-- A part of the menu line is set by each line with one of some names, to a
    value that depends on the text behind the name, and kept by the other lines. -/
structure SetBy {γ : Type} (language : String) (part : Line → γ) (names : String → Prop)
    (value : String → String → γ) : Prop where
  sets : ∀ {name} rest, names name →
    ∃ d, Means language name rest d ∧ ∀ line, part (d.apply line) = value name rest
  keeps : ∀ {name rest d}, Means language name rest d → ¬names name →
    ∀ line, part (d.apply line) = part line

section

variable {γ : Type} {language : String} {part : Line → γ} {names : String → Prop}
  {value : String → String → γ}

/-- Lines without one of the names keep the part, however many there are. -/
theorem SetBy.foldl_of_noEntry (hset : SetBy language part names value)
    {lines : List (List UInt8)} (hquiet : NoEntry names lines) (line : Line) :
    part ((lines.filterMap (meaning? language)).foldl Directive.apply line) = part line := by
  induction lines generalizing line with
  | nil => rfl
  | cons raw lines ih =>
    obtain ⟨hraw, hlines⟩ := List.forall_mem_cons.1 hquiet
    cases hmeaning : meaning? language raw with
    | none =>
      rw [List.filterMap_cons_none hmeaning]
      exact ih hlines line
    | some d =>
      obtain ⟨name, rest, hentry, hmeans⟩ := meaning?_eq_some_iff.1 hmeaning
      rw [List.filterMap_cons_some hmeaning, List.foldl_cons, ih hlines]
      exact hset.keeps hmeans (hraw name rest hentry) line

/-- The last line that sets a part of the menu line counts: it sets the part
    whatever stood there, and the lines behind it keep what it set. -/
theorem SetBy.lineFrom_eq (hset : SetBy language part names value) {lines : List (List UInt8)}
    {said : Option (String × String)} (hlast : LastEntry names lines said) :
    part (lineFrom language lines) = said.elim (part {}) fun said => value said.1 said.2 := by
  cases hlast with
  | none hquiet => exact hset.foldl_of_noEntry hquiet {}
  | @some before after raw name rest lines_eq hentry hnamed hquiet =>
    -- Whatever the lines before have set is overwritten here, and nothing after it changes it.
    subst lines_eq
    obtain ⟨d, hmeans, hvalue⟩ := hset.sets rest hnamed
    have hmeaning : meaning? language raw = some d :=
      meaning?_eq_some_iff.2 ⟨name, rest, hentry, hmeans⟩
    rw [lineFrom, List.filterMap_append, List.filterMap_cons_some hmeaning, List.foldl_append,
      List.foldl_cons, hset.foldl_of_noEntry hquiet, hvalue]
    rfl

end

/-- The label is set by the name of the language. -/
theorem setBy_label (language : String) :
    SetBy language Line.label (· = "label-" ++ language) fun _ rest => rest where
  sets rest hname := ⟨_, .label hname, fun _ => rfl⟩
  keeps hmeans hother _ := by
    cases hmeans with
    | label name_eq => exact absurd name_eq hother
    | _ => simp only [Directive.apply]

/-- A directive is about a condition when it has the name of it, which may end
    in `-is`. -/
def IsAbout (c : Condition) (name : String) : Prop :=
  ∃ condition, name = "only-if-" ++ condition ∧ c.IsNamed condition

/-- The value that a condition has to have is set by the directives that are
    about it. -/
theorem setBy_expected (language : String) (c : Condition) :
    SetBy language (·.expected c) (IsAbout c) fun _ rest => some (flagOf rest) where
  sets rest hname := by
    obtain ⟨condition, hname, hnamed⟩ := hname
    exact ⟨_, .onlyIf hname hnamed, fun _ => if_pos rfl⟩
  keeps hmeans hother _ := by
    cases hmeans with
    | onlyIf name_eq named =>
      refine if_neg ?_
      rintro rfl
      exact hother ⟨_, name_eq, named⟩
    | _ => simp only [Directive.apply]

/-- A title is made by one name, whatever follows it. -/
theorem setBy_isTitle (language : String) :
    SetBy language Line.isTitle (· = "is-title") fun _ _ => true where
  sets rest hname := ⟨_, .isTitle hname, fun _ => rfl⟩
  keeps hmeans hother _ := by
    cases hmeans with
    | isTitle name_eq => exact absurd name_eq hother
    | _ => simp only [Directive.apply]

/-- A line is made not selectable by one name, whatever follows it. -/
theorem setBy_selectable (language : String) :
    SetBy language Line.selectable (· = "not-selectable") fun _ _ => false where
  sets rest hname := ⟨_, .notSelectable hname, fun _ => rfl⟩
  keeps hmeans hother _ := by
    cases hmeans with
    | notSelectable name_eq => exact absurd name_eq hother
    | _ => simp only [Directive.apply]

/-- The action is set under two names, which replace each other. An action that
    cannot be understood replaces an earlier one too, by none. -/
theorem setBy_action (language : String) :
    SetBy language Line.action (fun name => name = "action" ∨ name = "file-select")
      fun name rest => if name = "action" then action? rest else fileSelect? rest where
  sets rest hname := by
    rcases hname with rfl | rfl
    · exact ⟨_, .action rfl, fun _ => by simp [Directive.apply]⟩
    · exact ⟨_, .fileSelect rfl, fun _ => by simp [Directive.apply]⟩
  keeps hmeans hother _ := by
    cases hmeans with
    | action name_eq => exact absurd (.inl name_eq) hother
    | fileSelect name_eq => exact absurd (.inr name_eq) hother
    | _ => simp only [Directive.apply]

/-- What the lines of a definition say about each part of the menu line. -/
structure Reads (language : String) (lines : List (List UInt8)) (line : Line) : Prop where
  label : ∃ said, LastEntry (· = "label-" ++ language) lines said ∧
    line.label = said.elim "" Prod.snd
  expected : ∀ c, ∃ said, LastEntry (IsAbout c) lines said ∧
    line.expected c = said.map fun said => decide (said.2.toList.head? = some '1')
  isTitle : line.isTitle = true ↔ ∃ raw ∈ lines, ∃ rest, Entry raw "is-title" rest
  selectable : line.selectable = false ↔ ∃ raw ∈ lines, ∃ rest, Entry raw "not-selectable" rest
  action : ∃ said, LastEntry (fun name => name = "action" ∨ name = "file-select") lines said ∧
    ∀ a, line.action = some a ↔ ∃ name rest, said = some (name, rest) ∧
      (name = "action" ∧ Describes rest a ∨ name = "file-select" ∧ Selects rest a)

section

variable {language : String} {lines : List (List UInt8)} {said : Option (String × String)}

/-- The last directive about a condition gives the value that it has to have. -/
theorem lineFrom_expected {c : Condition} (hlast : LastEntry (IsAbout c) lines said) :
    (lineFrom language lines).expected c =
      said.map fun said => decide (said.2.toList.head? = some '1') := by
  rw [(setBy_expected language c).lineFrom_eq hlast]
  cases said <;> rfl

/-- One line of the name is enough for a title, as no line takes it back. -/
theorem lineFrom_isTitle_iff : (lineFrom language lines).isTitle = true ↔
    ∃ raw ∈ lines, ∃ rest, Entry raw "is-title" rest := by
  obtain ⟨said, hlast⟩ := exists_lastEntry (· = "is-title") lines
  rw [(setBy_isTitle language).lineFrom_eq hlast, ← hlast.isSome_iff]
  cases said <;> rfl

/-- One line of the name is enough to make the menu line not selectable. -/
theorem lineFrom_selectable_iff : (lineFrom language lines).selectable = false ↔
    ∃ raw ∈ lines, ∃ rest, Entry raw "not-selectable" rest := by
  obtain ⟨said, hlast⟩ := exists_lastEntry (· = "not-selectable") lines
  rw [(setBy_selectable language).lineFrom_eq hlast, ← hlast.isSome_iff]
  cases said <;> simp

/-- The menu line has an action exactly if the last line about one describes it. -/
theorem lineFrom_action_iff
    (hlast : LastEntry (fun name => name = "action" ∨ name = "file-select") lines said)
    {a : Action} : (lineFrom language lines).action = some a ↔
      ∃ name rest, said = some (name, rest) ∧
        (name = "action" ∧ Describes rest a ∨ name = "file-select" ∧ Selects rest a) := by
  rw [(setBy_action language).lineFrom_eq hlast]
  cases hlast with
  | none => simp
  | some _ _ hnamed =>
    rcases hnamed with rfl | rfl
    · simp [action?_eq_some_iff]
    · simp [fileSelect?_eq_some_iff]

attribute [ext] Line

/-- The grammar describes one menu line, the one that the lines make up: it says
    something of every part. -/
theorem reads_iff {line : Line} : Reads language lines line ↔ line = lineFrom language lines := by
  constructor
  · rintro ⟨⟨_, hlabel, hlabel'⟩, hexpected, htitle, hselectable, ⟨_, haction, haction'⟩⟩
    apply Line.ext
    · exact hlabel'.trans ((setBy_label language).lineFrom_eq hlabel).symm
    · exact Bool.eq_iff_iff.2 (htitle.trans lineFrom_isTitle_iff.symm)
    · exact Bool.not_inj (Bool.eq_iff_iff.2 (by
        simpa using hselectable.trans lineFrom_selectable_iff.symm))
    · funext c
      obtain ⟨_, hlast, hexpected'⟩ := hexpected c
      exact hexpected'.trans (lineFrom_expected hlast).symm
    · exact Option.ext fun a => (haction' a).trans (lineFrom_action_iff haction).symm
  · rintro rfl
    obtain ⟨_, hlabel⟩ := exists_lastEntry (· = "label-" ++ language) lines
    obtain ⟨_, haction⟩ :=
      exists_lastEntry (fun name => name = "action" ∨ name = "file-select") lines
    exact {
      label := ⟨_, hlabel, (setBy_label language).lineFrom_eq hlabel⟩
      expected := fun c =>
        have ⟨_, hexpected⟩ := exists_lastEntry (IsAbout c) lines
        ⟨_, hexpected, lineFrom_expected hexpected⟩
      isTitle := lineFrom_isTitle_iff
      selectable := lineFrom_selectable_iff
      action := ⟨_, haction, fun _ => lineFrom_action_iff haction⟩ }

end

/-- A line that means nothing. -/
inductive Noise (language : String) (raw : List UInt8) : Prop
  | overlong (length_gt : 128 < (dropOneEnd 13 raw).length)
  | blank (text_eq : textOf raw = "")
  | comment (starts : (textOf raw).toList.head? = some '#')
  | otherLabel {other rest : String} (entry : Entry raw ("label-" ++ other) rest)
    (other_ne : other ≠ language)
  | unknownCondition {condition rest : String} (entry : Entry raw ("only-if-" ++ condition) rest)
    (unnamed : ∀ c : Condition, ¬c.IsNamed condition)
  | unknown {name rest : String} (entry : Entry raw name rest)
    (not_label : ∀ other, name ≠ "label-" ++ other)
    (not_condition : ∀ condition, name ≠ "only-if-" ++ condition)
    (not_word : name ∉ ["is-title", "not-selectable", "action", "file-select"])

/-- A line of noise stands for no directive. A line has one name only, and the
    names of all directives differ, so each kind of noise excludes every
    directive. -/
theorem Noise.meaning?_eq_none {language : String} {raw : List UInt8}
    (hnoise : Noise language raw) :
    meaning? language raw = none := by
  refine Option.eq_none_iff_forall_ne_some.2 fun d hmeaning => ?_
  obtain ⟨name, rest, hentry, hmeans⟩ := meaning?_eq_some_iff.1 hmeaning
  cases hnoise with
  | overlong hlength => exact absurd hentry.length_le (Nat.not_le.2 hlength)
  | blank htext => exact hentry.text_ne htext
  | comment hstarts => exact hentry.no_comment hstarts
  | otherLabel hother hne =>
    obtain ⟨rfl, _⟩ := hother.unique hentry
    cases hmeans with
    -- The names of all directives differ in their first letters.
    | label name_eq => exact hne ((String.append_right_inj _).1 name_eq)
    | onlyIf name_eq | isTitle name_eq | notSelectable name_eq | action name_eq
    | fileSelect name_eq => exact ne_of_head?_ne (by simp) name_eq
  | unknownCondition hcondition hunnamed =>
    obtain ⟨rfl, _⟩ := hcondition.unique hentry
    cases hmeans with
    | onlyIf name_eq named =>
      obtain rfl := (String.append_right_inj _).1 name_eq
      exact hunnamed _ named
    | label name_eq | isTitle name_eq | notSelectable name_eq | action name_eq
    | fileSelect name_eq => exact ne_of_head?_ne (by simp) name_eq
  | unknown hunknown hlabel hcondition hword =>
    obtain ⟨rfl, _⟩ := hunknown.unique hentry
    cases hmeans with
    | label name_eq => exact hlabel _ name_eq
    | onlyIf name_eq => exact hcondition _ name_eq
    | isTitle name_eq | notSelectable name_eq | action name_eq | fileSelect name_eq =>
      exact hword (by simp [name_eq])

theorem lineFrom_insert {language : String} {noise : List UInt8} (hnoise : Noise language noise)
    (before after : List (List UInt8)) :
    lineFrom language (before ++ noise :: after) = lineFrom language (before ++ after) := by
  rw [lineFrom, List.filterMap_append, List.filterMap_cons_none hnoise.meaning?_eq_none,
    ← List.filterMap_append, lineFrom]

/-- A carriage return before every line feed. -/
def withReturns (bytes : List UInt8) : List UInt8 :=
  bytes.flatMap fun b => if b = 10 then [13, 10] else [b]

/-- A first character is dropped only if it is the last one, so another one
    stays. -/
theorem dropOneEnd_cons {c last : UInt8} (hne : c ≠ last) (cs : List UInt8) :
    dropOneEnd last (c :: cs) = c :: dropOneEnd last cs := by
  cases cs with
  | nil => simp [dropOneEnd, hne]
  | cons d cs =>
    unfold dropOneEnd
    rw [List.getLast?_cons_cons, List.dropLast_cons_cons]
    split <;> rfl

theorem rawLines_lineFeed (bytes : List UInt8) : rawLines (10 :: bytes) = [] :: rawLines bytes := by
  rw [rawLines, splitAll_separator_cons]
  rfl

/-- A line feed with a carriage return before it ends the line where the
    carriage return stands. -/
theorem rawLines_return_lineFeed (bytes : List UInt8) :
    rawLines (13 :: 10 :: bytes) = [] :: rawLines bytes := by
  rw [rawLines, splitAll_cons_of_ne (by decide), splitAll_separator_cons]
  rfl

/-- A byte that is part of no line end belongs to the line that follows. -/
theorem rawLines_cons {b : UInt8} (hfeed : b ≠ 10) (hreturn : b ≠ 13) (bytes : List UInt8) :
    rawLines (b :: bytes) = (rawLines bytes).modifyHead (b :: ·) := by
  rw [rawLines, splitAll_cons_of_ne hfeed, rawLines]
  cases splitAll 10 bytes with
  | nil => rfl
  | cons piece pieces => rw [List.modifyHead_cons, List.map_cons, dropOneEnd_cons hreturn]; rfl

/-- Carriage returns before the line feeds leave the lines as they are. There
    must be none before, since a line loses one carriage return only. -/
theorem rawLines_withReturns {bytes : List UInt8} (hfree : 13 ∉ bytes) :
    rawLines (withReturns bytes) = rawLines bytes := by
  induction bytes with
  | nil => rfl
  | cons b bytes ih =>
    obtain ⟨hreturn, hrest⟩ := not_or.1 (List.mem_cons.not.1 hfree)
    rw [withReturns, List.flatMap_cons, ← withReturns]
    split_ifs with hfeed
    · subst hfeed
      rw [rawLines_lineFeed, ← ih hrest]
      exact rawLines_return_lineFeed _
    · rw [rawLines_cons hfeed (Ne.symm hreturn), ← ih hrest]
      exact rawLines_cons hfeed (Ne.symm hreturn) _

/-- A definition gives the only menu line that its lines describe. Lines that
    mean nothing can be inserted anywhere, and line feeds can have carriage
    returns before them. -/
theorem ofBytes_grammar (language : String) (bytes : List UInt8) :
    ∃ lines : List (List UInt8),
      lines ≠ [] ∧ (∀ raw ∈ lines, 10 ∉ raw) ∧ [10].intercalate lines = bytes ∧
      (∀ line, Reads language lines line ↔ line = Line.ofBytes language bytes) ∧
      (∀ before noise after, lines = before ++ after → 10 ∉ noise → Noise language noise →
        Line.ofBytes language ([10].intercalate (before ++ noise :: after)) =
          Line.ofBytes language bytes) ∧
      (13 ∉ bytes → Line.ofBytes language (withReturns bytes) = Line.ofBytes language bytes) := by
  obtain ⟨hsome, hfree, hjoin⟩ := splitAll_eq_iff.1 (rfl : splitAll 10 bytes = _)
  refine ⟨splitAll 10 bytes, hsome, hfree, hjoin, fun line => ?_, ?_, fun hreturns => ?_⟩
  · rw [ofBytes_eq_lineFrom]
    exact reads_iff
  · intro before noise after hlines hnoise hsilent
    have hsplit : splitAll 10 ([10].intercalate (before ++ noise :: after)) =
        before ++ noise :: after := by
      obtain ⟨hbefore, hafter⟩ := List.forall_mem_append.1 (hlines ▸ hfree)
      have hall := List.forall_mem_append.2 ⟨hbefore, List.forall_mem_cons.2 ⟨hnoise, hafter⟩⟩
      exact splitAll_eq_iff.2 ⟨by simp, hall, rfl⟩
    rw [ofBytes_eq_lineFrom, hsplit, lineFrom_insert hsilent, ← hlines, ← ofBytes_eq_lineFrom]
  · rw [Line.ofBytes, directives, rawLines_withReturns hreturns]
    rfl

end Interlock.Menu
