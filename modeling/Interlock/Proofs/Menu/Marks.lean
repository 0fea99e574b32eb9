import Interlock.Proofs.Menu.Move

namespace Interlock.Menu

namespace Navigator

/-- The number of marks in a text. -/
def countMarks (first second : Char) : List Char → Nat
  | [] => 0
  | c :: rest =>
    countMarks first second rest + if c = first ∧ rest.head? = some second then 1 else 0

section

variable {first second : Char} {text : List Char}

/-- Where no mark is matched there is none. -/
theorem no_mark {c : Char} {rest : List Char}
    (hother : ∀ rest', c = first → rest = second :: rest' → False) :
    ¬(c = first ∧ rest.head? = some second) := by
  rintro ⟨hc, hhead⟩
  obtain ⟨rest', hrest⟩ := List.head?_eq_some_iff.1 hhead
  exact hother rest' hc hrest

theorem replaceMark_mark (rest : List Char) :
    replaceMark first second text (first :: second :: rest) =
      text ++ replaceMark first second text rest := by
  simp [replaceMark]

/-- A character that begins no mark stays. -/
theorem replaceMark_skip {c : Char} {rest : List Char}
    (hskip : ¬(c = first ∧ rest.head? = some second)) :
    replaceMark first second text (c :: rest) = c :: replaceMark first second text rest := by
  cases rest with
  | nil => rfl
  | cons d rest =>
    have hmark : ¬(c = first ∧ d = second) := fun ⟨hc, hd⟩ => hskip ⟨hc, congrArg some hd⟩
    simp [replaceMark, hmark]

/-- A text without a mark stays as it is. -/
theorem replaceMark_eq_self {label : List Char} (hfree : ¬[first, second] <:+: label) :
    replaceMark first second text label = label := by
  induction label with
  | nil => rfl
  | cons c rest ih =>
    have hskip : ¬(c = first ∧ rest.head? = some second) := no_mark fun rest' hc hrest =>
      hfree ⟨[], rest', by simp [hc, hrest]⟩
    rw [replaceMark_skip hskip, ih fun hinfix => hfree (List.infix_cons hinfix)]

/-- Marks are replaced in two texts one by one, unless the texts meet in a mark.
    The text that is filled in does not matter, as what it brings is not looked
    at again. -/
theorem replaceMark_append {before after : List Char}
    (hmeet : ¬(before.getLast? = some first ∧ after.head? = some second)) :
    replaceMark first second text (before ++ after) =
      replaceMark first second text before ++ replaceMark first second text after := by
  induction before using replaceMark.induct first second with
  | case1 => rfl
  | case2 c => exact replaceMark_skip fun ⟨hc, hhead⟩ => hmeet ⟨congrArg some hc, hhead⟩
  | case3 c d rest hmark ih =>
    simp only [Bool.and_eq_true, decide_eq_true_eq] at hmark
    obtain ⟨rfl, rfl⟩ := hmark
    have hrest : ¬(rest.getLast? = some c ∧ after.head? = some d) := by
      rintro ⟨hlast, hhead⟩
      exact hmeet ⟨by simp [List.getLast?_cons, hlast], hhead⟩
    rw [List.cons_append, List.cons_append, replaceMark_mark, replaceMark_mark, ih hrest,
      List.append_assoc]
  | case4 c d rest hmark ih =>
    have hskip (rest' : List Char) : ¬(c = first ∧ (d :: rest').head? = some second) := by
      simpa using hmark
    have hrest : ¬((d :: rest).getLast? = some first ∧ after.head? = some second) := by
      rwa [List.getLast?_cons_cons] at hmeet
    rw [List.cons_append, List.cons_append, replaceMark_skip (hskip _), replaceMark_skip (hskip _),
      ← List.cons_append, ih hrest, List.cons_append]

/-- Every mark goes with one sign of the kind that it starts with, if the text
    in its place has none. -/
theorem count_replaceMark (hne : first ≠ second) (hfree : first ∉ text) (label : List Char) :
    (replaceMark first second text label).count first + countMarks first second label =
      label.count first := by
  induction label using replaceMark.induct first second with
  | case1 => rfl
  | case2 c => simp [replaceMark, countMarks]
  | case3 c d rest hmark ih =>
    simp only [Bool.and_eq_true, decide_eq_true_eq] at hmark
    obtain ⟨rfl, rfl⟩ := hmark
    have hsigns : (c :: d :: rest).count c = rest.count c + 1 := by simp [hne.symm]
    have hmarks : countMarks c d (c :: d :: rest) = countMarks c d rest + 1 := by
      simp [countMarks, hne.symm]
    rw [replaceMark_mark, List.count_append, List.count_eq_zero_of_not_mem hfree, hmarks, hsigns,
      ← ih, Nat.zero_add, Nat.add_assoc]
  | case4 c d rest hmark ih =>
    have hskip : ¬(c = first ∧ (d :: rest).head? = some second) := by simpa using hmark
    rw [replaceMark_skip hskip, List.count_cons, List.count_cons, ← ih, countMarks, if_neg hskip]
    omega

/-- Two texts have their own marks, and one more if they meet in a mark; no mark
    lies across more than the two characters at the seam. -/
theorem countMarks_append (before after : List Char) :
    countMarks first second (before ++ after) =
      countMarks first second before + countMarks first second after +
        if before.getLast? = some first ∧ after.head? = some second then 1 else 0 := by
  induction before with
  | nil => simp [countMarks]
  | cons c rest ih =>
    cases rest with
    | nil => simp [countMarks]
    | cons d rest =>
      have hcons (rest' : List Char) : countMarks first second (c :: d :: rest') =
          countMarks first second (d :: rest') + if c = first ∧ d = second then 1 else 0 := by
        simp only [countMarks, List.head?_cons, Option.some.injEq]
      rw [List.cons_append] at ih
      rw [List.cons_append, List.cons_append, hcons, hcons, ih, List.getLast?_cons_cons]
      omega

/-- A text with a mark has a positive number of them. -/
theorem countMarks_pos {label : List Char} (hmark : [first, second] <:+: label) :
    0 < countMarks first second label := by
  obtain ⟨before, after, rfl⟩ := hmark
  rw [countMarks_append, countMarks_append]
  simp only [countMarks, List.head?_cons, and_self, if_true]
  omega

end

/-- A label with the name and the size in the places of their marks, in one go
    from left to right. -/
def fillMarks (name size : List Char) : List Char → List Char
  | [] => []
  | '*' :: 'f' :: rest => name ++ fillMarks name size rest
  | '*' :: 's' :: rest => size ++ fillMarks name size rest
  | c :: rest => c :: fillMarks name size rest

/-- A name spells a mark for the size where it is filled in: it has one itself,
    or it meets the label around it in one. The label around it is that with all
    names filled in. -/
inductive Spells (name : List Char) : List Char → Prop
  | within {rest : List Char} (hname : ['*', 's'] <:+: name) : Spells name ('*' :: 'f' :: rest)
  | before {rest : List Char}
    (hhead : (name ++ replaceMark '*' 'f' name rest).head? = some 's') :
    Spells name ('*' :: '*' :: 'f' :: rest)
  | behind {rest : List Char} (hlast : name.getLast? = some '*')
    (hhead : (replaceMark '*' 'f' name rest).head? = some 's') : Spells name ('*' :: 'f' :: rest)
  | later {c : Char} {rest : List Char} (hrest : Spells name rest) : Spells name (c :: rest)

section

variable {name size : List Char}

/-- The names leave the marks for the size alone. -/
theorem replaceMark_size (rest : List Char) :
    replaceMark '*' 'f' name ('*' :: 's' :: rest) =
      '*' :: 's' :: replaceMark '*' 'f' name rest := by
  have hother : ¬('*' = '*' ∧ ('s' :: rest).head? = some 'f') := by simp
  have hletter : ¬('s' = '*' ∧ rest.head? = some 'f') := by simp
  rw [replaceMark_skip hother, replaceMark_skip hletter]

/-- Where a filled label starts like the end of a mark for the size, the label
    starts so itself, or it starts with a mark for which the name is put in. -/
theorem head?_replaceMark {label : List Char}
    (hhead : (replaceMark '*' 'f' name label).head? = some 's') :
    label.head? = some 's' ∨ ∃ rest, label = '*' :: 'f' :: rest ∧
      (name ++ replaceMark '*' 'f' name rest).head? = some 's' := by
  cases label using replaceMark.fun_cases '*' 'f' with
  | case1 => exact .inl hhead
  | case2 c => exact .inl hhead
  | case3 c d rest hmark =>
    simp only [Bool.and_eq_true, decide_eq_true_eq] at hmark
    obtain ⟨rfl, rfl⟩ := hmark
    rw [replaceMark_mark] at hhead
    exact .inr ⟨rest, rfl, hhead⟩
  | case4 c d rest hmark =>
    rw [replaceMark_skip (by simpa using hmark)] at hhead
    exact .inl hhead

/-- Where a name spells no mark, filling in the names and then the sizes is the
    same as filling in both in one go. -/
theorem replaceMark_of_not_spells {label : List Char} (hspells : ¬Spells name label) :
    replaceMark '*' 's' size (replaceMark '*' 'f' name label) = fillMarks name size label := by
  fun_induction fillMarks name size label with
  | case1 => rfl
  | case2 rest ih =>
    have hname : ¬['*', 's'] <:+: name := fun hmark => hspells (.within hmark)
    have hbehind : ¬(name.getLast? = some '*' ∧
        (replaceMark '*' 'f' name rest).head? = some 's') := fun ⟨hlast, hhead⟩ =>
      hspells (.behind hlast hhead)
    rw [replaceMark_mark, replaceMark_append hbehind, replaceMark_eq_self hname,
      ih fun hrest => hspells (.later (.later hrest))]
  | case3 rest ih =>
    rw [replaceMark_size, replaceMark_mark, ih fun hrest => hspells (.later (.later hrest))]
  | case4 c rest hf hs ih =>
    have hskip : ¬(c = '*' ∧ rest.head? = some 'f') := no_mark hf
    have hfree : ¬(c = '*' ∧ (replaceMark '*' 'f' name rest).head? = some 's') := by
      rintro ⟨rfl, hhead⟩
      rcases head?_replaceMark hhead with hown | ⟨rest', rfl, hbefore⟩
      · exact no_mark hs ⟨rfl, hown⟩
      · exact hspells (.before hbefore)
    rw [replaceMark_skip hskip, replaceMark_skip hfree, ih fun hrest => hspells (.later hrest)]

theorem countMarks_name (rest : List Char) :
    countMarks '*' 's' ('*' :: 'f' :: rest) = countMarks '*' 's' rest := by
  simp [countMarks]

/-- Every mark for the size goes with its sign, when name and size are filled in
    together. -/
theorem count_fillMarks (hsize : '*' ∉ size) (label : List Char) :
    (fillMarks name size label).count '*' + countMarks '*' 's' label =
      (replaceMark '*' 'f' name label).count '*' := by
  fun_induction fillMarks name size label with
  | case1 => rfl
  | case2 rest ih =>
    rw [replaceMark_mark, List.count_append, List.count_append, countMarks_name, ← ih,
      Nat.add_assoc]
  | case3 rest ih =>
    have hmarks : countMarks '*' 's' ('*' :: 's' :: rest) = countMarks '*' 's' rest + 1 := by
      simp [countMarks]
    have hsigns (text : List Char) : ('*' :: 's' :: text).count '*' = text.count '*' + 1 := by simp
    rw [replaceMark_size, List.count_append, List.count_eq_zero_of_not_mem hsize, hmarks, hsigns,
      ← ih, Nat.zero_add, Nat.add_assoc]
  | case4 c rest hf hs ih =>
    have hskip : ¬(c = '*' ∧ rest.head? = some 'f') := no_mark hf
    have hfree : ¬(c = '*' ∧ rest.head? = some 's') := no_mark hs
    rw [replaceMark_skip hskip, List.count_cons, List.count_cons, countMarks, if_neg hfree, ← ih]
    omega

/-- A sign that is no mark for the name has no fewer marks for the size behind
    it than before. -/
theorem countMarks_cons_le (name : List Char) {c : Char} {rest : List Char}
    (hskip : ¬(c = '*' ∧ rest.head? = some 'f')) :
    countMarks '*' 's' (c :: rest) + countMarks '*' 's' (replaceMark '*' 'f' name rest) ≤
      countMarks '*' 's' rest + countMarks '*' 's' (replaceMark '*' 'f' name (c :: rest)) := by
  have hkept (hown : c = '*' ∧ rest.head? = some 's') :
      c = '*' ∧ (replaceMark '*' 'f' name rest).head? = some 's' := by
    obtain ⟨hc, hhead⟩ := hown
    obtain ⟨rest', rfl⟩ := List.head?_eq_some_iff.1 hhead
    rw [replaceMark_skip (by simp)]
    exact ⟨hc, rfl⟩
  rw [replaceMark_skip hskip, countMarks, countMarks]
  split_ifs with hown hfilled
  · omega
  · exact absurd (hkept hown) hfilled
  · omega
  · omega

/-- Filling in the names loses no mark for the size: such a mark begins with a
    star that stands in no mark for the name. -/
theorem countMarks_le_replaceMark (name label : List Char) :
    countMarks '*' 's' label ≤ countMarks '*' 's' (replaceMark '*' 'f' name label) := by
  induction label using replaceMark.induct '*' 'f' with
  | case1 => rfl
  | case2 c => rfl
  | case3 c d rest hmark ih =>
    simp only [Bool.and_eq_true, decide_eq_true_eq] at hmark
    obtain ⟨rfl, rfl⟩ := hmark
    rw [replaceMark_mark, countMarks_name, countMarks_append]
    omega
  | case4 c d rest hmark ih =>
    have hskip : ¬(c = '*' ∧ (d :: rest).head? = some 'f') := by simpa using hmark
    have hcons := countMarks_cons_le name hskip
    omega

/-- Each way to spell a mark makes more of them than the label has itself. So it
    shows in the number of signs, and two different labels on display cannot
    agree by accident. -/
theorem Spells.countMarks_lt {label : List Char} (hspells : Spells name label) :
    countMarks '*' 's' label < countMarks '*' 's' (replaceMark '*' 'f' name label) := by
  induction hspells with
  | @within rest hname =>
    have hrest := countMarks_le_replaceMark name rest
    have hpos := countMarks_pos hname
    rw [replaceMark_mark, countMarks_name, countMarks_append]
    omega
  | @before rest hhead =>
    have hrest := countMarks_le_replaceMark name rest
    have hmarks : countMarks '*' 's' ('*' :: '*' :: 'f' :: rest) = countMarks '*' 's' rest := by
      simp [countMarks]
    rw [replaceMark_skip (by simp), replaceMark_mark, hmarks, countMarks, if_pos ⟨rfl, hhead⟩,
      countMarks_append]
    omega
  | @behind rest hlast hhead =>
    have hrest := countMarks_le_replaceMark name rest
    rw [replaceMark_mark, countMarks_name, countMarks_append, if_pos ⟨hlast, hhead⟩]
    omega
  | @later c rest hrest ih =>
    by_cases hmark : c = '*' ∧ rest.head? = some 'f'
    · obtain ⟨rfl, hhead⟩ := hmark
      obtain ⟨rest', rfl⟩ := List.head?_eq_some_iff.1 hhead
      have hletter (text : List Char) :
          countMarks '*' 's' ('f' :: text) = countMarks '*' 's' text := by
        simp [countMarks]
      rw [replaceMark_skip (by simp), hletter, hletter] at ih
      rw [replaceMark_mark, countMarks_name, countMarks_append]
      omega
    · have hcons := countMarks_cons_le name hmark
      omega

/-- A label is filled in as it is meant to be exactly unless the name spells a
    mark in it. The size has no star, so that stars can be counted. -/
theorem replaceMark_eq_fillMarks_iff (hsize : '*' ∉ size) (label : List Char) :
    replaceMark '*' 's' size (replaceMark '*' 'f' name label) = fillMarks name size label ↔
      ¬Spells name label := by
  refine ⟨fun hfilled hspells => ?_, replaceMark_of_not_spells⟩
  have hsigns : _ = (replaceMark '*' 'f' name label).count '*' :=
    count_replaceMark (by decide : '*' ≠ 's') hsize _
  have hlt := hspells.countMarks_lt
  rw [hfilled, ← count_fillMarks hsize] at hsigns
  omega

end

theorem star_not_mem_repr (size : Nat) : '*' ∉ (Nat.repr size).toList := by
  intro hstar
  rw [Nat.toList_repr] at hstar
  exact absurd (Nat.isDigit_of_mem_toDigits (by decide) (by decide) hstar) (by decide)

/-- A label with the name and the size of the selected file in it. Without a
    selection it stays as it is. -/
def filled (n : Navigator) (label : String) : String :=
  match n.selection with
  | none => label
  | some chosen =>
    .ofList (fillMarks (baseName chosen.path).toList (Nat.repr chosen.size).toList label.toList)

/-- The selected file has a name that spells a mark in a label. -/
def Misspells (n : Navigator) (label : String) : Prop :=
  ∃ chosen, n.selection = some chosen ∧ Spells (baseName chosen.path).toList label.toList

section

variable (n : Navigator)

/-- A navigator fills a label in as it is meant to be exactly unless the
    selected file has a name that spells a mark in it. -/
theorem substitute_eq_filled_iff (label : String) :
    n.substitute label = n.filled label ↔ ¬n.Misspells label := by
  unfold substitute filled Misspells
  cases n.selection with
  | none => simp
  | some chosen =>
    dsimp only
    rw [String.ofList_inj, replaceMark_eq_fillMarks_iff (star_not_mem_repr _)]
    simp

/-- An item on display, if labels are filled in as they are meant to be. -/
def renderFilled : Item → DisplayLine
  | .line line => .entry (n.filled line.label) line.isTitle line.selectable
  | .job entry => n.render (.job entry)

/-- An item is on display as it is meant to be exactly unless its label is
    misspelled; job files have no marks. -/
theorem render_eq_renderFilled_iff (item : Item) :
    n.render item = n.renderFilled item ↔ ∀ line, item = .line line → ¬n.Misspells line.label := by
  cases item with
  | line line => simp [render, renderFilled, substitute_eq_filled_iff]
  | job entry => simp [renderFilled]

/-- A place of the display is as it is meant to be exactly unless a misspelled
    menu line stands there. -/
theorem display_eq_filled_iff (card : Card) (flags : MachineFlags) (place : Nat) :
    (n.display (place + 1) card flags).value =
        (n.items card flags).map (fun items => items[place]?.elim .blank n.renderFilled) ↔
      ∀ line, n.shown? card flags (place + 1) = some (.line line) → ¬n.Misspells line.label := by
  rw [value_display, shown?]
  cases n.items card flags with
  | error cause => simp [Except.map, Except.toOption]
  | ok items =>
    simp only [Except.map, Except.toOption, Option.bind_some, Except.ok.injEq]
    cases items[place]? with
    | none => simp
    | some item => simpa using n.render_eq_renderFilled_iff item

end

theorem Spells.append {name label : List Char} (hspells : Spells name label) (lead : List Char) :
    Spells name (lead ++ label) := by
  induction lead with
  | nil => exact hspells
  | cons c lead ih => exact .later ih

/-- A name with a letter at its end spells a mark by itself, or together with
    the sign before it. It cannot meet the label behind it in one, which would
    take a star at its end. -/
theorem spells_iff {name : List Char} {c : Char} (hlast : name.getLast? = some c) (hc : c ≠ '*')
    (label : List Char) :
    Spells name label ↔ (['*', 'f'] <:+: label ∧ ['*', 's'] <:+: name) ∨
      (['*', '*', 'f'] <:+: label ∧ name.head? = some 's') := by
  constructor
  · intro hspells
    induction hspells with
    | @within rest hname => exact .inl ⟨⟨[], rest, rfl⟩, hname⟩
    | @before rest hhead =>
      have hne : name ≠ [] := by
        rintro rfl
        cases hlast
      rw [List.head?_append_of_ne_nil _ hne] at hhead
      exact .inr ⟨⟨[], rest, rfl⟩, hhead⟩
    | behind hstar => exact absurd (Option.some.inj (hlast.symm.trans hstar)) hc
    | later _ ih =>
      exact ih.imp (And.imp_left List.infix_cons) (And.imp_left List.infix_cons)
  · rintro (⟨⟨lead, rest, rfl⟩, hname⟩ | ⟨⟨lead, rest, rfl⟩, hhead⟩)
    · rw [List.append_assoc]
      exact (Spells.within hname).append lead
    · obtain ⟨tail, rfl⟩ := List.head?_eq_some_iff.1 hhead
      rw [List.append_assoc]
      exact (Spells.before rfl).append lead

/-- The name of a job file has a letter at its end, that of its extension, and
    so no star. -/
theorem getLast?_baseName {path : String} (hjob : isJobName path = true) :
    ∃ c, (baseName path).toList.getLast? = some c ∧ c ≠ '*' := by
  obtain ⟨stem, ending, _, hpath, hends⟩ := hasExtension_iff.1 hjob
  have hletter : (ending.map Char.toLower).getLast? = some 'e' := by
    rw [hends]
    rfl
  rw [List.getLast?_map] at hletter
  obtain ⟨c, hlast, hc⟩ := Option.map_eq_some_iff.1 hletter
  obtain ⟨before, rfl⟩ := List.getLast?_eq_some_iff.1 hlast
  have hslash : c ≠ '/' := by
    rintro rfl
    cases hc
  refine ⟨c, by simp [baseName, hpath, hslash], ?_⟩
  rintro rfl
  cases hc

/-- The files that can be selected spell a mark in a label in two ways: their
    names are those of job files, which end in a letter. -/
theorem Reached.misspells_iff {root language : String} {n : Navigator}
    (hn : Reached root language n) (label : String) :
    n.Misspells label ↔ ∃ chosen, n.selection = some chosen ∧
      let name := (baseName chosen.path).toList
      (['*', 'f'] <:+: label.toList ∧ ['*', 's'] <:+: name) ∨
        (['*', '*', 'f'] <:+: label.toList ∧ name.head? = some 's') := by
  refine exists_congr fun chosen => and_congr_right fun hchosen => ?_
  obtain ⟨c, hlast, hc⟩ := getLast?_baseName (hn.isJobName hchosen)
  exact spells_iff hlast hc _

/-- A label is shown with the name and the size of the selected file in the
    places of its own marks, and nothing else replaced, exactly unless that name
    spells another mark in it. Without a selection every label is shown as it
    is. The files that a navigator comes to select have the names of job files,
    and these spell a mark in two ways only. -/
theorem labels_filled_iff (n : Navigator) :
    (n.selection = none → ∀ label, n.substitute label = label) ∧
      (∀ label, n.substitute label = n.filled label ↔ ¬n.Misspells label) ∧
      (∀ (card : Card) (flags : MachineFlags) (place : Nat),
        (n.display (place + 1) card flags).value =
            (n.items card flags).map (fun items => items[place]?.elim .blank n.renderFilled) ↔
          ∀ line, n.shown? card flags (place + 1) = some (.line line) → ¬n.Misspells line.label) ∧
      ∀ root language, Reached root language n → ∀ label,
        n.substitute label = n.filled label ↔ ¬∃ chosen, n.selection = some chosen ∧
          let name := (baseName chosen.path).toList
          (['*', 'f'] <:+: label.toList ∧ ['*', 's'] <:+: name) ∨
            (['*', '*', 'f'] <:+: label.toList ∧ name.head? = some 's') := by
  refine ⟨fun hnone label => by rw [substitute, hnone], n.substitute_eq_filled_iff,
    n.display_eq_filled_iff, fun root language hn label => ?_⟩
  rw [substitute_eq_filled_iff, hn.misspells_iff]

/-- A menu to choose a job file from, and one that shows its name. -/
def cutCard : Card where
  list
    | "/sd/menu" => .ok [⟨"1.txt", false, 30⟩]
    | "/sd/gcode" => .ok [⟨"a*s.gcode", false, 2⟩]
    | "/sd/run" => .ok [⟨"1.txt", false, 15⟩]
    | _ => .error .menuDirectory
  read
    | "/sd/menu/1.txt" => .ok "file-select /sd/gcode /sd/run".toUTF8.toList
    | "/sd/run/1.txt" => .ok "label-en Cut *f".toUTF8.toList
    | _ => .error .menuFile

/-- The star and the letter in the name of the file are taken for a mark of the
    label. -/
theorem label_misspelled :
    let n := (ofRoot "/sd/menu" "en").moveAll
      [.openRoot, .click 1 cutCard {}, .click 1 cutCard {}]
    n.selection = some ⟨"/sd/gcode/a*s.gcode", 2⟩ ∧
      (n.display 1 cutCard {}).value = .ok (.entry "Cut a2.gcode" false true) ∧
      n.filled "Cut *f" = "Cut a*s.gcode" := by
  decide +kernel

end Navigator

end Interlock.Menu
