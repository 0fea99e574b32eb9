import Interlock.Proofs.Json.Quoted
import Interlock.Proofs.Json.Tokens
import Interlock.Proofs.Number.Numeral

namespace Interlock.Json

open Interlock.Number

/-- Blanks, or nothing. -/
def IsGap (cs : List Char) : Prop :=
  ∀ c ∈ cs, c = ' ' ∨ c = '\n' ∨ c = '\t' ∨ c = '\r'

mutual

/-- A document and one of its spellings, without gaps around. -/
inductive Spells : Json → List Char → Prop where
  | null : Spells null ['n', 'u', 'l', 'l']
  | true : Spells (bool true) ['t', 'r', 'u', 'e']
  | false : Spells (bool false) ['f', 'a', 'l', 's', 'e']
  | number {n : Numeral} {cs : List Char} (hnumeral : n.Spells cs) : Spells (number n) cs
  | text {s : Option String} {cs : List Char} (htext : TextSpells s cs) : Spells (text s) cs
  | emptyArray {gap : List Char} (hgap : IsGap gap) : Spells (array []) ('[' :: (gap ++ [']']))
  | array {items : List Json} {cs : List Char} (hitems : ItemsSpell items cs) :
      Spells (array items) ('[' :: (cs ++ [']']))
  | emptyObject {gap : List Char} (hgap : IsGap gap) :
      Spells (object []) ('\x7b' :: (gap ++ ['\x7d']))
  | object {fields : List (Option String × Json)} {cs : List Char}
      (hfields : FieldsSpell fields cs) : Spells (object fields) ('\x7b' :: (cs ++ ['\x7d']))

/-- A document and one of its spellings, with gaps around. -/
inductive SpellsApart : Json → List Char → Prop where
  | gaps {document : Json} {before cs after : List Char} (hbefore : IsGap before)
      (hdocument : Spells document cs) (hafter : IsGap after) :
      SpellsApart document (before ++ (cs ++ after))

/-- The items of an array, at least one, and one of their spellings. -/
inductive ItemsSpell : List Json → List Char → Prop where
  | last {item : Json} {cs : List Char} (hitem : SpellsApart item cs) : ItemsSpell [item] cs
  | more {item next : Json} {items : List Json} {cs ds : List Char} (hitem : SpellsApart item cs)
      (hitems : ItemsSpell (next :: items) ds) :
      ItemsSpell (item :: next :: items) (cs ++ ',' :: ds)

/-- A field of an object and one of its spellings. -/
inductive FieldSpells : Option String × Json → List Char → Prop where
  | named {key : Option String} {value : Json} {before cs after ds : List Char}
      (hbefore : IsGap before) (hkey : TextSpells key cs) (hafter : IsGap after)
      (hvalue : SpellsApart value ds) :
      FieldSpells (key, value) (before ++ (cs ++ (after ++ ':' :: ds)))

/-- The fields of an object, at least one, and one of their spellings. -/
inductive FieldsSpell : List (Option String × Json) → List Char → Prop where
  | last {field : Option String × Json} {cs : List Char} (hfield : FieldSpells field cs) :
      FieldsSpell [field] cs
  | more {field next : Option String × Json} {fields : List (Option String × Json)}
      {cs ds : List Char} (hfield : FieldSpells field cs)
      (hfields : FieldsSpell (next :: fields) ds) :
      FieldsSpell (field :: next :: fields) (cs ++ ',' :: ds)

end

/-- The text of a document. -/
def Spelling (document : Json) (text : String) : Prop :=
  SpellsApart document text.toList

theorem isGap_nil : IsGap [] :=
  nofun

theorem Spells.apart {document : Json} {cs : List Char} (hspells : Spells document cs) :
    SpellsApart document cs := by
  have hgaps := SpellsApart.gaps isGap_nil hspells isGap_nil
  rwa [List.append_nil] at hgaps

/-- What does not continue a numeral or a word. -/
def Ends (rest : List Char) : Prop :=
  ∀ c ∈ rest.head?, isNumeralChar c = false ∧ isWordChar c = false

/-- The reader makes the tokens of the text, whatever comes after its end. -/
def Makes (cs : List Char) (tokens : List Token) : Prop :=
  ∀ rest, Ends rest → ∀ made,
    tokensFrom .between made (cs ++ rest) = tokensFrom .between (tokens.reverse ++ made) rest

/-- A character that continues neither a numeral nor a word ends both, whatever
    follows it. -/
theorem ends_cons {c : Char} (hnumeral : isNumeralChar c = false) (hword : isWordChar c = false)
    (rest : List Char) : Ends (c :: rest) := by
  intro d hd
  obtain rfl := Option.some.inj hd
  exact ⟨hnumeral, hword⟩

theorem makes_nil : Makes [] [] :=
  fun _ _ _ => rfl

/-- Two texts make the tokens of both if the second ends the first: a numeral is
    read to its end only when something else follows. -/
theorem Makes.append {cs ds : List Char} {front back : List Token} (hfront : Makes cs front)
    (hback : Makes ds back) (hends : ∀ rest, Ends rest → Ends (ds ++ rest)) :
    Makes (cs ++ ds) (front ++ back) := by
  intro rest hrest made
  rw [List.append_assoc, hfront _ (hends rest hrest), hback rest hrest, List.reverse_append,
    List.append_assoc]

/-- A character that is a token by itself. -/
theorem Makes.cons {cs : List Char} {tokens : List Token} (hmakes : Makes cs tokens) {c : Char}
    {token : Token} (hbegin : begin? c = some ([token], .between)) :
    Makes (c :: cs) (token :: tokens) := by
  intro rest hrest made
  have hstep : Mode.between.step? c = some ([token], .between) := hbegin
  rw [List.cons_append, tokensFrom_of_step hstep, hmakes rest hrest, List.reverse_singleton,
    List.reverse_cons, List.append_assoc]

/-- A mark between two texts. It is neither part of a numeral nor of a word, so
    it ends the first one. -/
theorem Makes.mark {cs ds : List Char} {front back : List Token} (hfront : Makes cs front)
    (hback : Makes ds back) {c : Char} {token : Token}
    (hbegin : begin? c = some ([token], .between)) (hnumeral : isNumeralChar c = false)
    (hword : isWordChar c = false) : Makes (cs ++ c :: ds) (front ++ token :: back) :=
  hfront.append (hback.cons hbegin) fun rest _ => ends_cons hnumeral hword (ds ++ rest)

/-- A gap makes no token, wherever it stands between tokens. -/
theorem Makes.gap {cs gap : List Char} {tokens : List Token} (hmakes : Makes cs tokens)
    (hgap : IsGap gap) : Makes (gap ++ cs) tokens := by
  induction gap with
  | nil => exact hmakes
  | cons c gap ih =>
    have hskip : Mode.between.step? c = some ([], .between) := by
      obtain rfl | rfl | rfl | rfl := hgap c List.mem_cons_self <;> rfl
    intro rest hrest made
    refine (tokensFrom_of_step hskip made (gap ++ cs ++ rest)).trans ?_
    exact ih (fun d hd => hgap d (List.mem_cons_of_mem c hd)) rest hrest made

/-- A quoted text makes one token. Its closing quote ends it, so anything may
    follow. -/
theorem Makes.text {cs ds : List Char} {s : Option String} {tokens : List Token}
    (hmakes : Makes ds tokens) (htext : TextSpells s cs) :
    Makes (cs ++ ds) (.scalar (.text s) :: tokens) := by
  intro rest hrest made
  rw [List.append_assoc, htext.tokensFrom_eq, hmakes rest hrest, List.reverse_cons,
    List.append_assoc]
  rfl

/-- A gap ends a numeral or a word if it is not empty, and otherwise leaves that
    to what follows. -/
theorem IsGap.ends {gap rest : List Char} (hgap : IsGap gap) (hends : Ends rest) :
    Ends (gap ++ rest) := by
  cases gap with
  | nil => exact hends
  | cons c gap =>
    obtain rfl | rfl | rfl | rfl := hgap c List.mem_cons_self <;> exact ends_cons rfl rfl _

/-- A numeral or a word is one token once something else follows, or the text
    ends there. -/
theorem tokensFrom_finish {mode : Mode} {token : Token} (hfinish : mode.finish? = some [token])
    {rest : List Char} (hstep : ∀ c ∈ rest.head?,
      mode.step? c = (begin? c).map fun made => (token :: made.1, made.2)) (made : List Token) :
    tokensFrom mode made rest = tokensFrom .between (token :: made) rest := by
  cases rest with
  | nil =>
    rw [tokensFrom, hfinish]
    rfl
  | cons c rest =>
    rw [tokensFrom, hstep c rfl, tokensFrom, Mode.step?]
    cases begin? c with
    | none => rfl
    | some next =>
      show tokensFrom next.2 ((token :: next.1).reverse ++ made) rest = _
      rw [List.reverse_cons, List.append_assoc, List.singleton_append]

/-- The characters of a numeral are one token once something else follows. -/
theorem tokensFrom_numeral {done : List Char} {n : Numeral}
    (hread : Numeral.ofChars? done.reverse = some n) {rest : List Char} (hends : Ends rest)
    (made : List Token) :
    tokensFrom (.numeral done) made rest =
      tokensFrom .between (.scalar (.number n) :: made) rest := by
  have hfinish : (Mode.numeral done).finish? = some [.scalar (.number n)] := by
    rw [Mode.finish?, hread]
    rfl
  refine tokensFrom_finish hfinish (fun c hc => ?_) made
  rw [Mode.step?, (hends c hc).1, if_neg Bool.false_ne_true, hfinish]
  cases begin? c <;> rfl

/-- The letters of a word are one token once something else follows. -/
theorem tokensFrom_word {done : List Char} {document : Json}
    (hread : ofWord? done.reverse = some document) {rest : List Char} (hends : Ends rest)
    (made : List Token) :
    tokensFrom (.word done) made rest = tokensFrom .between (.scalar document :: made) rest := by
  have hfinish : (Mode.word done).finish? = some [.scalar document] := by
    rw [Mode.finish?, hread]
    rfl
  refine tokensFrom_finish hfinish (fun c hc => ?_) made
  rw [Mode.step?, (hends c hc).2, if_neg Bool.false_ne_true, hfinish]
  cases begin? c <;> rfl

/-- Characters of a numeral are collected as long as they come. -/
theorem tokensFrom_numeral_append {cs : List Char} (hcs : ∀ c ∈ cs, isNumeralChar c = true)
    (done : List Char) (made : List Token) (rest : List Char) :
    tokensFrom (.numeral done) made (cs ++ rest) =
      tokensFrom (.numeral (cs.reverse ++ done)) made rest := by
  induction cs generalizing done with
  | nil => rfl
  | cons c cs ih =>
    have hstep : (Mode.numeral done).step? c = some ([], .numeral (c :: done)) := by
      rw [Mode.step?, if_pos (hcs c List.mem_cons_self)]
    rw [List.reverse_cons, List.append_assoc, List.singleton_append,
      ← ih fun d hd => hcs d (List.mem_cons_of_mem c hd)]
    exact tokensFrom_of_step hstep made (cs ++ rest)

theorem isNumeralChar_of_isDigits {cs : List Char} (hdigits : Numeral.IsDigits cs) :
    ∀ c ∈ cs, isNumeralChar c = true := by
  intro c hc
  simp [isNumeralChar, hdigits.2 c hc]

theorem isNumeralChar_mark {mark : Char} (hmark : mark = 'e' ∨ mark = 'E') :
    isNumeralChar mark = true := by
  obtain rfl | rfl := hmark <;> rfl

theorem isNumeralChar_of_fraction {digits cs : List Char}
    (hfraction : Numeral.FractionSpells digits cs) : ∀ c ∈ cs, isNumeralChar c = true := by
  cases hfraction with
  | none => nofun
  | point hdigits => exact List.forall_mem_cons.2 ⟨rfl, isNumeralChar_of_isDigits hdigits⟩

theorem isNumeralChar_of_exponent {exponent : Option (Bool × List Char)} {cs : List Char}
    (hexponent : Numeral.ExponentSpells exponent cs) : ∀ c ∈ cs, isNumeralChar c = true := by
  cases hexponent with
  | none => nofun
  | unsigned hmark hdigits =>
    exact List.forall_mem_cons.2 ⟨isNumeralChar_mark hmark, isNumeralChar_of_isDigits hdigits⟩
  | plus hmark hdigits | minus hmark hdigits =>
    exact List.forall_mem_cons.2 ⟨isNumeralChar_mark hmark,
      List.forall_mem_cons.2 ⟨rfl, isNumeralChar_of_isDigits hdigits⟩⟩

/-- A digit begins a numeral. -/
theorem begin?_digit {c : Char} (hdigit : Text.isDigit c = true) :
    begin? c = some ([], .numeral [c]) := by
  rw [begin?, hdigit, Bool.true_or, if_pos rfl]
  all_goals
    rintro rfl
    exact absurd hdigit (by decide)

/-- A numeral without its sign consists of characters of a numeral if its whole
    part does. -/
theorem isNumeralChar_of_parts {whole digits point mark : List Char}
    {exponent : Option (Bool × List Char)} (hwhole : ∀ c ∈ whole, isNumeralChar c = true)
    (hfraction : Numeral.FractionSpells digits point)
    (hexponent : Numeral.ExponentSpells exponent mark) :
    ∀ c ∈ whole ++ (point ++ mark), isNumeralChar c = true :=
  List.forall_mem_append.2 ⟨hwhole, List.forall_mem_append.2
    ⟨isNumeralChar_of_fraction hfraction, isNumeralChar_of_exponent hexponent⟩⟩

/-- A numeral begins with a digit or a minus sign, each of which puts the reader
    into a numeral, and goes on with characters of one. -/
theorem exists_numeral_start {n : Numeral} {cs : List Char} (hspells : n.Spells cs) :
    ∃ c ds, cs = c :: ds ∧ begin? c = some ([], .numeral [c]) ∧
      ∀ d ∈ ds, isNumeralChar d = true := by
  cases hspells with
  | positive hwhole hzero hfraction hexponent =>
    obtain ⟨c, ds, rfl, -⟩ := hwhole.exists_cons
    refine ⟨c, _, rfl, begin?_digit (hwhole.2 c List.mem_cons_self), ?_⟩
    refine isNumeralChar_of_parts (fun d hd => ?_) hfraction hexponent
    exact isNumeralChar_of_isDigits hwhole d (List.mem_cons_of_mem c hd)
  | negative hwhole hzero hfraction hexponent =>
    exact ⟨'-', _, rfl, rfl,
      isNumeralChar_of_parts (isNumeralChar_of_isDigits hwhole) hfraction hexponent⟩

/-- A numeral makes one token, its own: all of its characters are collected, and
    then read. -/
theorem makes_number {n : Numeral} {cs : List Char} (hspells : n.Spells cs) :
    Makes cs [.scalar (.number n)] := by
  intro rest hends made
  obtain ⟨c, ds, rfl, hbegin, hds⟩ := exists_numeral_start hspells
  have hread : Numeral.ofChars? (ds.reverse ++ [c]).reverse = some n := by
    rw [List.reverse_append, List.reverse_reverse]
    exact hspells.ofChars?_eq
  have hstep : Mode.between.step? c = some ([], .numeral [c]) := hbegin
  calc
    _ = tokensFrom (.numeral [c]) made (ds ++ rest) := tokensFrom_of_step hstep made _
    _ = tokensFrom (.numeral (ds.reverse ++ [c])) made rest :=
      tokensFrom_numeral_append hds [c] made rest
    _ = _ := tokensFrom_numeral hread hends made

mutual

/-- A spelling makes the tokens of its document. The induction is over all five
    kinds of spelling at once, as documents contain each other through items and
    fields. -/
theorem Spells.makes : {document : Json} → {cs : List Char} → Spells document cs →
    Makes cs document.tokens
  | _, _, .null => by
    have hread : ofWord? ['l', 'l', 'u', 'n'].reverse = some null := rfl
    exact fun rest hends made => tokensFrom_word hread hends made
  | _, _, .true => by
    have hread : ofWord? ['e', 'u', 'r', 't'].reverse = some (bool true) := rfl
    exact fun rest hends made => tokensFrom_word hread hends made
  | _, _, .false => by
    have hread : ofWord? ['e', 's', 'l', 'a', 'f'].reverse = some (bool false) := rfl
    exact fun rest hends made => tokensFrom_word hread hends made
  | _, _, .number hnumeral => makes_number hnumeral
  | _, _, .text htext => by
    have hmakes := makes_nil.text htext
    rwa [List.append_nil] at hmakes
  | _, _, .emptyArray hgap => ((makes_nil.cons rfl).gap hgap).cons rfl
  | _, _, .array hitems => (hitems.makes.mark makes_nil rfl rfl rfl).cons rfl
  | _, _, .emptyObject hgap => ((makes_nil.cons rfl).gap hgap).cons rfl
  | _, _, .object hfields => (hfields.makes.mark makes_nil rfl rfl rfl).cons rfl

/-- The gaps around a document make no difference. -/
theorem SpellsApart.makes : {document : Json} → {cs : List Char} → SpellsApart document cs →
    Makes cs document.tokens
  | _, _, .gaps hbefore hdocument hafter => by
    have hgap := makes_nil.gap hafter
    rw [List.append_nil] at hgap
    have hmakes := (hdocument.makes.append hgap fun rest => hafter.ends).gap hbefore
    rwa [List.append_nil] at hmakes

theorem ItemsSpell.makes : {items : List Json} → {cs : List Char} → ItemsSpell items cs →
    Makes cs (itemTokens items)
  | _, _, .last hitem => hitem.makes
  | _, _, .more hitem hitems => hitem.makes.mark hitems.makes rfl rfl rfl

theorem FieldSpells.makes : {field : Option String × Json} → {cs : List Char} →
    FieldSpells field cs → Makes cs (fieldTokens [field])
  | _, _, .named hbefore hkey hafter hvalue =>
    (((hvalue.makes.cons rfl).gap hafter).text hkey).gap hbefore

theorem FieldsSpell.makes : {fields : List (Option String × Json)} → {cs : List Char} →
    FieldsSpell fields cs → Makes cs (fieldTokens fields)
  | _, _, .last hfield => hfield.makes
  | _, _, .more hfield hfields => hfield.makes.mark hfields.makes rfl rfl rfl

end

/-- Every text of a document is read as that document, with gaps around every
    part. -/
theorem Spelling.parse?_eq {document : Json} {text : String} (hspelling : document.Spelling text) :
    parse? text = some document := by
  have hends : Ends [] := nofun
  have hread := hspelling.makes [] hends []
  rw [List.append_nil, List.append_nil] at hread
  have htokens : tokens? text = some document.tokens := by
    rw [tokens?, hread]
    show some document.tokens.reverse.reverse = _
    rw [List.reverse_reverse]
  rw [parse?, htokens]
  exact ofTokens?_tokens document

end Interlock.Json
