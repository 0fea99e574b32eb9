import Interlock.Json.Token

namespace Interlock.Json

/-- A part of a quoted text. -/
inductive Piece where
  | plain (c : Char)
  | unit (value : Nat)

namespace Piece

/-- A piece and one of its spellings. -/
inductive Spells : Piece → List Char → Prop where
  | plain {c : Char} (hquote : c ≠ '"') (hbackslash : c ≠ '\\') (hprinted : 0x20 ≤ c.toNat) :
      Spells (plain c) [c]
  | escape {letter c : Char} (hletter : simpleEscape? letter = some c) :
      Spells (plain c) ['\\', letter]
  | unit {a b c d : Char} {m n k l : Nat} (ha : hexValue? a = some m) (hb : hexValue? b = some n)
      (hc : hexValue? c = some k) (hd : hexValue? d = some l) :
      Spells (unit (16 * (16 * (16 * m + n) + k) + l)) ['\\', 'u', a, b, c, d]

/-- A row of pieces and one of its spellings. -/
inductive SpellsAll : List Piece → List Char → Prop where
  | nil : SpellsAll [] []
  | cons {piece : Piece} {pieces : List Piece} {cs ds : List Char} (hpiece : piece.Spells cs)
      (hpieces : SpellsAll pieces ds) : SpellsAll (piece :: pieces) (cs ++ ds)

end Piece

/-- The first half of a surrogate pair. -/
def IsLead (value : Nat) : Prop :=
  0xD800 ≤ value ∧ value < 0xDC00

/-- The second half of a surrogate pair. -/
def IsTrail (value : Nat) : Prop :=
  0xDC00 ≤ value ∧ value < 0xE000

instance (value : Nat) : Decidable (IsLead value) :=
  inferInstanceAs (Decidable (_ ∧ _))

instance (value : Nat) : Decidable (IsTrail value) :=
  inferInstanceAs (Decidable (_ ∧ _))

/-- The character that a surrogate pair stands for. -/
def paired (lead trail : Nat) : Char :=
  Char.ofNat (0x10000 + (lead - 0xD800) * 0x400 + (trail - 0xDC00))

/-- The characters that a row of pieces names, unless half of a pair stands
    alone. -/
def named? : List Piece → Option (List Char)
  | [] => some []
  | .plain c :: pieces => (named? pieces).map (c :: ·)
  | .unit value :: pieces =>
    if IsLead value then
      match pieces with
      | .unit next :: rest =>
        if IsTrail next then (named? rest).map (paired value next :: ·) else none
      | _ => none
    else if IsTrail value then none
    else (named? pieces).map (Char.ofNat value :: ·)

/-- A text and one of its spellings, quotes included. -/
inductive TextSpells : Option String → List Char → Prop where
  | quoted {pieces : List Piece} {cs : List Char} (hpieces : Piece.SpellsAll pieces cs) :
      TextSpells ((named? pieces).map String.ofList) ('"' :: (cs ++ ['"']))

/-- The test of the reader for the first half of a pair. -/
theorem isLead_iff {value : Nat} :
    (decide (0xD800 ≤ value) && decide (value < 0xDC00)) = true ↔ IsLead value := by
  rw [Bool.and_eq_true, decide_eq_true_iff, decide_eq_true_iff, IsLead]

/-- The test of the reader for the second half of a pair. -/
theorem isTrail_iff {value : Nat} :
    (decide (0xDC00 ≤ value) && decide (value < 0xE000)) = true ↔ IsTrail value := by
  rw [Bool.and_eq_true, decide_eq_true_iff, decide_eq_true_iff, IsTrail]

theorem IsLead.not_isTrail {value : Nat} (hlead : IsLead value) : ¬IsTrail value :=
  fun htrail => absurd hlead.2 (Nat.not_lt.2 htrail.1)

theorem named?_pair {lead trail : Nat} (hlead : IsLead lead) (htrail : IsTrail trail)
    (pieces : List Piece) :
    named? (.unit lead :: .unit trail :: pieces) =
      (named? pieces).map (paired lead trail :: ·) := by
  rw [named?, if_pos hlead, if_pos htrail]

/-- The first half of a pair is alone unless the second half follows. -/
theorem named?_lead {lead : Nat} (hlead : IsLead lead) {pieces : List Piece}
    (hnext : ∀ next, pieces.head? = some (.unit next) → ¬IsTrail next) :
    named? (.unit lead :: pieces) = none := by
  rw [named?.eq_def]
  refine (if_pos hlead).trans ?_
  split
  next next _ => exact if_neg (hnext next rfl)
  next => rfl

/-- The second half of a pair is alone if it comes first: a first half before it
    would have taken it along. -/
theorem named?_trail {trail : Nat} (htrail : IsTrail trail) (pieces : List Piece) :
    named? (.unit trail :: pieces) = none := by
  rw [named?.eq_def]
  exact (if_neg fun hlead => hlead.not_isTrail htrail).trans (if_pos htrail)

theorem named?_unit {value : Nat} (hlead : ¬IsLead value) (htrail : ¬IsTrail value)
    (pieces : List Piece) :
    named? (.unit value :: pieces) = (named? pieces).map (Char.ofNat value :: ·) := by
  rw [named?.eq_def]
  exact (if_neg hlead).trans (if_neg htrail)

/-- Text without quotes, backslashes and control characters stands for itself,
    each of its characters being a piece of its own. -/
theorem textSpells_plain {s : String}
    (hplain : ∀ c ∈ s.toList, c ≠ '"' ∧ c ≠ '\\' ∧ 0x20 ≤ c.toNat) :
    TextSpells (some s) ('"' :: (s.toList ++ ['"'])) := by
  have hspells (cs : List Char) (hcs : ∀ c ∈ cs, c ≠ '"' ∧ c ≠ '\\' ∧ 0x20 ≤ c.toNat) :
      Piece.SpellsAll (cs.map .plain) cs := by
    induction cs with
    | nil => exact .nil
    | cons c cs ih =>
      obtain ⟨⟨hquote, hbackslash, hprinted⟩, hrest⟩ := List.forall_mem_cons.1 hcs
      exact .cons (.plain hquote hbackslash hprinted) (ih hrest)
  have hnamed (cs : List Char) : named? (cs.map .plain) = some cs := by
    induction cs with
    | nil => rfl
    | cons c cs ih => rw [List.map_cons, named?, ih, Option.map_some]
  have htext := TextSpells.quoted (hspells s.toList hplain)
  rwa [hnamed, Option.map_some, String.ofList_toList] at htext

namespace Quoted

/-- Adds a piece to a quotation, as the reader does. -/
def add (q : Quoted) : Piece → Quoted
  | .plain c => q.push c
  | .unit value => q.pushUnit value

theorem pushUnit_lead {value : Nat} (hlead : IsLead value) (q : Quoted) :
    q.pushUnit value = { q.settle with lead := some value } := by
  rw [pushUnit, if_pos (isLead_iff.2 hlead)]

theorem pushUnit_trail {value : Nat} (htrail : IsTrail value) (q : Quoted) :
    q.pushUnit value =
      match q.lead with
      | some lead => { q with done := paired lead value :: q.done, lead := none }
      | none => { q with lone := true } := by
  have hlead : ¬IsLead value := fun hlead => hlead.not_isTrail htrail
  rw [pushUnit, if_neg (mt isLead_iff.1 hlead), if_pos (isTrail_iff.2 htrail)]
  rfl

theorem pushUnit_alone {value : Nat} (hlead : ¬IsLead value) (htrail : ¬IsTrail value)
    (q : Quoted) : q.pushUnit value = q.push (Char.ofNat value) := by
  rw [pushUnit, if_neg (mt isLead_iff.1 hlead), if_neg (mt isTrail_iff.1 htrail)]

/-- A unit that waits, as a piece. -/
def waiting (q : Quoted) : List Piece :=
  q.lead.toList.map .unit

/-- What a text comes to if the given pieces follow those that are already read. -/
def meant? (q : Quoted) (pieces : List Piece) : Option String :=
  if q.lone then none
  else (named? (q.waiting ++ pieces)).map fun cs => String.ofList (q.done.reverse ++ cs)

/-- A unit waits only if it is the first half of a pair. -/
def LeadWaits (q : Quoted) : Prop :=
  ∀ value ∈ q.lead, IsLead value

theorem leadWaits_push (q : Quoted) (c : Char) : (q.push c).LeadWaits :=
  nofun

/-- What waits is always the first half of a pair, whatever piece is added. A
    second half completes the pair or is alone, and everything else leaves
    nothing waiting. -/
theorem LeadWaits.add {q : Quoted} (hwaits : q.LeadWaits) (piece : Piece) :
    (q.add piece).LeadWaits := by
  cases piece with
  | plain c => exact leadWaits_push q c
  | unit value =>
    rw [Quoted.add]
    by_cases hlead : IsLead value
    · rw [pushUnit_lead hlead]
      intro lead hsome
      obtain rfl := Option.some.inj hsome
      exact hlead
    by_cases htrail : IsTrail value
    · rw [pushUnit_trail htrail]
      split
      next => nofun
      next => exact hwaits
    · rw [pushUnit_alone hlead htrail]
      exact leadWaits_push q _

theorem meant?_of_lone {q : Quoted} (hlone : q.lone = true) (pieces : List Piece) :
    q.meant? pieces = none := by
  rw [meant?, if_pos hlone]

/-- The first half of a pair that waits is alone if anything but the second half
    follows. -/
theorem meant?_of_lead {q : Quoted} (hwaits : q.LeadWaits) (hsome : q.lead.isSome = true)
    (pieces : List Piece) (hnext : ∀ next, pieces.head? = some (.unit next) → ¬IsTrail next) :
    q.meant? pieces = none := by
  obtain ⟨lead, hlead⟩ := Option.isSome_iff_exists.1 hsome
  have hnamed : named? (q.waiting ++ pieces) = none := by
    rw [waiting, hlead]
    exact named?_lead (hwaits lead hlead) hnext
  rw [meant?, hnamed]
  split <;> rfl

/-- A character that stands alone ends the waiting. Whether a first half is
    thereby left alone is the same before the character is added and after. -/
theorem meant?_push {q : Quoted} (hwaits : q.LeadWaits) {c : Char} {piece : Piece}
    {pieces : List Piece} (hnext : ∀ next, piece = .unit next → ¬IsTrail next)
    (hnamed : named? (piece :: pieces) = (named? pieces).map (c :: ·)) :
    (q.push c).meant? pieces = q.meant? (piece :: pieces) := by
  by_cases hsome : q.lead.isSome = true
  · rw [meant?_of_lead hwaits hsome (piece :: pieces) fun next hhead =>
      hnext next (Option.some.inj hhead)]
    exact meant?_of_lone (by rw [push, settle, hsome, Bool.or_true]) pieces
  · have hnone : q.lead = none := Option.not_isSome_iff_eq_none.1 hsome
    simp [meant?, push, settle, waiting, hnone, hnamed, Function.comp_def]

/-- Adding a piece to what was read does not change what the whole text comes
    to. The four kinds of pieces are a character, either half of a pair, and a
    unit that is none. -/
theorem meant?_add {q : Quoted} (hwaits : q.LeadWaits) (piece : Piece) (pieces : List Piece) :
    (q.add piece).meant? pieces = q.meant? (piece :: pieces) := by
  cases piece with
  | plain c => exact meant?_push hwaits nofun rfl
  | unit value =>
    rw [add]
    by_cases hlead : IsLead value
    · rw [pushUnit_lead hlead]
      by_cases hsome : q.lead.isSome = true
      · rw [meant?_of_lead hwaits hsome (.unit value :: pieces)]
        · exact meant?_of_lone (by rw [settle, hsome, Bool.or_true]) pieces
        · intro next hhead
          obtain rfl := Piece.unit.inj (Option.some.inj hhead)
          exact hlead.not_isTrail
      · have hnone : q.lead = none := Option.not_isSome_iff_eq_none.1 hsome
        simp [meant?, settle, waiting, hnone]
    by_cases htrail : IsTrail value
    · rw [pushUnit_trail htrail]
      cases hwaiting : q.lead with
      | none => simp [meant?, waiting, hwaiting, named?_trail htrail]
      | some lead =>
        simp [meant?, waiting, hwaiting, named?_pair (hwaits lead hwaiting) htrail,
          Function.comp_def]
    · rw [pushUnit_alone hlead htrail]
      refine meant?_push hwaits (fun next heq => ?_) (named?_unit hlead htrail pieces)
      obtain rfl := Piece.unit.inj heq
      exact htrail

theorem toText_foldl_add {q : Quoted} (hwaits : q.LeadWaits) (pieces : List Piece) :
    (pieces.foldl add q).toText = q.meant? pieces := by
  induction pieces generalizing q with
  | nil =>
    by_cases hsome : q.lead.isSome = true
    · rw [meant?_of_lead hwaits hsome [] nofun]
      simp [toText, settle, hsome]
    · have hnone : q.lead = none := Option.not_isSome_iff_eq_none.1 hsome
      simp [toText, settle, meant?, waiting, hnone, named?]
  | cons piece pieces ih => rw [List.foldl_cons, ih (hwaits.add piece), meant?_add hwaits]

end Quoted

theorem tokensFrom_of_step {mode after : Mode} {c : Char} {next : List Token}
    (hstep : mode.step? c = some (next, after)) (made : List Token) (rest : List Char) :
    tokensFrom mode made (c :: rest) = tokensFrom after (next.reverse ++ made) rest := by
  rw [tokensFrom, hstep]

theorem step?_hex {q : Quoted} {c : Char} {digits value d : Nat} (hc : hexValue? c = some d)
    (hmore : digits ≠ 3) :
    (Mode.hex q digits value).step? c = some ([], .hex q (digits + 1) (16 * value + d)) := by
  rw [Mode.step?, hc]
  simp [hmore]

theorem step?_hex_last {q : Quoted} {c : Char} {value d : Nat} (hc : hexValue? c = some d) :
    (Mode.hex q 3 value).step? c = some ([], .quoted (q.pushUnit (16 * value + d))) := by
  rw [Mode.step?, hc]
  rfl

/-- Each spelling of a piece is read as that piece, whatever follows it. The
    four digits of a unit are collected one by one, so that their value is built
    up in four steps. -/
theorem Piece.Spells.tokensFrom_eq {piece : Piece} {cs : List Char} (hspells : piece.Spells cs)
    (q : Quoted) (made : List Token) (rest : List Char) :
    tokensFrom (.quoted q) made (cs ++ rest) = tokensFrom (.quoted (q.add piece)) made rest := by
  have hescape (cs : List Char) :
      tokensFrom (.quoted q) made ('\\' :: cs) = tokensFrom (.escape q) made cs := rfl
  cases hspells with
  | @plain c hquote hbackslash hprinted =>
    have hstep : (Mode.quoted q).step? c = some ([], .quoted (q.push c)) := by
      rw [Mode.step?]
      simp [hquote, hbackslash, Nat.not_lt.2 hprinted]
    exact tokensFrom_of_step hstep made rest
  | @escape letter c hletter =>
    have hunit : letter ≠ 'u' := by
      rintro rfl
      exact Option.some_ne_none c hletter.symm
    have hstep : (Mode.escape q).step? letter = some ([], .quoted (q.push c)) := by
      rw [Mode.step?]
      simp [hunit, hletter]
    exact (hescape _).trans (tokensFrom_of_step hstep made rest)
  | @unit a b c d m n k l ha hb hc hd =>
    calc
      _ = tokensFrom (.hex q 0 0) made ([a, b, c, d] ++ rest) := hescape _
      _ = tokensFrom (.hex q 1 (16 * 0 + m)) made ([b, c, d] ++ rest) :=
        tokensFrom_of_step (step?_hex ha (by decide)) made _
      _ = tokensFrom (.hex q 2 (16 * (16 * 0 + m) + n)) made ([c, d] ++ rest) :=
        tokensFrom_of_step (step?_hex hb (by decide)) made _
      _ = tokensFrom (.hex q 3 (16 * (16 * (16 * 0 + m) + n) + k)) made ([d] ++ rest) :=
        tokensFrom_of_step (step?_hex hc (by decide)) made _
      _ = tokensFrom (.quoted (q.pushUnit (16 * (16 * (16 * (16 * 0 + m) + n) + k) + l)))
          made rest := tokensFrom_of_step (step?_hex_last hd) made rest
      _ = _ := by rw [Nat.mul_zero, Nat.zero_add, Quoted.add]

theorem Piece.SpellsAll.tokensFrom_eq {pieces : List Piece} {cs : List Char}
    (hspells : Piece.SpellsAll pieces cs) (q : Quoted) (made : List Token) (rest : List Char) :
    tokensFrom (.quoted q) made (cs ++ rest) =
      tokensFrom (.quoted (pieces.foldl Quoted.add q)) made rest := by
  induction hspells generalizing q with
  | nil => rfl
  | cons hpiece _ ih => rw [List.append_assoc, hpiece.tokensFrom_eq, ih, List.foldl_cons]

/-- A quoted text is read as one token, as its pieces say. The reader takes one
    character at a time and keeps the first half of a pair waiting. -/
theorem TextSpells.tokensFrom_eq {text : Option String} {cs : List Char}
    (hspells : TextSpells text cs) (made : List Token) (rest : List Char) :
    tokensFrom .between made (cs ++ rest) =
      tokensFrom .between (.scalar (.text text) :: made) rest := by
  cases hspells with
  | @quoted pieces cs hpieces =>
    have hwaits : ({} : Quoted).LeadWaits := nofun
    have htext : (pieces.foldl Quoted.add {}).toText = (named? pieces).map String.ofList :=
      Quoted.toText_foldl_add hwaits pieces
    calc
      _ = tokensFrom (.quoted {}) made (cs ++ ['"'] ++ rest) := rfl
      _ = tokensFrom (.quoted (pieces.foldl Quoted.add {})) made ('"' :: rest) := by
        rw [List.append_assoc, hpieces.tokensFrom_eq]
        rfl
      _ = tokensFrom .between (.scalar (.text (pieces.foldl Quoted.add {}).toText) :: made) rest :=
        rfl
      _ = _ := by rw [htext]

end Interlock.Json
