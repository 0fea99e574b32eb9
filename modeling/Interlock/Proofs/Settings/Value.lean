import Interlock.Proofs.Settings.Shape
import Interlock.Settings.Decode
import Mathlib.Data.List.Forall2

namespace Interlock

open Interlock.Json

/-- A decoder finds the value that a document is, finds none exactly if there is
    a fault somewhere in the document, and does not mind the order of fields. -/
structure Decodes {α : Type} (decode : Json → Option α) (shape : Shape)
    (reads : Json → α → Prop) : Prop where
  eq_some_iff (document : Json) (a : α) : decode document = some a ↔ reads document a
  readable (document : Json) : (∃ a, reads document a) ↔ ¬shape.Faulty document
  reordered {document document' : Json} {a : α} (hreordered : Reordered document document')
    (hreads : reads document a) : reads document' a

section

variable {α : Type} {decode : Json → Option α} {shape : Shape} {reads : Json → α → Prop}

/-- Nothing is decoded exactly from a document with a fault. -/
theorem Decodes.eq_none_iff (hdecodes : Decodes decode shape reads) (document : Json) :
    decode document = none ↔ shape.Faulty document := by
  rw [← Classical.not_not (a := shape.Faulty document), ← hdecodes.readable, not_exists,
    Option.eq_none_iff_forall_ne_some]
  exact forall_congr' fun a => not_congr (hdecodes.eq_some_iff document a)

theorem Decodes.eq_of_reordered (hdecodes : Decodes decode shape reads)
    {document document' : Json} (hreordered : Reordered document document') :
    decode document' = decode document := by
  refine Option.ext fun a => ?_
  rw [hdecodes.eq_some_iff, hdecodes.eq_some_iff]
  exact ⟨hdecodes.reordered hreordered.symm, hdecodes.reordered hreordered⟩

end

/-- There is nothing to reorder in a document without parts. -/
theorem Json.Reordered.eq_of_scalar {document document' : Json}
    (hreordered : Reordered document document') (hitems : ∀ items, document ≠ .array items)
    (hfields : ∀ fields, document ≠ .object fields) : document' = document := by
  induction hreordered with
  | refl document => rfl
  | trans _ _ hfirst hsecond =>
    obtain rfl := hfirst hitems hfields
    exact hsecond hitems hfields
  | fields => exact absurd rfl (hfields _)
  | item => exact absurd rfl (hitems _)
  | value => exact absurd rfl (hfields _)

/-- The shape of a value without parts. -/
def Json.Shape.IsScalar : Shape → Prop
  | .list _ | .group _ => False
  | _ => True

theorem Json.Shape.Faulty.not_hasKind {shape : Shape} (hscalar : shape.IsScalar) {document : Json}
    (hfaulty : shape.Faulty document) : ¬shape.HasKind document := by
  cases hfaulty with
  | kind hkind => exact hkind
  | item | repeated | missing | value => exact hscalar.elim

/-- For a value without parts the only fault is to be of the wrong kind, and
    there is nothing in it to reorder. -/
theorem Decodes.of_scalar {α : Type} {decode : Json → Option α} {shape : Shape}
    {reads : Json → α → Prop} (hscalar : shape.IsScalar)
    (hkind : ∀ document, shape.HasKind document ↔ ∃ a, reads document a)
    (hdecode : ∀ document a, decode document = some a ↔ reads document a)
    (hitems : ∀ items a, ¬reads (.array items) a)
    (hfields : ∀ fields a, ¬reads (.object fields) a) :
    Decodes decode shape reads where
  eq_some_iff := hdecode
  readable document := by
    rw [← hkind document]
    exact ⟨fun hread hfaulty => hfaulty.not_hasKind hscalar hread,
      fun hsound => Classical.not_not.1 fun hnot => hsound (.kind hnot)⟩
  reordered hreordered hreads := by
    refine hreordered.eq_of_scalar ?_ ?_ ▸ hreads
    · rintro items rfl
      exact hitems items _ hreads
    · rintro fields rfl
      exact hfields fields _ hreads

theorem decodes_bool : Decodes Json.toBool? .bool Json.IsBool := by
  refine .of_scalar trivial (fun _ => Iff.rfl) (fun document b => ?_) nofun nofun
  cases document <;> simp [Json.toBool?, Json.IsBool]

theorem decodes_text : Decodes Json.toString? .text Json.IsText := by
  refine .of_scalar trivial (fun _ => Iff.rfl) (fun document s => ?_) nofun nofun
  cases document <;> simp [Json.toString?, Json.IsText]

/-- A number without sign, fraction and exponent is decoded if it fits, to the
    value that its digits spell. -/
theorem decodes_whole {greatest bits : Nat} (hbits : greatest + 1 = 2 ^ bits) :
    Decodes (Json.toNat? greatest) (.whole bits) (Json.IsWhole bits) := by
  refine .of_scalar trivial (fun _ => Iff.rfl) (fun document value => ?_) nofun nofun
  have hbound : value ≤ greatest ↔ value < 2 ^ bits := by rw [← hbits, Nat.lt_succ_iff]
  cases document with
  | number n =>
    obtain ⟨negative, whole, fraction, exponent⟩ := n
    simp only [Json.toNat?, Json.IsWhole, Number.Numeral.toNat?, Number.Numeral.isWhole,
      Json.number.injEq, Number.Numeral.mk.injEq, Option.ite_none_right_eq_some, Bool.and_eq_true,
      Bool.not_eq_true', decide_eq_true_eq, Option.some.injEq, List.isEmpty_iff,
      Option.isNone_iff_eq_none]
    constructor
    · rintro ⟨⟨⟨⟨hfraction, hexponent⟩, hsign⟩, hle⟩, rfl⟩
      exact ⟨whole, ⟨hsign, rfl, hfraction, hexponent⟩, rfl, hbound.1 hle⟩
    · rintro ⟨digits, ⟨hsign, rfl, hfraction, hexponent⟩, rfl, hlt⟩
      exact ⟨⟨⟨⟨hfraction, hexponent⟩, hsign⟩, hbound.2 hlt⟩, rfl⟩
  | _ => simp [Json.toNat?, Json.IsWhole]

/-- A number is decoded to the single-precision value that its numeral is read
    as. -/
theorem decodes_single : Decodes Json.toSingle? .single Json.IsSingle := by
  refine .of_scalar trivial (fun _ => Iff.rfl) (fun document x => ?_) nofun nofun
  cases document <;> simp [Json.toSingle?, Json.IsSingle, Number.Numeral.ofNumeral?_eq_some_iff]

/-- An array of which every item is a value. -/
def Json.IsList {α : Type} (reads : Json → α → Prop) (document : Json) (values : List α) : Prop :=
  ∃ items, document = .array items ∧ List.Forall₂ reads items values

section

variable {α : Type} {decode : Json → Option α} {shape : Shape} {reads : Json → α → Prop}

/-- A list is decoded item by item, and not at all if one item is not. -/
theorem Decodes.mapM_eq_some_iff (hitem : Decodes decode shape reads) (items : List Json)
    (values : List α) : items.mapM decode = some values ↔ List.Forall₂ reads items values := by
  induction items generalizing values with
  | nil => simp [eq_comm]
  | cons item items ih =>
    rw [List.mapM_cons, List.forall₂_cons_left_iff]
    simp only [Option.bind_eq_bind, Option.bind_eq_some_iff, hitem.eq_some_iff, ih,
      Option.pure_def, Option.some.injEq]
    constructor
    · rintro ⟨value, hvalue, rest, hrest, rfl⟩
      exact ⟨value, rest, hvalue, hrest, rfl⟩
    · rintro ⟨value, rest, hvalue, hrest, rfl⟩
      exact ⟨value, hvalue, rest, hrest, rfl⟩

/-- There are values for the items of a list exactly if there is one for each of
    them. -/
theorem exists_forall₂_iff {items : List Json} :
    (∃ values, List.Forall₂ reads items values) ↔ ∀ item ∈ items, ∃ value, reads item value := by
  induction items with
  | nil => exact ⟨fun _ => nofun, fun _ => ⟨[], .nil⟩⟩
  | cons item items ih =>
    rw [List.forall_mem_cons, ← ih]
    constructor
    · rintro ⟨_, hvalue | ⟨hvalue, hrest⟩⟩
      exact ⟨⟨_, hvalue⟩, _, hrest⟩
    · rintro ⟨⟨value, hvalue⟩, rest, hrest⟩
      exact ⟨value :: rest, .cons hvalue hrest⟩

/-- An item of a list may be reordered in itself. -/
theorem Decodes.forall₂_append_cons (hitem : Decodes decode shape reads) {item item' : Json}
    (hreordered : Reordered item item') {before after : List Json} {values : List α}
    (hitems : List.Forall₂ reads (before ++ item :: after) values) :
    List.Forall₂ reads (before ++ item' :: after) values := by
  induction before generalizing values with
  | nil =>
    cases hitems with
    | cons hread hafter => exact .cons (hitem.reordered hreordered hread) hafter
  | cons first before ih =>
    cases hitems with
    | cons hread hrest => exact .cons hread (ih hrest)

/-- The decoder of a list finds the values of its items, none if there is a
    fault in any of them, and does not mind the order of fields within an item. -/
theorem Decodes.list (hitem : Decodes decode shape reads) :
    Decodes (Json.toList? decode) (.list shape) (Json.IsList reads) where
  eq_some_iff document values := by
    cases document with
    | array items => simp [Json.toList?, Json.IsList, hitem.mapM_eq_some_iff]
    | _ => simp [Json.toList?, Json.IsList]
  readable document := by
    constructor
    · rintro ⟨values, items, rfl, hitems⟩ hfaulty
      cases hfaulty with
      | kind hkind => exact hkind ⟨items, rfl⟩
      | item hmem hfaulty =>
        exact (hitem.readable _).1 (exists_forall₂_iff.1 ⟨values, hitems⟩ _ hmem) hfaulty
    · intro hsound
      obtain ⟨items, rfl⟩ : ∃ items, document = .array items :=
        Classical.not_not.1 fun hkind => hsound (.kind hkind)
      obtain ⟨values, hvalues⟩ := exists_forall₂_iff.2 fun item hmem =>
        (hitem.readable item).2 fun hfaulty => hsound (.item hmem hfaulty)
      exact ⟨values, items, rfl, hvalues⟩
  reordered hreordered hreads := by
    induction hreordered with
    | refl => exact hreads
    | trans _ _ hfirst hsecond => exact hsecond (hfirst hreads)
    | fields | value => 
      obtain ⟨items, hdocument, -⟩ := hreads
      exact absurd hdocument nofun
    | item before after hreordered _ =>
      obtain ⟨items, hdocument, hitems⟩ := hreads
      obtain rfl := Json.array.inj hdocument
      exact ⟨_, rfl, hitem.forall₂_append_cons hreordered hitems⟩

end

end Interlock
