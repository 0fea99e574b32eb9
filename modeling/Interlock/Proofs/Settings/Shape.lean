import Interlock.Json.Value
import Interlock.Proofs.Number.Reading
import Mathlib.Data.List.Perm.Basic

namespace Interlock.Json

open Interlock.Number

/-- A document that is a truth value. -/
def IsBool (document : Json) (b : Bool) : Prop :=
  document = .bool b

/-- A document that is text. -/
def IsText (document : Json) (s : String) : Prop :=
  document = .text (some s)

/-- A number of so many bits, spelled by digits alone: without a sign, a point
    or an exponent. -/
def IsWhole (bits : Nat) (document : Json) (value : Nat) : Prop :=
  ∃ digits, document = .number ⟨false, digits, [], none⟩ ∧
    value = Nat.ofDigitChars 10 digits 0 ∧ value < 2 ^ bits

/-- A number with its single-precision value. Every numeral has one unless it is
    out of the range of double precision; beyond that of single precision the
    value is infinite. -/
def IsSingle (document : Json) (x : Single) : Prop :=
  ∃ n : Numeral, document = .number n ∧ n.Reads x

/-- A section gives its values by name, or as an array in the order of its keys. -/
inductive Gives (names : List String) : Json → List (String × Json) → Prop where
  | object (fields : List (String × Json)) : Gives names (ofFields fields) fields
  | array {items : List Json} (hlength : items.length ≤ names.length) :
      Gives names (.array items) (names.zip items)

/-- Fields of which every name is text, as an object has them. -/
def textFields (fields : List (String × Json)) : List (Option String × Json) :=
  fields.map fun (name, value) => (some name, value)

/-- Everything that is given under a name. -/
def under (name : String) (fields : List (String × Json)) : List Json :=
  (fields.filter fun field => field.1 == name).map Prod.snd

/-- What has to stand in a document: which keys a section knows, and what has to
    stand under each of them. -/
inductive Shape where
  | bool
  | text
  | whole (bits : Nat)
  | single
  | list (item : Shape)
  /-- A section with its keys: the name, whether it has to be given, and the shape of its value. -/
  | group (keys : List (String × Bool × Shape))

namespace Shape

/-- Whether the outermost part of a document is of the kind that a shape asks
    for. -/
def HasKind : Shape → Json → Prop
  | bool, document => ∃ b, document.IsBool b
  | text, document => ∃ s, document.IsText s
  | whole bits, document => ∃ value, document.IsWhole bits value
  | single, document => ∃ x, document.IsSingle x
  | list _, document => ∃ items, document = .array items
  | group keys, document => ∃ fields, Gives (keys.map Prod.fst) document fields

/-- A document with a fault somewhere in it: a value is of the wrong kind, or a
    known key is given twice or is missing though it has to be given. -/
inductive Faulty : Shape → Json → Prop where
  | kind {shape : Shape} {document : Json} (hkind : ¬shape.HasKind document) :
      Faulty shape document
  | item {shape : Shape} {items : List Json} {item : Json} (hitem : item ∈ items)
      (hfaulty : Faulty shape item) : Faulty (list shape) (.array items)
  | repeated {keys : List (String × Bool × Shape)} {document : Json}
      {fields : List (String × Json)} {name : String} {required : Bool} {shape : Shape}
      (hgives : Gives (keys.map Prod.fst) document fields) (hkey : (name, required, shape) ∈ keys)
      (hrepeated : 1 < (under name fields).length) : Faulty (group keys) document
  | missing {keys : List (String × Bool × Shape)} {document : Json}
      {fields : List (String × Json)} {name : String} {shape : Shape}
      (hgives : Gives (keys.map Prod.fst) document fields) (hkey : (name, true, shape) ∈ keys)
      (hmissing : under name fields = []) : Faulty (group keys) document
  | value {keys : List (String × Bool × Shape)} {document : Json}
      {fields : List (String × Json)} {name : String} {required : Bool} {shape : Shape}
      {value : Json} (hgives : Gives (keys.map Prod.fst) document fields)
      (hkey : (name, required, shape) ∈ keys) (hvalue : value ∈ under name fields)
      (hfaulty : Faulty shape value) : Faulty (group keys) document

end Shape

/-- Documents that differ in the order of fields only, at any depth. -/
inductive Reordered : Json → Json → Prop where
  | refl (document : Json) : Reordered document document
  | trans {first second third : Json} (hfirst : Reordered first second)
      (hsecond : Reordered second third) : Reordered first third
  | fields {fields fields' : List (Option String × Json)} (hperm : fields.Perm fields') :
      Reordered (.object fields) (.object fields')
  | item {item item' : Json} (before after : List Json) (hitem : Reordered item item') :
      Reordered (.array (before ++ item :: after)) (.array (before ++ item' :: after))
  | value {value value' : Json} (before after : List (Option String × Json)) (key : Option String)
      (hvalue : Reordered value value') :
      Reordered (.object (before ++ (key, value) :: after))
        (.object (before ++ (key, value') :: after))

/-- An object tells its fields. -/
theorem ofFields_inj {fields fields' : List (String × Json)} :
    ofFields fields = ofFields fields' ↔ fields = fields' := by
  rw [ofFields, ofFields, Json.object.injEq]
  refine List.map_inj_right fun field field' heq => ?_
  obtain ⟨hname, hvalue⟩ := Prod.mk.inj heq
  exact Prod.ext (Option.some.inj hname) hvalue

/-- A document gives its values in one way only. -/
theorem Gives.unique {names : List String} {document : Json} {fields fields' : List (String × Json)}
    (hgives : Gives names document fields) (hgives' : Gives names document fields') :
    fields = fields' := by
  cases hgives with
  | object =>
    generalize hdocument : ofFields fields = document at hgives'
    cases hgives' with
    | object => exact ofFields_inj.1 hdocument
    | array hlength => exact absurd hdocument nofun
  | array hlength =>
    generalize hdocument : Json.array _ = document at hgives'
    cases hgives' with
    | object => exact absurd hdocument nofun
    | array hlength' => rw [Json.array.inj hdocument]

@[simp] theorem under_cons (name : String) (field : String × Json)
    (fields : List (String × Json)) :
    under name (field :: fields) =
      if field.1 = name then field.2 :: under name fields else under name fields := by
  by_cases hname : field.1 = name <;> simp [under, hname]

@[simp] theorem under_append (name : String) (front back : List (String × Json)) :
    under name (front ++ back) = under name front ++ under name back := by
  rw [under, List.filter_append, List.map_append, under, under]

/-- What is given under a name does not depend on the order of fields, but for
    its own order. -/
theorem under_perm {fields fields' : List (String × Json)} (hperm : fields.Perm fields')
    (name : String) : (under name fields).Perm (under name fields') :=
  (hperm.filter _).map _

/-- Every reordering can be undone. -/
theorem Reordered.symm {document document' : Json} (hreordered : Reordered document document') :
    Reordered document' document := by
  induction hreordered with
  | refl document => exact .refl document
  | trans _ _ hfirst hsecond => exact hsecond.trans hfirst
  | fields hperm => exact .fields hperm.symm
  | item before after _ ih => exact .item before after ih
  | value before after key _ ih => exact .value before after key ih

/-- What is given under a key and what a reordered document gives under it, as
    far as a section takes it: nothing, or one value. -/
structure Regiven (given given' : List Json) : Prop where
  nothing : given = [] → given' = []
  single : ∀ value, given = [value] → ∃ value', given' = [value'] ∧ Reordered value value'

theorem Regiven.refl (given : List Json) : Regiven given given :=
  ⟨id, fun value hgiven => ⟨value, hgiven, .refl value⟩⟩

/-- One reordering after the other is a reordering. -/
theorem Regiven.trans {given given' given'' : List Json} (hfirst : Regiven given given')
    (hsecond : Regiven given' given'') : Regiven given given'' := by
  refine ⟨fun hnothing => hsecond.nothing (hfirst.nothing hnothing), fun value hsingle => ?_⟩
  obtain ⟨value', hsingle', hvalue⟩ := hfirst.single value hsingle
  obtain ⟨value'', hsingle'', hvalue'⟩ := hsecond.single value' hsingle'
  exact ⟨value'', hsingle'', hvalue.trans hvalue'⟩

/-- If a key is given once at most, the order of what is given is of no account. -/
theorem Regiven.of_perm {given given' : List Json} (hperm : given.Perm given') :
    Regiven given given' := by
  refine ⟨?_, fun value => ?_⟩
  · rintro rfl
    exact hperm.nil_eq.symm
  · rintro rfl
    exact ⟨value, List.singleton_perm.1 hperm |>.symm, .refl value⟩

/-- Of values that are given one after the other, one may be reordered in
    itself. -/
theorem Regiven.of_value {value value' : Json} (hvalue : Reordered value value')
    (before after : List Json) :
    Regiven (before ++ value :: after) (before ++ value' :: after) := by
  refine ⟨by simp, fun single hsingle => ?_⟩
  obtain ⟨rfl, hrest⟩ : before = [] ∧ value :: after = [single] := by
    cases before with
    | nil => exact ⟨rfl, hsingle⟩
    | cons => simp at hsingle
  obtain ⟨rfl, rfl⟩ := List.cons.inj hrest
  exact ⟨value', rfl, hvalue⟩

/-- A change of one value under any name. -/
theorem regiven_under {value value' : Json} (hvalue : Reordered value value')
    (before after : List (String × Json)) (key name : String) :
    Regiven (under name (before ++ (key, value) :: after))
      (under name (before ++ (key, value') :: after)) := by
  rw [under_append, under_append, under_cons, under_cons]
  split
  next => exact .of_value hvalue _ _
  next => exact .refl _

/-- A value of an array stands under one name, whatever the value is. -/
theorem zip_append_cons {names : List String} {before : List Json}
    (hlength : before.length < names.length) (after : List Json) :
    ∃ front key back, ∀ item,
      names.zip (before ++ item :: after) = front ++ (key, item) :: back := by
  refine ⟨(names.take before.length).zip before, names[before.length],
    (names.drop (before.length + 1)).zip after, fun item => ?_⟩
  have hnames : names.take before.length ++ names[before.length] ::
      names.drop (before.length + 1) = names := by
    rw [List.getElem_cons_drop, List.take_append_drop]
  have htake : (names.take before.length).length = before.length := by
    rw [List.length_take, Nat.min_eq_left (Nat.le_of_lt hlength)]
  conv_lhs => rw [← hnames, List.zip_append htake, List.zip_cons_cons]

/-- A reordered document gives the same under each name, up to the order of
    fields at greater depth. The induction is on the reordering. A change within
    one value of an array or an object concerns one name only. -/
theorem Gives.reordered {names : List String} {document document' : Json}
    (hreordered : Reordered document document') {fields : List (String × Json)}
    (hgives : Gives names document fields) :
    ∃ fields', Gives names document' fields' ∧
      ∀ name, Regiven (under name fields) (under name fields') := by
  induction hreordered generalizing fields with
  | refl document => exact ⟨fields, hgives, fun name => .refl _⟩
  | trans _ _ hfirst hsecond =>
    obtain ⟨fields', hgives', hregiven⟩ := hfirst hgives
    obtain ⟨fields'', hgives'', hregiven'⟩ := hsecond hgives'
    exact ⟨fields'', hgives'', fun name => (hregiven name).trans (hregiven' name)⟩
  | @fields given given' hperm =>
    obtain rfl : given = textFields fields := by
      generalize hdocument : Json.object given = document at hgives
      cases hgives with
      | object => exact Json.object.inj hdocument
      | array hlength => exact absurd hdocument nofun
    have hmap : Relation.Comp (· = List.map (fun (name, value) => (some name, value)) ·) List.Perm
        given' fields := by
      rw [List.eq_map_comp_perm]
      exact hperm.symm
    obtain ⟨fields', rfl, hperm'⟩ := hmap
    exact ⟨fields', .object fields', fun name => .of_perm (under_perm hperm'.symm name)⟩
  | @item item item' before after hitem ih =>
    generalize hdocument : Json.array _ = document at hgives
    cases hgives with
    | object => exact absurd hdocument nofun
    | array hlength =>
      obtain rfl := Json.array.inj hdocument
      have hplace : before.length < names.length := by
        rw [List.length_append, List.length_cons] at hlength
        omega
      have hlength' : (before ++ item' :: after).length ≤ names.length := by
        rw [List.length_append, List.length_cons] at hlength ⊢
        exact hlength
      obtain ⟨front, key, back, hzip⟩ := zip_append_cons hplace after
      refine ⟨_, .array hlength', fun name => ?_⟩
      rw [hzip item, hzip item']
      exact regiven_under hitem front back key name
  | @value value value' before after key hvalue ih =>
    generalize hdocument : Json.object _ = document at hgives
    cases hgives with
    | array hlength => exact absurd hdocument nofun
    | object =>
      obtain ⟨front, rest, rfl, rfl, hrest⟩ :=
        List.map_eq_append_iff.1 (Json.object.inj hdocument).symm
      obtain ⟨field, back, rfl, hfield, rfl⟩ := List.map_eq_cons_iff.1 hrest
      obtain ⟨rfl, rfl⟩ := Prod.mk.inj hfield
      refine ⟨front ++ (field.1, value') :: back, ?_, fun name =>
        regiven_under hvalue front back field.1 name⟩
      have hgives' : Gives names (ofFields (front ++ (field.1, value') :: back)) _ := .object _
      rwa [ofFields, List.map_append, List.map_cons] at hgives'

end Interlock.Json
