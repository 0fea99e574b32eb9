import Interlock.Proofs.Settings.Value
import Mathlib.Data.List.Nodup

namespace Interlock

open Interlock.Json

/-- A key of a section, the values it may have and where the section keeps them. -/
structure SettingEntry (α : Type) where
  name : String
  {Value : Type}
  shape : Shape
  /-- When a document is a value. -/
  reads : Json → Value → Prop
  get : α → Value
  /-- Whether the key has to be given. -/
  required : Bool := false

namespace SettingEntry

variable {α : Type}

def key (entry : SettingEntry α) : String × Bool × Shape :=
  (entry.name, entry.required, entry.shape)

/-- The value that a section takes from what is given under a key: the only one
    given, or the default if none is given and none has to be. -/
inductive Takes (entry : SettingEntry α) (default : entry.Value) :
    List Json → entry.Value → Prop where
  | given {document : Json} {value : entry.Value} (hreads : entry.reads document value) :
      Takes entry default [document] value
  | absent (hrequired : entry.required = false) : Takes entry default [] default

/-- If nothing is given, the default is taken, and only if nothing has to be
    given. -/
theorem takes_nil_iff {entry : SettingEntry α} {default value : entry.Value} :
    entry.Takes default [] value ↔ entry.required = false ∧ value = default := by
  constructor
  · intro htakes
    cases htakes with
    | absent hrequired => exact ⟨hrequired, rfl⟩
  · rintro ⟨hrequired, rfl⟩
    exact .absent hrequired

/-- If one value is given, that one is taken. -/
theorem takes_singleton_iff {entry : SettingEntry α} {default value : entry.Value}
    {document : Json} :
    entry.Takes default [document] value ↔ entry.reads document value := by
  constructor
  · intro htakes
    cases htakes with
    | given hreads => exact hreads
  · exact .given

theorem Takes.length_le {entry : SettingEntry α} {default value : entry.Value} {given : List Json}
    (htakes : entry.Takes default given value) : given.length ≤ 1 := by
  cases htakes with
  | given => exact Nat.le_refl 1
  | absent => exact Nat.zero_le 1

/-- A document and the section that it describes: it has the given value for
    each key that is given once, and the default for each key that is not given.
    Keys that are not among the entries do not matter. -/
def Describes (entries : List (SettingEntry α)) (defaults : α) (document : Json)
    (section_ : α) : Prop :=
  ∃ fields, Gives (entries.map name) document fields ∧ ∀ entry ∈ entries,
    entry.Takes (entry.get defaults) (under entry.name fields) (entry.get section_)

/-- The shape of a section. -/
def shapeOf (entries : List (SettingEntry α)) : Shape :=
  .group (entries.map key)

end SettingEntry

/-- A key stores the values of an entry in its place and leaves the other
    entries as they are. -/
inductive Stores {α : Type} (entries : List (SettingEntry α)) :
    SettingKey α → SettingEntry α → Prop where
  | ofDecoder {β : Type} {name : String} {decode : Json → Option β} {put : β → α → α}
      {shape : Shape} {reads : Json → β → Prop} {get : α → β} {required : Bool}
      (hdecodes : Decodes decode shape reads) (hget : ∀ b s, get (put b s) = b)
      (hothers : ∀ other ∈ entries, other.name ≠ name → ∀ b s, other.get (put b s) = other.get s) :
      Stores entries (SettingKey.ofDecoder name decode put required)
        ⟨name, shape, reads, get, required⟩

/-- The keys of a decoder against the entries that describe what it decodes. -/
structure Implements {α : Type} (keys : List (SettingKey α)) (entries : List (SettingEntry α)) :
    Prop where
  stores : List.Forall₂ (Stores entries) keys entries
  distinct : (entries.map SettingEntry.name).Nodup
  ext {s s' : α} (hget : ∀ entry ∈ entries, entry.get s = entry.get s') : s = s'

theorem SettingKey.storeField_ofDecoder {α β : Type} (name : String) (decode : Json → Option β)
    (put : β → α → α) (required : Bool) (fields : List (Option String × Json)) (s : α) :
    (ofDecoder name decode put required).storeField fields s =
      match Json.lookup? name fields with
      | none => if required = true then none else some s
      | some document => (decode document).map fun b => put b s := rfl

namespace Implements

variable {α : Type} {keys : List (SettingKey α)} {entries : List (SettingEntry α)}

theorem name_ne (himplements : Implements keys entries) {entry other : SettingEntry α}
    (hentry : entry ∈ entries) (hother : other ∈ entries) (hne : other ≠ entry) :
    other.name ≠ entry.name :=
  fun hname => hne (List.inj_on_of_nodup_map himplements.distinct hother hentry hname)

/-- What one key does: its entry takes what is given and every other entry
    stays. That determines the section, since it is made up of its entries. -/
theorem storeField_eq_some_iff (himplements : Implements keys entries) {key : SettingKey α}
    {entry : SettingEntry α} (hentry : entry ∈ entries) (hstores : Stores entries key entry)
    (fields : List (Option String × Json)) (s s' : α) :
    key.storeField fields s = some s' ↔
      entry.Takes (entry.get s) (Json.lookup? entry.name fields).toList (entry.get s') ∧
        ∀ other ∈ entries, other ≠ entry → other.get s' = other.get s := by
  have hext {s s' : α} (hget : entry.get s = entry.get s')
      (hframe : ∀ other ∈ entries, other ≠ entry → other.get s' = other.get s) : s = s' := by
    refine himplements.ext fun other hother => ?_
    by_cases heq : other = entry
    · rw [heq, hget]
    · exact (hframe other hother heq).symm
  cases hstores with
  | @ofDecoder β name decode put shape reads get required hdecodes hget hothers =>
    rw [SettingKey.storeField_ofDecoder]
    cases Json.lookup? name fields with
    | none =>
      dsimp only
      rw [Option.toList_none, SettingEntry.takes_nil_iff, Option.ite_none_left_eq_some,
        Bool.not_eq_true, Option.some.injEq, and_assoc]
      refine and_congr_right fun _ => ⟨?_, fun hsame => hext hsame.1.symm hsame.2⟩
      rintro rfl
      exact ⟨rfl, fun _ _ _ => rfl⟩
    | some document =>
      dsimp only
      rw [Option.toList_some, SettingEntry.takes_singleton_iff, Option.map_eq_some_iff]
      constructor
      · rintro ⟨b, hdecode, rfl⟩
        refine ⟨?_, fun other hother hne =>
          hothers other hother (himplements.name_ne hentry hother hne) b s⟩
        rw [hget]
        exact (hdecodes.eq_some_iff document b).1 hdecode
      · rintro ⟨hreads, hframe⟩
        refine ⟨_, (hdecodes.eq_some_iff document _).2 hreads, hext (hget _ s) ?_⟩
        intro other hother hne
        rw [hframe other hother hne,
          hothers other hother (himplements.name_ne hentry hother hne)]

/-- A key finds a place for every value that its entry takes, as its decoder
    finds that value. -/
theorem exists_storeField {key : SettingKey α} {entry : SettingEntry α}
    (hstores : Stores entries key entry) {fields : List (Option String × Json)} {s : α}
    {value : entry.Value}
    (htakes : entry.Takes (entry.get s) (Json.lookup? entry.name fields).toList value) :
    ∃ s', key.storeField fields s = some s' ∧ entry.get s' = value := by
  cases hstores with
  | @ofDecoder β name decode put shape reads get required hdecodes hget hothers =>
    rw [SettingKey.storeField_ofDecoder]
    cases hlookup : Json.lookup? name fields with
    | none =>
      rw [hlookup, Option.toList_none, SettingEntry.takes_nil_iff] at htakes
      obtain ⟨rfl, rfl⟩ := htakes
      exact ⟨s, rfl, rfl⟩
    | some document =>
      rw [hlookup, Option.toList_some, SettingEntry.takes_singleton_iff] at htakes
      refine ⟨put value s, ?_, hget value s⟩
      dsimp only
      rw [(hdecodes.eq_some_iff document value).2 htakes, Option.map_some]

/-- All keys one after the other: the section that comes out takes what is given
    for their entries and keeps the rest. The induction is on the keys that are
    left; those that came before have stored their entries already, and the
    later ones leave them alone. -/
theorem foldlM_storeField_eq_some_iff (himplements : Implements keys entries)
    (fields : List (Option String × Json)) {left : List (SettingKey α)}
    {pending : List (SettingEntry α)} (hstores : List.Forall₂ (Stores entries) left pending)
    (hpending : pending ⊆ entries) (hnodup : pending.Nodup) (s s' : α) :
    left.foldlM (SettingKey.storeField fields) s = some s' ↔
      (∀ entry ∈ pending, entry.Takes (entry.get s) (Json.lookup? entry.name fields).toList
        (entry.get s')) ∧
      ∀ other ∈ entries, other ∉ pending → other.get s' = other.get s := by
  induction hstores generalizing s with
  | nil =>
    rw [List.foldlM_nil, Option.pure_def, Option.some.injEq]
    constructor
    · rintro rfl
      exact ⟨nofun, fun _ _ _ => rfl⟩
    · rintro ⟨-, hkept⟩
      exact himplements.ext fun entry hentry => (hkept entry hentry List.not_mem_nil).symm
  | @cons key entry left pending hstore _ ih =>
    -- Between this key and the later ones lies a section in which this entry is already final and
    -- the others are untouched.
    obtain ⟨hentry, hpending⟩ := List.cons_subset.1 hpending
    obtain ⟨hfresh, hnodup⟩ := List.nodup_cons.1 hnodup
    have hne {other : SettingEntry α} (hother : other ∈ pending) : other ≠ entry :=
      fun heq => hfresh (heq ▸ hother)
    have hstep := himplements.storeField_eq_some_iff hentry hstore fields
    rw [List.foldlM_cons, Option.bind_eq_bind, Option.bind_eq_some_iff]
    constructor
    · rintro ⟨m, hstored, hfold⟩
      obtain ⟨htakes, hframe⟩ := (hstep s m).1 hstored
      obtain ⟨hall, hkept⟩ := (ih hpending hnodup m).1 hfold
      refine ⟨List.forall_mem_cons.2 ⟨?_, fun other hother => ?_⟩, fun other hother hnew => ?_⟩
      · rw [hkept entry hentry hfresh]
        exact htakes
      · rw [← hframe other (hpending hother) (hne hother)]
        exact hall other hother
      · rw [hkept other hother (List.not_mem_of_not_mem_cons hnew),
          hframe other hother (List.ne_of_not_mem_cons hnew)]
    · rintro ⟨hall, hkept⟩
      obtain ⟨htakes, hrest⟩ := List.forall_mem_cons.1 hall
      obtain ⟨m, hstored, hget⟩ := exists_storeField hstore htakes
      obtain ⟨-, hframe⟩ := (hstep s m).1 hstored
      refine ⟨m, hstored, (ih hpending hnodup m).2
        ⟨fun other hother => ?_, fun other hother hnew => ?_⟩⟩
      · rw [hframe other (hpending hother) (hne hother)]
        exact hrest other hother
      · by_cases heq : other = entry
        · rw [heq, hget]
        · rw [hframe other hother heq]
          exact hkept other hother (List.not_mem_cons_of_ne_of_not_mem heq hnew)

/-- The keys have the names of the entries, in their order. -/
theorem names_eq (himplements : Implements keys entries) :
    keys.map (·.name) = entries.map SettingEntry.name := by
  have hnames {left : List (SettingKey α)} {pending : List (SettingEntry α)}
      (hstores : List.Forall₂ (Stores entries) left pending) :
      left.map (·.name) = pending.map SettingEntry.name := by
    induction hstores with
    | nil => rfl
    | cons hstore _ ih =>
      obtain ⟨⟩ := hstore
      rw [List.map_cons, List.map_cons, ih]
      rfl
  exact hnames himplements.stores

end Implements

/-- The first field of a name is the one that is found. -/
theorem lookup?_textFields (name : String) (fields : List (String × Json)) :
    Json.lookup? name (textFields fields) = (under name fields).head? := by
  induction fields with
  | nil => rfl
  | cons field fields ih =>
    by_cases hname : field.1 = name
    · simp [textFields, Json.lookup?, hname]
    · simpa [textFields, Json.lookup?, hname] using ih

theorem toList_lookup?_textFields {name : String} {fields : List (String × Json)}
    (honce : (under name fields).length ≤ 1) :
    (Json.lookup? name (textFields fields)).toList = under name fields := by
  rw [lookup?_textFields]
  match under name fields, honce with
  | [], _ | [_], _ => rfl

theorem occurrences_textFields (name : String) (fields : List (String × Json)) :
    Json.occurrences name (textFields fields) = (under name fields).length := by
  rw [Json.occurrences, textFields, List.countP_map, List.countP_eq_length_filter, under,
    List.length_map]
  rfl

namespace Implements

variable {α : Type} {keys : List (SettingKey α)} {entries : List (SettingEntry α)}

/-- No key is given twice. -/
theorem all_occurrences_iff (himplements : Implements keys entries)
    (fields : List (String × Json)) :
    (keys.all fun key => Json.occurrences key.name (textFields fields) ≤ 1) = true ↔
      ∀ entry ∈ entries, (under entry.name fields).length ≤ 1 := by
  have hnames : (keys.all fun key => Json.occurrences key.name (textFields fields) ≤ 1) =
      (keys.map (·.name)).all fun name => Json.occurrences name (textFields fields) ≤ 1 := by
    rw [List.all_map]
    rfl
  rw [hnames, himplements.names_eq, List.all_eq_true, List.forall_mem_map]
  refine forall₂_congr fun entry _ => ?_
  rw [decide_eq_true_iff, occurrences_textFields]

/-- All names of the object are text, so only the keys that are given twice
    matter. -/
theorem decode_object_eq (keys : List (SettingKey α)) (fields : List (String × Json))
    (defaults : α) :
    SettingKey.decodeSection keys defaults (ofFields fields) =
      if (keys.all fun key => Json.occurrences key.name (textFields fields) ≤ 1) = true then
        keys.foldlM (SettingKey.storeField (textFields fields)) defaults
      else none := by
  have htext : (textFields fields).all (fun field => field.1.isSome) = true := by
    simp [textFields]
  rw [ofFields, SettingKey.decodeSection]
  change (if ((textFields fields).all (fun field => field.1.isSome) && _) = true then _ else _) = _
  rw [htext, Bool.true_and]
  rfl

/-- An object is decoded to the section whose entries take what it gives. -/
theorem decode_object_iff (himplements : Implements keys entries)
    (fields : List (String × Json)) (defaults s : α) :
    SettingKey.decodeSection keys defaults (ofFields fields) = some s ↔
      ∀ entry ∈ entries,
        entry.Takes (entry.get defaults) (under entry.name fields) (entry.get s) := by
  rw [decode_object_eq, Option.ite_none_right_eq_some, himplements.all_occurrences_iff,
    himplements.foldlM_storeField_eq_some_iff _ himplements.stores (List.Subset.refl _)
      (List.Nodup.of_map _ himplements.distinct)]
  constructor
  · rintro ⟨honce, htakes, -⟩ entry hentry
    rw [← toList_lookup?_textFields (honce entry hentry)]
    exact htakes entry hentry
  · intro htakes
    have honce : ∀ entry ∈ entries, (under entry.name fields).length ≤ 1 :=
      fun entry hentry => (htakes entry hentry).length_le
    refine ⟨honce, fun entry hentry => ?_, fun _ hother hnew => absurd hother hnew⟩
    rw [toList_lookup?_textFields (honce entry hentry)]
    exact htakes entry hentry

end Implements

theorem length_under (name : String) (fields : List (String × Json)) :
    (under name fields).length = (fields.map Prod.fst).count name := by
  rw [under, List.length_map, List.count, List.countP_map, List.countP_eq_length_filter]
  rfl

/-- An array gives values to the first names only. -/
theorem map_fst_zip_sublist (names : List String) (items : List Json) :
    ((names.zip items).map Prod.fst).Sublist names := by
  induction names generalizing items with
  | nil => exact List.Sublist.refl []
  | cons name names ih =>
    cases items with
    | nil => exact List.nil_sublist _
    | cons item items => exact (ih items).cons_cons name

theorem length_under_zip {names : List String} (hnodup : names.Nodup) (items : List Json)
    (name : String) : (under name (names.zip items)).length ≤ 1 := by
  rw [length_under]
  exact List.nodup_iff_count_le_one.1 (hnodup.sublist (map_fst_zip_sublist names items)) name

namespace SettingKey

variable {α : Type}

/-- A field that no key knows does not matter. -/
theorem foldlM_storeField_skip {keys : List (SettingKey α)} {name : String}
    (hname : name ∉ keys.map (·.name)) (value : Json) (fields : List (Option String × Json))
    (s : α) :
    keys.foldlM (storeField ((some name, value) :: fields)) s =
      keys.foldlM (storeField fields) s := by
  induction keys generalizing s with
  | nil => rfl
  | cons key keys ih =>
    rw [List.map_cons] at hname
    have hstep : storeField ((some name, value) :: fields) s key = storeField fields s key := by
      have hlookup : Json.lookup? key.name ((some name, value) :: fields) =
          Json.lookup? key.name fields :=
        if_neg (by simpa using List.ne_of_not_mem_cons hname)
      rw [storeField, storeField, hlookup]
    rw [List.foldlM_cons, List.foldlM_cons, hstep]
    exact congrArg _ (funext fun s => ih (List.not_mem_of_not_mem_cons hname) s)

theorem foldlM_storeField_nil (keys : List (SettingKey α)) (s : α) :
    keys.foldlM (storeField []) s = if keys.any (·.required) then none else some s := by
  induction keys with
  | nil => rfl
  | cons key keys ih =>
    have hstep : storeField [] s key = if key.required then none else some s := rfl
    rw [List.foldlM_cons, hstep, List.any_cons]
    cases key.required with
    | false => exact ih
    | true => rfl

/-- The items of an array are stored like the fields that have the names of the
    keys. -/
theorem storeItems_eq_foldlM {keys : List (SettingKey α)} (hnodup : (keys.map (·.name)).Nodup)
    {items : List Json} (hlength : items.length ≤ keys.length) (s : α) :
    (if (keys.drop items.length).any (·.required) then none else storeItems keys items s) =
      keys.foldlM (storeField (textFields ((keys.map (·.name)).zip items))) s := by
  induction keys generalizing items s with
  | nil =>
    obtain rfl := List.length_eq_zero_iff.1 (Nat.le_zero.1 hlength)
    rfl
  | cons key keys ih =>
    cases items with
    | nil => exact (foldlM_storeField_nil (key :: keys) s).symm
    | cons item items =>
      obtain ⟨hfresh, hnodup⟩ := List.nodup_cons.1 hnodup
      have hstep (fields : List (Option String × Json)) :
          storeField ((some key.name, item) :: fields) s key = key.store item s := by
        rw [storeField, Json.lookup?, if_pos (beq_self_eq_true _)]
      have hfields : textFields (((key :: keys).map (·.name)).zip (item :: items)) =
          (some key.name, item) :: textFields ((keys.map (·.name)).zip items) := rfl
      rw [hfields, List.foldlM_cons, hstep, List.length_cons, List.drop_succ_cons, storeItems]
      cases key.store item s with
      | none => exact ite_self none
      | some m =>
        refine (ih hnodup (Nat.le_of_succ_le_succ hlength) m).trans ?_
        exact (foldlM_storeField_skip hfresh item _ m).symm

theorem length_le_of_storeItems {keys : List (SettingKey α)} {items : List Json} {s s' : α}
    (hstored : storeItems keys items s = some s') : items.length ≤ keys.length := by
  induction keys generalizing items s with
  | nil =>
    cases items with
    | nil => exact Nat.le_refl _
    | cons item items => exact absurd hstored nofun
  | cons key keys ih =>
    cases items with
    | nil => exact Nat.zero_le _
    | cons item items =>
      obtain ⟨m, -, hrest⟩ := Option.bind_eq_some_iff.1 hstored
      exact Nat.succ_le_succ (ih hrest)

end SettingKey

namespace Implements

variable {α : Type} {keys : List (SettingKey α)} {entries : List (SettingEntry α)}

/-- A section is decoded by what it gives, whether it is an object or an array
    in the order of the keys. -/
theorem decode_eq_object (himplements : Implements keys entries) {document : Json}
    {fields : List (String × Json)} (hgives : Gives (entries.map SettingEntry.name) document fields)
    (defaults : α) :
    SettingKey.decodeSection keys defaults document =
      SettingKey.decodeSection keys defaults (ofFields fields) := by
  cases hgives with
  | object => rfl
  | @array items hlength =>
    have honce : ∀ entry ∈ entries,
        (under entry.name ((entries.map SettingEntry.name).zip items)).length ≤ 1 :=
      fun entry _ => length_under_zip himplements.distinct items entry.name
    rw [decode_object_eq, if_pos ((himplements.all_occurrences_iff _).2 honce),
      ← himplements.names_eq]
    rw [← himplements.names_eq, List.length_map] at hlength
    exact SettingKey.storeItems_eq_foldlM (himplements.names_eq ▸ himplements.distinct) hlength
      defaults

/-- Only what gives the values of a section is decoded to one: an object whose
    names are all text, or an array that is not longer than the keys. -/
theorem exists_gives (himplements : Implements keys entries) {document : Json} {defaults s : α}
    (hdecode : SettingKey.decodeSection keys defaults document = some s) :
    ∃ fields, Gives (entries.map SettingEntry.name) document fields := by
  cases document with
  | object fields =>
    rw [SettingKey.decodeSection, Option.ite_none_right_eq_some, Bool.and_eq_true,
      List.all_eq_true] at hdecode
    have hfields : ofFields (fields.map fun field => (field.1.getD "", field.2)) =
        .object fields := by
      rw [ofFields, List.map_map]
      refine congrArg Json.object ((List.map_congr_left fun field hmem => ?_).trans fields.map_id)
      obtain ⟨name, hname⟩ := Option.isSome_iff_exists.1 (hdecode.1.1 field hmem)
      have hkey : some (field.1.getD "") = field.1 := by
        rw [hname]
        rfl
      exact Prod.ext hkey rfl
    rw [← hfields]
    exact ⟨_, .object _⟩
  | array items =>
    rw [← himplements.names_eq]
    refine ⟨_, .array ?_⟩
    rw [List.length_map]
    rw [SettingKey.decodeSection, Option.ite_none_left_eq_some] at hdecode
    exact SettingKey.length_le_of_storeItems hdecode.2
  | null | bool _ | number _ | text _ => exact absurd hdecode.symm (Option.some_ne_none s)

/-- The decoder of a section finds exactly the section that the document
    describes. -/
theorem describes_iff (himplements : Implements keys entries) (defaults : α) (document : Json)
    (s : α) :
    SettingKey.decodeSection keys defaults document = some s ↔
      SettingEntry.Describes entries defaults document s := by
  constructor
  · intro hdecode
    obtain ⟨fields, hgives⟩ := himplements.exists_gives hdecode
    rw [himplements.decode_eq_object hgives, himplements.decode_object_iff] at hdecode
    exact ⟨fields, hgives, hdecode⟩
  · rintro ⟨fields, hgives, htakes⟩
    rw [himplements.decode_eq_object hgives, himplements.decode_object_iff]
    exact htakes

end Implements

namespace SettingEntry

variable {α : Type} {entries : List (SettingEntry α)}

theorem exists_entry {name : String} {required : Bool} {shape : Shape}
    (hkey : (name, required, shape) ∈ entries.map key) :
    ∃ entry ∈ entries, entry.name = name ∧ entry.required = required ∧ entry.shape = shape := by
  obtain ⟨entry, hentry, heq⟩ := List.mem_map.1 hkey
  obtain ⟨hname, hrest⟩ := Prod.mk.inj heq
  exact ⟨entry, hentry, hname, Prod.mk.inj hrest⟩

theorem gives_shapeOf {document : Json} {fields : List (String × Json)} :
    Gives ((entries.map key).map Prod.fst) document fields ↔
      Gives (entries.map name) document fields := by
  rw [List.map_map]
  rfl

/-- A section is without fault if what it gives under each key is: given once at
    most, given if it has to be, and without fault itself. -/
theorem not_faulty_iff {document : Json} :
    ¬(shapeOf entries).Faulty document ↔
      ∃ fields, Gives (entries.map name) document fields ∧ ∀ entry ∈ entries,
        (under entry.name fields).length ≤ 1 ∧
        (entry.required = true → under entry.name fields ≠ []) ∧
        ∀ value ∈ under entry.name fields, ¬entry.shape.Faulty value := by
  constructor
  · intro hsound
    obtain ⟨fields, hgives⟩ :=
      Classical.not_not.1 fun hkind : ¬(shapeOf entries).HasKind document => hsound (.kind hkind)
    refine ⟨fields, gives_shapeOf.1 hgives, fun entry hentry => ?_⟩
    have hkey : entry.key ∈ entries.map key := List.mem_map_of_mem hentry
    refine ⟨Nat.not_lt.1 fun hrepeated => hsound (.repeated hgives hkey hrepeated),
      fun hrequired hmissing => ?_, fun value hvalue hfaulty =>
        hsound (.value hgives hkey hvalue hfaulty)⟩
    rw [key, hrequired] at hkey
    exact hsound (.missing hgives hkey hmissing)
  · rintro ⟨fields, hgives, hentries⟩ hfaulty
    cases hfaulty with
    | kind hkind => exact hkind ⟨fields, gives_shapeOf.2 hgives⟩
    | repeated hgives' hkey hrepeated =>
      obtain ⟨entry, hentry, rfl, -⟩ := exists_entry hkey
      obtain rfl := hgives.unique (gives_shapeOf.1 hgives')
      exact absurd hrepeated (Nat.not_lt.2 (hentries entry hentry).1)
    | missing hgives' hkey hmissing =>
      obtain ⟨entry, hentry, rfl, hrequired, -⟩ := exists_entry hkey
      obtain rfl := hgives.unique (gives_shapeOf.1 hgives')
      exact (hentries entry hentry).2.1 hrequired hmissing
    | value hgives' hkey hvalue hfaulty =>
      obtain ⟨entry, hentry, rfl, -, rfl⟩ := exists_entry hkey
      obtain rfl := hgives.unique (gives_shapeOf.1 hgives')
      exact (hentries entry hentry).2.2 _ hvalue hfaulty

/-- An entry takes something from what is given if that is without fault. The
    cases are that nothing is given, one value, or more. -/
theorem exists_takes_iff {entry : SettingEntry α} {decode : Json → Option entry.Value}
    (hdecodes : Decodes decode entry.shape entry.reads) (default : entry.Value)
    (given : List Json) :
    (∃ value, entry.Takes default given value) ↔
      given.length ≤ 1 ∧ (entry.required = true → given ≠ []) ∧
        ∀ value ∈ given, ¬entry.shape.Faulty value := by
  match given with
  | [] =>
    simp [takes_nil_iff]
  | [document] =>
    simp [takes_singleton_iff, hdecodes.readable]
  | first :: second :: rest =>
    refine iff_of_false ?_ ?_
    · rintro ⟨value, htakes⟩
      exact absurd htakes.length_le (by simp)
    · rintro ⟨hlength, -⟩
      exact absurd hlength (by simp)

/-- What an entry takes does not depend on the order of fields within the value
    that is given. -/
theorem Takes.regiven {entry : SettingEntry α} {decode : Json → Option entry.Value}
    (hdecodes : Decodes decode entry.shape entry.reads) {default value : entry.Value}
    {given given' : List Json} (htakes : entry.Takes default given value)
    (hregiven : Regiven given given') : entry.Takes default given' value := by
  cases htakes with
  | given hreads =>
    obtain ⟨document', rfl, hreordered⟩ := hregiven.single _ rfl
    exact .given (hdecodes.reordered hreordered hreads)
  | absent hrequired =>
    obtain rfl := hregiven.nothing rfl
    exact .absent hrequired

end SettingEntry

namespace Implements

variable {α : Type} {keys : List (SettingKey α)} {entries : List (SettingEntry α)}

/-- Every entry has a decoder, which is the one that its key stores with. -/
theorem exists_decodes (himplements : Implements keys entries) {entry : SettingEntry α}
    (hentry : entry ∈ entries) :
    ∃ decode : Json → Option entry.Value, Decodes decode entry.shape entry.reads := by
  have hmem {left : List (SettingKey α)} {pending : List (SettingEntry α)}
      (hstores : List.Forall₂ (Stores entries) left pending) (hentry : entry ∈ pending) :
      ∃ key, Stores entries key entry := by
    induction hstores with
    | nil => exact absurd hentry List.not_mem_nil
    | cons hstore _ ih =>
      obtain rfl | hrest := List.mem_cons.1 hentry
      · exact ⟨_, hstore⟩
      · exact ih hrest
  obtain ⟨key, hstore⟩ := hmem himplements.stores hentry
  cases hstore with
  | ofDecoder hdecodes => exact ⟨_, hdecodes⟩

/-- Values that the entries take one by one make up a section. No key gets in
    the way of a later one, since each leaves the other entries as they are. -/
theorem exists_foldlM (himplements : Implements keys entries)
    {fields : List (Option String × Json)} {left : List (SettingKey α)}
    {pending : List (SettingEntry α)} (hstores : List.Forall₂ (Stores entries) left pending)
    (hpending : pending ⊆ entries) (s : α)
    (htakes : ∀ entry ∈ pending, ∃ value,
      entry.Takes (entry.get s) (Json.lookup? entry.name fields).toList value) :
    ∃ s', left.foldlM (SettingKey.storeField fields) s = some s' := by
  induction hstores generalizing s with
  | nil => exact ⟨s, rfl⟩
  | @cons key entry left pending hstore _ ih =>
    obtain ⟨⟨value, htake⟩, hrest⟩ := List.forall_mem_cons.1 htakes
    obtain ⟨m, hstored, -⟩ := exists_storeField hstore htake
    rw [List.foldlM_cons, hstored]
    refine ih (List.subset_of_cons_subset hpending) m fun other hother => ?_
    -- Whether an entry takes something does not depend on its default.
    have hmem : other ∈ entries := hpending (List.mem_cons_of_mem _ hother)
    obtain ⟨decode, hdecodes⟩ := himplements.exists_decodes hmem
    exact (SettingEntry.exists_takes_iff hdecodes _ _).2
      ((SettingEntry.exists_takes_iff hdecodes _ _).1 (hrest other hother))

theorem exists_decode_object (himplements : Implements keys entries)
    {fields : List (String × Json)} {defaults : α}
    (htakes : ∀ entry ∈ entries, ∃ value,
      entry.Takes (entry.get defaults) (under entry.name fields) value) :
    ∃ s, SettingKey.decodeSection keys defaults (ofFields fields) = some s := by
  have honce : ∀ entry ∈ entries, (under entry.name fields).length ≤ 1 := by
    intro entry hentry
    obtain ⟨value, htake⟩ := htakes entry hentry
    exact htake.length_le
  rw [decode_object_eq, if_pos ((himplements.all_occurrences_iff _).2 honce)]
  refine himplements.exists_foldlM himplements.stores (List.Subset.refl _) defaults ?_
  intro entry hentry
  rw [toList_lookup?_textFields (honce entry hentry)]
  exact htakes entry hentry

/-- The decoder of a section finds the section that a document describes, none
    if there is a fault anywhere in it, and does not mind the order of fields. -/
theorem decodes (himplements : Implements keys entries) (defaults : α) :
    Decodes (SettingKey.decodeSection keys defaults) (SettingEntry.shapeOf entries)
      (SettingEntry.Describes entries defaults) where
  eq_some_iff := himplements.describes_iff defaults
  readable document := by
    rw [SettingEntry.not_faulty_iff]
    constructor
    · rintro ⟨s, fields, hgives, htakes⟩
      refine ⟨fields, hgives, fun entry hentry => ?_⟩
      obtain ⟨decode, hdecodes⟩ := himplements.exists_decodes hentry
      exact (SettingEntry.exists_takes_iff hdecodes _ _).1 ⟨_, htakes entry hentry⟩
    · rintro ⟨fields, hgives, hentries⟩
      have htakes : ∀ entry ∈ entries, ∃ value,
          entry.Takes (entry.get defaults) (under entry.name fields) value := by
        intro entry hentry
        obtain ⟨decode, hdecodes⟩ := himplements.exists_decodes hentry
        exact (SettingEntry.exists_takes_iff hdecodes _ _).2 (hentries entry hentry)
      obtain ⟨s, hdecode⟩ := himplements.exists_decode_object htakes
      exact ⟨s, fields, hgives, (himplements.decode_object_iff fields defaults s).1 hdecode⟩
  reordered hreordered hreads := by
    obtain ⟨fields, hgives, htakes⟩ := hreads
    obtain ⟨fields', hgives', hregiven⟩ := hgives.reordered hreordered
    refine ⟨fields', hgives', fun entry hentry => ?_⟩
    obtain ⟨decode, hdecodes⟩ := himplements.exists_decodes hentry
    exact (htakes entry hentry).regiven hdecodes (hregiven entry.name)

end Implements

end Interlock
