import Interlock.Json.Reader

namespace Interlock.Json

mutual

/-- The tokens that spell a document. -/
def tokens : Json → List Token
  | null => [.scalar null]
  | bool b => [.scalar (bool b)]
  | number n => [.scalar (number n)]
  | text s => [.scalar (text s)]
  | array items => .arrayOpen :: (itemTokens items ++ [.arrayClose])
  | object fields => .objectOpen :: (fieldTokens fields ++ [.objectClose])

/-- The tokens of items, with a comma between each two. -/
def itemTokens : List Json → List Token
  | [] => []
  | [item] => tokens item
  | item :: next :: rest => tokens item ++ .comma :: itemTokens (next :: rest)

/-- The tokens of fields, with a comma between each two. -/
def fieldTokens : List (Option String × Json) → List Token
  | [] => []
  | [(key, value)] => .scalar (.text key) :: .colon :: tokens value
  | (key, value) :: next :: rest =>
    .scalar (.text key) :: .colon :: (tokens value ++ .comma :: fieldTokens (next :: rest))

end

namespace State

theorem foldlM_first_item (item : Json) (items done : List Json) (frames : List Frame) :
    (itemTokens (item :: items)).foldlM step? (.reading (.array done :: frames) .item) =
      (itemTokens (item :: items)).foldlM step? (.reading (.array done :: frames) .value) := by
  cases items <;> cases item <;> rfl

theorem foldlM_first_name (field : Option String × Json)
    (fields done : List (Option String × Json)) (frames : List Frame) :
    (fieldTokens (field :: fields)).foldlM step? (.reading (.object done :: frames) .firstName) =
      (fieldTokens (field :: fields)).foldlM step? (.reading (.object done :: frames) .name) := by
  cases fields <;> rfl

mutual

/-- The reader puts a document into the innermost open one, whatever documents
    are open. The induction is over documents, items and fields at once. -/
theorem foldlM_tokens (frames : List Frame) : (document : Json) →
    document.tokens.foldlM step? (.reading frames .value) = accept? document frames
  | null => bind_pure (accept? null frames)
  | bool b => bind_pure (accept? (bool b) frames)
  | number n => bind_pure (accept? (number n) frames)
  | text s => bind_pure (accept? (text s) frames)
  | array [] => bind_pure (accept? (array []) frames)
  | object [] => bind_pure (accept? (object []) frames)
  | array (item :: items) => by
    have hopen : step? (.reading frames .value) .arrayOpen =
      some (.reading (.array [] :: frames) .item) := rfl
    rw [tokens, List.foldlM_cons, hopen, Option.bind_eq_bind, Option.bind_some,
      List.foldlM_append, foldlM_first_item,
      foldlM_itemTokens frames [] (item :: items) (List.cons_ne_nil _ _), List.append_nil]
    refine (bind_pure (accept? (array (item :: items).reverse.reverse) frames)).trans ?_
    rw [List.reverse_reverse]
  | object (field :: fields) => by
    have hopen : step? (.reading frames .value) .objectOpen =
      some (.reading (.object [] :: frames) .firstName) := rfl
    rw [tokens, List.foldlM_cons, hopen, Option.bind_eq_bind, Option.bind_some,
      List.foldlM_append, foldlM_first_name,
      foldlM_fieldTokens frames [] (field :: fields) (List.cons_ne_nil _ _), List.append_nil]
    refine (bind_pure (accept? (object (field :: fields).reverse.reverse) frames)).trans ?_
    rw [List.reverse_reverse]

/-- Items are collected in reverse; there has to be one, as an empty array ends
    where its first item could stand. -/
theorem foldlM_itemTokens (frames : List Frame) (done : List Json) :
    (items : List Json) → items ≠ [] →
    (itemTokens items).foldlM step? (.reading (.array done :: frames) .value) =
      some (.reading (.array (items.reverse ++ done) :: frames) .comma)
  | [], hne => absurd rfl hne
  | [item], _ => foldlM_tokens (.array done :: frames) item
  | item :: next :: items, _ => by
    rw [itemTokens, List.foldlM_append, foldlM_tokens, List.reverse_cons, List.append_assoc]
    exact foldlM_itemTokens frames (item :: done) (next :: items) (List.cons_ne_nil _ _)

/-- The tokens of fields are read as these fields, which are collected in
    reverse. There has to be one here, since an object without fields ends
    before any name. -/
theorem foldlM_fieldTokens (frames : List Frame) (done : List (Option String × Json)) :
    (fields : List (Option String × Json)) → fields ≠ [] →
    (fieldTokens fields).foldlM step? (.reading (.object done :: frames) .name) =
      some (.reading (.object (fields.reverse ++ done) :: frames) .comma)
  | [], hne => absurd rfl hne
  | [(key, value)], _ => foldlM_tokens (.field done key :: frames) value
  | (key, value) :: next :: fields, _ => by
    have hname : step? (.reading (.object done :: frames) .name) (.scalar (.text key)) =
      some (.reading (.field done key :: frames) .colon) := rfl
    have hcolon : step? (.reading (.field done key :: frames) .colon) .colon =
      some (.reading (.field done key :: frames) .value) := rfl
    rw [fieldTokens, List.foldlM_cons, hname, Option.bind_eq_bind, Option.bind_some,
      List.foldlM_cons, hcolon, Option.bind_eq_bind, Option.bind_some, List.foldlM_append,
      foldlM_tokens, List.reverse_cons, List.append_assoc]
    exact foldlM_fieldTokens frames ((key, value) :: done) (next :: fields) (List.cons_ne_nil _ _)

end

end State

/-- The tokens of a document spell that document. -/
theorem ofTokens?_tokens (document : Json) : ofTokens? document.tokens = some document := by
  rw [ofTokens?, State.foldlM_tokens]
  rfl

end Interlock.Json
