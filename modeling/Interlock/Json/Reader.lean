import Interlock.Json.Token

namespace Interlock.Json

/-- A document that is still open, with what it holds so far in reverse. A field
    is an object whose last name still waits for its value. -/
inductive Frame where
  | array (done : List Json)
  | object (done : List (Option String × Json))
  | field (done : List (Option String × Json)) (key : Option String)

/-- What has to come next. -/
inductive Expected where
  | value
  /-- The first item of an array, or its end. -/
  | item
  /-- The first name of an object, or its end. -/
  | firstName
  | name
  | colon
  /-- A comma, or the end of the innermost open document. -/
  | comma
  deriving DecidableEq

/-- A reader of JSON tokens between two of them: the open documents, innermost
    first, or the finished one. The open ones lie on a stack, so that a text may
    be nested as deep as it likes. -/
inductive State where
  | reading (frames : List Frame) (expected : Expected)
  | finished (document : Json)

/-- Puts a complete document into the innermost open one. -/
def State.accept? (value : Json) : List Frame → Option State
  | [] => some (.finished value)
  | .array done :: rest => some (.reading (.array (value :: done) :: rest) .comma)
  | .field done key :: rest => some (.reading (.object ((key, value) :: done) :: rest) .comma)
  | .object _ :: _ => none

/-- The start of a document. -/
def State.begin? (frames : List Frame) : Token → Option State
  | .scalar value => State.accept? value frames
  | .arrayOpen => some (.reading (.array [] :: frames) .item)
  | .objectOpen => some (.reading (.object [] :: frames) .firstName)
  | _ => none

/-- The name of a field. -/
def State.name? (frames : List Frame) : Token → Option State
  | .scalar (.text key) =>
    match frames with
    | .object done :: rest => some (.reading (.field done key :: rest) .colon)
    | _ => none
  | _ => none

/-- The end of the innermost open document. -/
def State.close? (frames : List Frame) : Token → Option State
  | .arrayClose =>
    match frames with
    | .array done :: rest => State.accept? (.array done.reverse) rest
    | _ => none
  | .objectClose =>
    match frames with
    | .object done :: rest => State.accept? (.object done.reverse) rest
    | _ => none
  | _ => none

/-- The token after a complete item or field. -/
def State.continue? (frames : List Frame) : Token → Option State
  | .comma =>
    match frames with
    | .array _ :: _ => some (.reading frames .value)
    | .object _ :: _ => some (.reading frames .name)
    | _ => none
  | token => State.close? frames token

/-- Reads one token. Nothing may follow the finished document. -/
def State.step? (state : State) (token : Token) : Option State :=
  match state with
  | .finished _ => none
  | .reading frames .value => State.begin? frames token
  | .reading frames .item => (State.begin? frames token).or (State.close? frames token)
  | .reading frames .firstName => (State.name? frames token).or (State.close? frames token)
  | .reading frames .name => State.name? frames token
  | .reading frames .colon =>
    match token with
    | .colon => some (.reading frames .value)
    | _ => none
  | .reading frames .comma => State.continue? frames token

/-- The one document that the tokens spell. -/
def ofTokens? (tokens : List Token) : Option Json :=
  match tokens.foldlM State.step? (.reading [] .value) with
  | some (.finished document) => some document
  | _ => none

/-- Reads a text as exactly one JSON document. -/
def parse? (s : String) : Option Json :=
  (tokens? s).bind ofTokens?

end Interlock.Json
