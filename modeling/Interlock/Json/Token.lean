import Interlock.Json.Value

namespace Interlock.Json

open Interlock.Number

/-- A token of a JSON text. -/
inductive Token where
  | arrayOpen
  | arrayClose
  | objectOpen
  | objectClose
  | comma
  | colon
  /-- A document that is neither an array nor an object. -/
  | scalar (value : Json)

/-- The characters of a quoted text, in reverse. A unit of a surrogate pair
    waits for its partner in `lead`; `lone` records that one was left without. -/
structure Quoted where
  done : List Char := []
  lead : Option Nat := none
  lone : Bool := false

namespace Quoted

/-- A leading unit that is followed by anything but a trailing one is alone. -/
def settle (q : Quoted) : Quoted :=
  { q with lead := none, lone := q.lone || q.lead.isSome }

/-- Adds a character that stands for itself or was escaped by one letter. -/
def push (q : Quoted) (c : Char) : Quoted :=
  let q := q.settle
  { q with done := c :: q.done }

/-- Adds a 16-bit unit that was written as four hexadecimal digits. -/
def pushUnit (q : Quoted) (unit : Nat) : Quoted :=
  if 0xD800 ≤ unit && unit < 0xDC00 then { q.settle with lead := some unit }
  else if 0xDC00 ≤ unit && unit < 0xE000 then
    match q.lead with
    | some lead =>
      let c := Char.ofNat (0x10000 + (lead - 0xD800) * 0x400 + (unit - 0xDC00))
      { q with done := c :: q.done, lead := none }
    | none => { q with lone := true }
  else q.push (Char.ofNat unit)

/-- The text of a finished quotation; `none` when it names half of a pair. -/
def toText (q : Quoted) : Option String :=
  let q := q.settle
  if q.lone then none else some (String.ofList q.done.reverse)

end Quoted

/-- What the reader is in the middle of, between two characters. -/
inductive Mode where
  | between
  | numeral (done : List Char)
  | word (done : List Char)
  | quoted (q : Quoted)
  /-- After a backslash. -/
  | escape (q : Quoted)
  /-- After some of the four digits of a unit. -/
  | hex (q : Quoted) (digits : Nat) (value : Nat)

/-- The value of a hexadecimal digit in either case. -/
def hexValue? (c : Char) : Option Nat :=
  if '0' ≤ c && c ≤ '9' then some (c.toNat - '0'.toNat)
  else if 'a' ≤ c && c ≤ 'f' then some (c.toNat - 'a'.toNat + 10)
  else if 'A' ≤ c && c ≤ 'F' then some (c.toNat - 'A'.toNat + 10)
  else none

/-- The character that a one-letter escape stands for. -/
def simpleEscape? : Char → Option Char
  | '"' => some '"'
  | '\\' => some '\\'
  | '/' => some '/'
  | 'b' => some '\x08'
  | 'f' => some '\x0c'
  | 'n' => some '\n'
  | 'r' => some '\r'
  | 't' => some '\t'
  | _ => none

/-- The characters that numerals are made of. Whether they make one is decided
    at the end of the numeral. -/
def isNumeralChar (c : Char) : Bool :=
  Interlock.Text.isDigit c || c == '-' || c == '+' || c == '.' || c == 'e' || c == 'E'

/-- The characters of the words `null`, `true` and `false`. -/
def isWordChar (c : Char) : Bool :=
  'a' ≤ c && c ≤ 'z'

/-- A character outside of numerals, words and quotes: the tokens it makes and
    the mode after. -/
def begin? (c : Char) : Option (List Token × Mode) :=
  match c with
  | ' ' | '\n' | '\t' | '\r' => some ([], .between)
  | '[' => some ([.arrayOpen], .between)
  | ']' => some ([.arrayClose], .between)
  | '\x7b' => some ([.objectOpen], .between)
  | '\x7d' => some ([.objectClose], .between)
  | ',' => some ([.comma], .between)
  | ':' => some ([.colon], .between)
  | '"' => some ([], .quoted {})
  | c =>
    if Interlock.Text.isDigit c || c == '-' then some ([], .numeral [c])
    else if isWordChar c then some ([], .word [c])
    else none

/-- The document that a word stands for. -/
def ofWord? (word : List Char) : Option Json :=
  if word == "null".toList then some .null
  else if word == "true".toList then some (.bool true)
  else if word == "false".toList then some (.bool false)
  else none

/-- The token that ends with a numeral or a word, if one is being read. -/
def Mode.finish? : Mode → Option (List Token)
  | .between => some []
  | .numeral done => (Numeral.ofChars? done.reverse).map fun n => [.scalar (.number n)]
  | .word done => (ofWord? done.reverse).map fun value => [.scalar value]
  | _ => none

/-- Reads one character. -/
def Mode.step? (mode : Mode) (c : Char) : Option (List Token × Mode) :=
  match mode with
  | .between => begin? c
  | .numeral done =>
    if isNumeralChar c then some ([], .numeral (c :: done))
    else do
      let made ← mode.finish?
      let (next, after) ← begin? c
      return (made ++ next, after)
  | .word done =>
    if isWordChar c then some ([], .word (c :: done))
    else do
      let made ← mode.finish?
      let (next, after) ← begin? c
      return (made ++ next, after)
  | .quoted q =>
    if c == '"' then some ([.scalar (.text q.toText)], .between)
    else if c == '\\' then some ([], .escape q)
    else if c.toNat < 0x20 then none
    else some ([], .quoted (q.push c))
  | .escape q =>
    if c == 'u' then some ([], .hex q 0 0)
    else (simpleEscape? c).map fun plain => ([], .quoted (q.push plain))
  | .hex q digits value =>
    (hexValue? c).map fun d =>
      let value := 16 * value + d
      if digits == 3 then ([], .quoted (q.pushUnit value)) else ([], .hex q (digits + 1) value)

/-- All tokens of a text; `none` when a character fits nowhere or the text ends
    too early. The tokens already made are handed along in reverse. -/
def tokensFrom (mode : Mode) (made : List Token) : List Char → Option (List Token)
  | [] => mode.finish?.map fun last => (last.reverse ++ made).reverse
  | c :: rest =>
    match mode.step? c with
    | none => none
    | some (next, after) => tokensFrom after (next.reverse ++ made) rest

/-- All tokens of a text. -/
def tokens? (s : String) : Option (List Token) :=
  tokensFrom .between [] s.toList

end Interlock.Json
