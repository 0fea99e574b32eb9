import Interlock.Number.Numeral

namespace Interlock

open Interlock.Number

/-- A JSON document. Fields keep their order and may repeat. Text that names
    half of a surrogate pair spells no characters and is `none`; numbers keep
    the numeral they were written with. -/
inductive Json where
  | null
  | bool (b : Bool)
  | number (n : Numeral)
  | text (s : Option String)
  | array (items : List Json)
  | object (fields : List (Option String × Json))
  deriving Inhabited

namespace Json

/-- A text that spells characters. -/
def ofString (s : String) : Json :=
  .text (some s)

/-- A number, written in decimal. -/
def ofNat (n : Nat) : Json :=
  .number (Numeral.ofNat n)

/-- An object with the given fields in order. -/
def ofFields (fields : List (String × Json)) : Json :=
  .object (fields.map fun (key, value) => (some key, value))

/-- A value that may be absent, with null in its place. -/
def ofOption {α : Type} (encode : α → Json) : Option α → Json
  | none => null
  | some a => encode a

/-- The digits of a number below 16, as lower-case hexadecimal. -/
def hexDigit (n : Nat) : Char :=
  (Nat.digitChar n)

/-- A character inside quotes: the quote, the backslash and the control
    characters below U+0020 are escaped, and every other character stands for
    itself. -/
def escape (c : Char) : List Char :=
  match c with
  | '"' => ['\\', '"']
  | '\\' => ['\\', '\\']
  | '\x08' => ['\\', 'b']
  | '\x0c' => ['\\', 'f']
  | '\n' => ['\\', 'n']
  | '\r' => ['\\', 'r']
  | '\t' => ['\\', 't']
  | c =>
    if c.toNat < 0x20 then ['\\', 'u', '0', '0', hexDigit (c.toNat / 16), hexDigit (c.toNat % 16)]
    else [c]

/-- A text in quotes. -/
def quote (s : String) : String :=
  String.ofList ('"' :: s.toList.flatMap escape ++ ['"'])

mutual

/-- The text of a document without blanks. -/
def compact : Json → String
  | null => "null"
  | bool b => if b then "true" else "false"
  | number n => String.ofList n.toChars
  | text s => quote (s.getD "\uFFFD")
  | array items => "[" ++ compactItems items ++ "]"
  | object fields => "\x7b" ++ compactFields fields ++ "\x7d"

/-- The items of an array, with commas between them. -/
def compactItems : List Json → String
  | [] => ""
  | [item] => compact item
  | item :: next :: rest => compact item ++ "," ++ compactItems (next :: rest)

/-- The fields of an object, with commas between them. -/
def compactFields : List (Option String × Json) → String
  | [] => ""
  | [(key, value)] => quote (key.getD "\uFFFD") ++ ":" ++ compact value
  | (key, value) :: next :: rest =>
    quote (key.getD "\uFFFD") ++ ":" ++ compact value ++ "," ++ compactFields (next :: rest)

end

/-- The value of the first field with the given name. -/
def lookup? (name : String) : List (Option String × Json) → Option Json
  | [] => none
  | (key, value) :: rest => if key == some name then some value else lookup? name rest

/-- The number of fields with the given name. -/
def occurrences (name : String) (fields : List (Option String × Json)) : Nat :=
  fields.countP fun field => field.1 == some name

end Json

end Interlock
