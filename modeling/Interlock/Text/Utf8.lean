namespace Interlock.Text.Utf8

/-- An encoding whose first bytes have been read: the bits so far, the number of
    bytes still to come, and the range of the next one. The range excludes
    overlong forms, surrogates and values beyond the last character. -/
structure Unfinished where
  bits : Nat
  missing : Nat
  low : Nat := 0x80
  high : Nat := 0xBF

/-- What the reader knows after a byte: nothing is open, or an encoding is. -/
abbrev Pending := Option Unfinished

/-- Starts reading at a byte; `none` in the list stands for a byte that starts
    no encoding. -/
def start (b : Nat) : Pending × List (Option Char) :=
  if b < 0x80 then (none, [some (Char.ofNat b)])
  else if b < 0xC2 then (none, [none])
  else if b < 0xE0 then (some { bits := b - 0xC0, missing := 1 }, [])
  else if b < 0xF0 then
    (some { bits := b - 0xE0, missing := 2, low := if b == 0xE0 then 0xA0 else 0x80,
            high := if b == 0xED then 0x9F else 0xBF }, [])
  else if b < 0xF5 then
    (some { bits := b - 0xF0, missing := 3, low := if b == 0xF0 then 0x90 else 0x80,
            high := if b == 0xF4 then 0x8F else 0xBF }, [])
  else (none, [none])

/-- Reads one byte. One that cannot continue the open encoding closes it as
    malformed and starts anew. -/
def feed (pending : Pending) (b : Nat) : Pending × List (Option Char) :=
  match pending with
  | none => start b
  | some u =>
    if u.low ≤ b && b ≤ u.high then
      let bits := u.bits * 64 + (b - 0x80)
      if u.missing ≤ 1 then (none, [some (Char.ofNat bits)])
      else (some { bits, missing := u.missing - 1 }, [])
    else
      let (next, out) := start b
      (next, none :: out)

/-- Reads bytes from a given state on. An encoding that the end cuts off is
    malformed. -/
def scanFrom (pending : Pending) : List UInt8 → List (Option Char)
  | [] => if pending.isSome then [none] else []
  | b :: rest =>
    let (next, out) := feed pending b.toNat
    out ++ scanFrom next rest

/-- The characters that bytes encode as UTF-8, in order, with `none` for each
    malformed group. Bytes that encode nothing are grouped into the longest
    starts of an encoding, as the Unicode standard recommends for replacement. -/
def scan (bytes : List UInt8) : List (Option Char) :=
  scanFrom none bytes

/-- Malformed groups are replaced by U+FFFD. -/
def decodeLossy (bytes : List UInt8) : String :=
  String.ofList ((scan bytes).map fun c => c.getD '\uFFFD')

/-- Fails when any byte is malformed. -/
def decode? (bytes : List UInt8) : Option String :=
  ((scan bytes).mapM id).map String.ofList

/-- The bytes of a text. -/
def encode (s : String) : List UInt8 :=
  s.toUTF8.toList

end Interlock.Text.Utf8
