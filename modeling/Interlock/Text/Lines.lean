namespace Interlock.Text

/-- The pieces between separators; there is one more piece than there are
    separators. -/
def splitAll {α : Type} [BEq α] (separator : α) : List α → List (List α)
  | [] => [[]]
  | a :: rest =>
    match splitAll separator rest with
    | [] => [[a]]
    | piece :: pieces => if a == separator then [] :: piece :: pieces else (a :: piece) :: pieces

/-- Drops one final element when it is the given one. -/
def dropOneEnd {α : Type} [BEq α] (last : α) (cs : List α) : List α :=
  if cs.getLast? == some last then cs.dropLast else cs

/-- A piece that a line feed ends loses one carriage return before it; text
    after the last line feed is a line only when there is some. -/
def closeLines : List (List Char) → List (List Char)
  | [] => []
  | [last] => if last.isEmpty then [] else [last]
  | piece :: next :: rest => dropOneEnd '\r' piece :: closeLines (next :: rest)

/-- The lines of a text, without their ends. -/
def lines (s : String) : List String :=
  (closeLines (splitAll '\n' s.toList)).map String.ofList

/-- The text of several lines, each ended by a line feed. -/
def unlines (ls : List String) : String :=
  String.join (ls.map (· ++ "\n"))

end Interlock.Text
