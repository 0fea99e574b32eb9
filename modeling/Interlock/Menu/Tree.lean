import Interlock.Log
import Interlock.Menu.Card
import Interlock.Menu.Path
import Interlock.Registry
import Interlock.Text.Lines

namespace Interlock.Menu

open Interlock.Text

/-- A card whose contents are a directory tree: files with their bytes, and
    directories without, by their path below the root. The root itself is not
    among them. Paths on the card are absolute and begin at the mount point,
    which stands for the root of the tree. -/
structure CardTree where
  nodes : Registry (Option (List UInt8)) := {}
  deriving Inhabited

namespace CardTree

/-- Where the tree is mounted on the card. -/
def mountPoint : String := "/sd"

/-- The path below the root that a card path names. Paths outside of the mount
    point count from the root as well. -/
def relative (path : String) : String :=
  let cs := path.toList
  let mount := mountPoint.toList
  let rest := cs.drop mount.length
  let inside := mount.isPrefixOf cs && (rest.isEmpty || rest.head? == some '/')
  String.ofList ((if inside then rest else cs).dropWhile (· == '/'))

/-- The components of a path, empty ones included. -/
def components (path : String) : List String :=
  (splitAll '/' path.toList).map String.ofList

/-- The path of an entry of a directory below the root. -/
def child (dir name : String) : String :=
  if dir = "" then name else dir ++ "/" ++ name

/-- The directory of a path below the root. -/
def parent (path : String) : String :=
  String.ofList ((beforeLastSlash? path.toList).getD [])

/-- Adds a path with its last component as given, and the directories on the way
    to it. -/
def addFrom (t : CardTree) (dir : String) (leaf : Option (List UInt8)) : List String → CardTree
  | [] => t
  | [name] =>
    match leaf with
    | none => ⟨t.nodes.insertIfNew (child dir name) none⟩
    | some bytes => ⟨t.nodes.insert (child dir name) (some bytes)⟩
  | name :: next :: rest =>
    addFrom ⟨t.nodes.insertIfNew (child dir name) none⟩ (child dir name) leaf (next :: rest)

/-- Adds a file; a path that ends in a slash adds a directory. -/
def add (t : CardTree) (path : String) (bytes : List UInt8) : CardTree :=
  let leaf := if path.toList.getLast? = some '/' then none else some bytes
  t.addFrom "" leaf ((components path).filter (· ≠ ""))

/-- Why a path does not lead to what is asked for. -/
inductive PathFault where
  | missing
  /-- A step starts from a file, or a file stands where a directory is asked for. -/
  | notDirectory
  /-- A directory stands where a file is asked for. -/
  | isDirectory
  /-- A name or the whole path has more bytes than allowed. -/
  | tooLong
  /-- The path holds the character that ends paths. -/
  | endsInside
  deriving DecidableEq, Inhabited

/-- The text of a fault as the operating system words it. -/
def PathFault.message : PathFault → String
  | missing => "No such file or directory (os error 2)"
  | notDirectory => "Not a directory (os error 20)"
  | isDirectory => "Is a directory (os error 21)"
  | tooLong => "File name too long (os error 36)"
  | endsInside => "file name contained an unexpected NUL byte"

/-- The most bytes of a name. -/
def maxNameLength : Nat := 255

/-- The most bytes of a path below the root. -/
def maxPathLength : Nat := 4095

/-- Where a path leads: to a path below the root, or out of the tree to a
    directory above it, which is there but shows nothing of what it holds. -/
inductive Place where
  | inside (path : String)
  | outside
  deriving DecidableEq, Inhabited

/-- Whether a place is a directory; outside of the tree there are only
    directories. -/
def isDirectory (t : CardTree) : Place → Bool
  | .inside path => path = "" || t.nodes.find? path == some none
  | .outside => true

/-- The place of a name in a directory. -/
def enter (t : CardTree) (name : String) : Place → Except PathFault Place
  | .inside dir =>
    if t.nodes.contains (child dir name) then .ok (.inside (child dir name)) else .error .missing
  | .outside => .error .missing

/-- The directory above a place. -/
def above : Place → Place
  | .inside path => if path = "" then .outside else .inside (parent path)
  | .outside => .outside

/-- Follows one component of a path, which needs a directory to start from: an
    empty one and `.` stay, and `..` goes up. -/
def step (t : CardTree) (place : Place) (name : String) : Except PathFault Place :=
  if !t.isDirectory place then .error .notDirectory
  else if name = "" ∨ name = "." then .ok place
  else if name = ".." then .ok (above place)
  else if maxNameLength < name.utf8ByteSize then .error .tooLong
  else t.enter name place

/-- The place that a card path names. -/
def locate (t : CardTree) (path : String) : Except PathFault Place :=
  if path.toList.contains '\x00' then .error .endsInside
  else if maxPathLength < (relative path).utf8ByteSize then .error .tooLong
  else (components (relative path)).foldlM t.step (.inside "")

/-- The entries of a directory in the order of their names. -/
def entries (t : CardTree) (dir : String) : List CardEntry :=
  (t.nodes.entries.filter fun node => parent node.1 = dir).map fun node =>
    ⟨baseName node.1, node.2.isNone, (node.2.getD []).length⟩

/-- The entries of the directory that a path names. A directory outside of the
    tree shows none. -/
def list (t : CardTree) (path : String) : Except PathFault (List CardEntry) := do
  match ← t.locate path with
  | .inside dir =>
    if t.isDirectory (.inside dir) then return t.entries dir else throw .notDirectory
  | .outside => return []

/-- The bytes of the file that a path names. -/
def read (t : CardTree) (path : String) : Except PathFault (List UInt8) := do
  match ← t.locate path with
  | .inside path =>
    match t.nodes.find? path with
    | some (some bytes) => return bytes
    | _ => throw .isDirectory
  | .outside => throw .isDirectory

/-- What a failed listing writes to the log. -/
def listRecords (t : CardTree) (path : String) : List LogRecord :=
  match t.list path with
  | .ok _ => []
  | .error fault => [⟨.warn, s!"sd: cannot list {path}: {fault.message}"⟩]

/-- What a failed reading writes to the log. -/
def readRecords (t : CardTree) (path : String) : List LogRecord :=
  match t.read path with
  | .ok _ => []
  | .error fault => [⟨.warn, s!"sd: cannot read {path}: {fault.message}"⟩]

/-- The tree as a card. A reader learns only that the access failed. -/
def toCard (t : CardTree) : Card where
  list path := (t.list path).mapError fun _ => .menuDirectory
  read path := (t.read path).mapError fun _ => .menuFile

end CardTree

end Interlock.Menu
