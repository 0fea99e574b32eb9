import Interlock.Menu.Card
import Interlock.Menu.Path

namespace Interlock.Menu

/-- An entry with its contents; a file may be unreadable. -/
structure CatalogEntry extends CardEntry where
  bytes : List UInt8 := []
  unreadable : Bool := false
  deriving DecidableEq, Inhabited

/-- A card given directory by directory: the directories by their exact paths,
    each with its entries in order. -/
structure Catalog where
  directories : List (String × List CatalogEntry) := []
  deriving Inhabited

namespace Catalog

/-- A directory that is not in the catalog cannot be read. -/
def list (c : Catalog) (dir : String) : Except AccessFailure (List CardEntry) :=
  match c.directories.find? (·.1 == dir) with
  | some (_, entries) => .ok (entries.map (·.toCardEntry))
  | none => .error .menuDirectory

/-- The readable files with their paths. -/
def files (c : Catalog) : List (String × List UInt8) :=
  c.directories.flatMap fun (dir, entries) =>
    (entries.filter fun e => !e.isDirectory && !e.unreadable).map fun e =>
      (joinPath dir e.name, e.bytes)

/-- Of two files with one path the later counts. -/
def read (c : Catalog) (path : String) : Except AccessFailure (List UInt8) :=
  match c.files.reverse.find? (·.1 == path) with
  | some (_, bytes) => .ok bytes
  | none => .error .menuFile

/-- The catalog as a card. -/
def toCard (c : Catalog) : Card :=
  ⟨c.list, c.read⟩

end Catalog

end Interlock.Menu
