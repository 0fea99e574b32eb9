import Interlock.Failure

namespace Interlock.Menu

/-- An entry of a directory on the memory card that holds menus and job files. -/
structure CardEntry where
  name : String
  isDirectory : Bool
  size : Nat
  deriving DecidableEq, Inhabited

/-- A card that does not change: the entries of its directories in their order,
    and the bytes of its files. -/
structure Card where
  list : String → Except AccessFailure (List CardEntry)
  read : String → Except AccessFailure (List UInt8)

/-- No card at all: nothing can be listed or read. -/
def Card.absent : Card where
  list _ := .error .menuDirectory
  read _ := .error .menuFile

/-- Whether a name ends in an extension, up to case, and has something before
    it. -/
def hasExtension (extension name : String) : Bool :=
  let cs := name.toList
  let keep := cs.length - extension.toList.length
  0 < keep && (cs.drop keep).map Char.toLower == extension.toList

/-- Which entries of a directory are lines. -/
inductive EntryFilter where
  /-- Menu definitions. Directories are menus of their own, which other lines lead to. -/
  | definitions
  /-- Job files and directories. -/
  | jobs
  deriving DecidableEq, Inhabited

namespace EntryFilter

/-- The extension of the entries that a filter keeps. -/
def extension : EntryFilter → String
  | definitions => ".txt"
  | jobs => ".gcode"

/-- Entries whose name starts with a point are hidden. -/
def accepts (filter : EntryFilter) (entry : CardEntry) : Bool :=
  if entry.name.toList.head? = some '.' then false
  else if entry.isDirectory then filter = .jobs
  else hasExtension filter.extension entry.name

end EntryFilter

/-- Whether a path names a job file. -/
def isJobName (path : String) : Bool :=
  hasExtension EntryFilter.jobs.extension path

/-- The entries of a directory that are lines. -/
def Card.candidates (card : Card) (dir : String) (filter : EntryFilter) :
    Except AccessFailure (List CardEntry) :=
  (card.list dir).map fun entries => entries.filter filter.accepts

end Interlock.Menu
