namespace Interlock.Menu

/-- Drops the slashes that end a path; a path of slashes alone becomes one
    slash. -/
def trimDirChars (path : List Char) : List Char :=
  let trimmed := (path.reverse.dropWhile (· == '/')).reverse
  if trimmed.isEmpty then path.take 1 else trimmed

/-- A path on the card without the slashes that end it. -/
def trimDir (path : String) : String :=
  String.ofList (trimDirChars path.toList)

/-- The path of an entry of a directory. -/
def joinPath (dir name : String) : String :=
  if dir.toList.getLast? = some '/' then dir ++ name else dir ++ "/" ++ name

/-- What precedes the last slash; `none` without a slash. -/
def beforeLastSlash? (path : List Char) : Option (List Char) :=
  match path.reverse.dropWhile (· != '/') with
  | [] => none
  | _ :: before => some before.reverse

/-- The directory that a path lies in. A path without a slash is its own parent. -/
def parentOf (path : String) : String :=
  match beforeLastSlash? path.toList with
  | none => path
  | some [] => "/"
  | some before => String.ofList before

/-- The last component of a path. -/
def baseName (path : String) : String :=
  String.ofList (path.toList.reverse.takeWhile (· != '/')).reverse

end Interlock.Menu
