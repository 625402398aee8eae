/-
# Paths

A path names a file or a directory by the steps that lead to it, with slashes between them.  Empty
steps and single dots lead nowhere, two dots lead one level up.

Key definitions: `Path.join`, `Path.steps`, `Path.lastName?`, `Path.parent` and
`Path.withExtension`.
-/
import AssetSearch.Text.Pieces

namespace AssetSearch.Path

/-- A path that starts at another one; a path that starts with a slash stands for itself. -/
def join (base path : String) : String :=
  if base.isEmpty || path.startsWith "/" then path
  else if base.endsWith "/" then base ++ path
  else base ++ "/" ++ path

/-- The steps of a path. -/
def steps (path : String) : List String :=
  ((Text.pieces '/' path.toList).filter fun p => !p.isEmpty && p != ['.']).map String.ofList

/-! ## The last step -/

/-- A path, read from its end, without the slashes and the single dots that end it. -/
def dropIdle : List Char → List Char
  | '/' :: rest => dropIdle rest
  | '.' :: '/' :: rest => dropIdle rest
  | s => s

/-- The path up to its last step. -/
def body (path : String) : List Char :=
  (dropIdle path.toList.reverse).reverse

/-- Whether the path ends in the name of a file, and not in a slash or in dots. -/
def endsInStep (path : String) : Bool :=
  body path == path.toList

/-- The last step. -/
def lastStep (path : String) : List Char :=
  ((body path).reverse.takeWhile fun c => c != '/').reverse

/-- The path up to the last step, with the slash. -/
def beforeLast (path : String) : List Char :=
  ((body path).reverse.dropWhile fun c => c != '/').reverse

/-- The name that the path ends in; steps up are not names. -/
def lastName? (path : String) : Option (List Char) :=
  let name := lastStep path
  if name.isEmpty || name == ['.', '.'] then none else some name

/-- The path of the directory that the last step starts from. -/
def parent (path : String) : String :=
  String.ofList (dropIdle (beforeLast path).reverse).reverse

/-! ## Extensions -/

/-- A name without its extension, and the extension.  The last dot parts them; a dot at the start
of a name parts nothing. -/
def splitExtension (name : List Char) : List Char × Option (List Char) :=
  let stem := ((name.reverse.dropWhile fun c => c != '.').drop 1).reverse
  if stem.isEmpty then (name, none) else (stem, some (name.drop (stem.length + 1)))

/-- Whether a name turns into a step up when its extension is cut off behind the dot. -/
def isStepUpBefore (name : List Char) : Bool :=
  match splitExtension name with
  | (['.'], some (_ :: _)) => true
  | _ => false

/-- The path with another extension.  A path without a name stays as it is; so does one whose name
turns into a step up, but for that name. -/
def withExtension (path extension : String) : String :=
  match lastName? path with
  | none => path
  | some name =>
    if endsInStep path && isStepUpBefore name then String.ofList (beforeLast path ++ ['.', '.'])
    else String.ofList (beforeLast path ++ (splitExtension name).1) ++ "." ++ extension

end AssetSearch.Path
