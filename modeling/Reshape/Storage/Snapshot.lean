import Reshape.Storage

/-!
Snapshots: files in memory under the directory that relative paths start from. A directory exists as
long as a file is below it.
-/

namespace Reshape

/-- Files under the names that lead to them. -/
structure Snapshot where
  files : List (List String × Bytes)
  deriving Repr

namespace Snapshot

/-- The parts of a path between its slashes. -/
def parts (path : String) : List String :=
  path.splitOn "/"

/-- The names that lead to a file or directory: two dots go back by one. -/
def names (path : String) : List String :=
  let step := fun (done : List String) part =>
    if part = "" ∨ part = "." then done
    else if part = ".." then done.tail
    else part :: done
  ((parts path).foldl step []).reverse

/-- The snapshot of files under their paths, the last one of a path counting. -/
def ofFiles (files : List (String × Bytes)) : Snapshot :=
  ⟨files.reverse.map fun (path, content) => (names path, content)⟩

/-- The content of the file that names lead to. -/
def content? (snapshot : Snapshot) (names : List String) : Option Bytes :=
  snapshot.files.lookup names

/-- Whether names lead to a directory. -/
def hasDirectory (snapshot : Snapshot) (names : List String) : Bool :=
  names.isEmpty || snapshot.files.any fun (file, _) =>
    names.isPrefixOf file && names.length < file.length

/-- Whether a path can only be one of a directory. -/
def endsOpen (path : String) : Bool :=
  ["", ".", ".."].contains ((parts path).getLastD "")

/-- Whether names lead through a file. -/
def passesFile (snapshot : Snapshot) (names : List String) : Bool :=
  (List.range names.length).any fun length => (snapshot.content? (names.take length)).isSome

/-- What reading a path gives. Absolute paths lead out of the snapshot. -/
def read (snapshot : Snapshot) (path : String) : Except Refusal Bytes :=
  let names := names path
  if path.isEmpty || path.startsWith "/" then .error .missing
  else match snapshot.content? names with
    | some content => if endsOpen path then .error .notDirectory else .ok content
    | none =>
      if snapshot.hasDirectory names then .error .directory
      else if snapshot.passesFile names then .error .notDirectory
      else .error .missing

/-- Whether a path leads to a directory. -/
def isDirectory (snapshot : Snapshot) (path : String) : Bool :=
  !path.isEmpty && !path.startsWith "/" && snapshot.hasDirectory (names path)

/-- A path with more names behind it. -/
def join (path : String) (rest : List String) : String :=
  let tail := "/".intercalate rest
  if rest.isEmpty then path else if path.endsWith "/" then path ++ tail else path ++ "/" ++ tail

/-- The paths of all files at or below a path. -/
def filesBelow (snapshot : Snapshot) (path : String) : List String :=
  let start := names path
  let below := snapshot.files.filterMap fun (file, _) =>
    if start.isPrefixOf file then some (join path (file.drop start.length)) else none
  if path.isEmpty || path.startsWith "/" then [] else below.eraseDups

/-- The snapshot as storage; what is read without a path is empty. -/
def storage (snapshot : Snapshot) : Storage Id where
  read := snapshot.read
  isDirectory := snapshot.isDirectory
  files := snapshot.filesBelow
  input := []

end Snapshot

end Reshape
